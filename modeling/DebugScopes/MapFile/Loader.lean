import DebugScopes.Console.Message
import DebugScopes.MapFile.Running

/-!
# Loading a map file

A file is taken as a whole or not at all. Its map is laid over the defaults if it has been run to
its end, the version is a known one and the map is a dictionary; otherwise the defaults stay as they
are and one message says why. A file that never assigns the map leaves the defaults as they are,
too. The message about a version names it, so loading fails if the version cannot be written.

* `MapFile.foundOn` is the map of a file and what there is to say about the file;
* `MapFile.loadOn` lays the map over the defaults, and `MapFile.load` does so for a file of
  assignments;
* `MapFile.loadPrinting` is loading without a console to post messages to.
-/

namespace DebugScopes.MapFile

open Console

/-! ### Messages -/

/-- The message about a file that cannot be parsed, or fails. -/
def unread (file : String) : Message :=
  .ofLevel .warn ("Warning: error parsing file '" ++ file ++ "'")

/-- The message about a version that is not known. -/
def unknownVersion (file : String) (shown : Words) : Message :=
  .ofWords .err ("Error: Cannot read file '" ++ file ++ "' with version " ++ shown)

/-- The message about a map that is no dictionary. -/
def misshapen (file : String) : Message :=
  .ofLevel .err ("Error in format for file '" ++ file ++ "'")

/-! ### The map of a file -/

/-- Why a file cannot be loaded. -/
inductive Fault
  /-- An integer of the version has too many digits to be named. -/
  | illegibleVersion
  /-- Running the file does not come back. -/
  | stopped (stop : Stop)
deriving DecidableEq, Repr

/-- The names that count once a file has been run, and what there is to say if it has failed. -/
def settle (machine : Machine) (file map text : String) : Except Fault (Names × List Message) :=
  match machine.run text (.start map) with
  | .finished names => .ok (names, [])
  | .failed names => .ok (names.reset map, [unread file])
  | .stopped stop => .error (.stopped stop)

/-- Whether a file of this version can be read. Truth values count as numbers. -/
def isReadable (version : Value) : Bool :=
  match version.int? with
  | some v => v ≤ formatVersion
  | none => false

/-- The map among the names, and what there is to say about it. A map that does not count is
empty. -/
def judge (file map : String) (names : Names) : Except Fault (Entries × List Message) :=
  let version := (names versionName).getD .null
  if !isReadable version then
    match version.shown? with
    | none => .error .illegibleVersion
    | some shown => .ok ([], [unknownVersion file shown])
  else
    match names map with
    | some (.dict entries) => .ok (entries, [])
    | _ => .ok ([], [misshapen file])

/-- The map that a file gives, and what there is to say about the file. -/
def foundOn (machine : Machine) (file map text : String) :
    Except Fault (Entries × List Message) := do
  let (names, first) ← settle machine file map text
  let (above, more) ← judge file map names
  pure (above, first ++ more)

/-- The map that a file of assignments gives, and what there is to say about the file. -/
def found (file map text : String) : Except Fault (Entries × List Message) :=
  foundOn .plain file map text

/-! ### Loading -/

/-- Lays the map of that name in a file's text over the defaults, and reports what is wrong with the
file, if anything is. -/
def loadOn (machine : Machine) (file map : String) (defaults : Entries) (text : String) :
    Except Fault (Entries × List Message) := do
  let (above, messages) ← foundOn machine file map text
  pure (Entries.overlay defaults above, messages)

/-- Loads a file of assignments. -/
def load (file map : String) (defaults : Entries) (text : String) :
    Except Fault (Entries × List Message) :=
  loadOn .plain file map defaults text

/-- Why a file cannot be loaded without a console. -/
inductive PrintFault
  /-- The file cannot be loaded at all. -/
  | loading (fault : Fault)
  /-- What is wrong with the file cannot be written. -/
  | unwritable
deriving DecidableEq, Repr

/-- Loads a file without a console: what there is to say is printed at once, without a colour. -/
def loadPrinting (machine : Machine) (file map : String) (defaults : Entries) (text : String) :
    Except PrintFault (Entries × String) :=
  match loadOn machine file map defaults text with
  | .error fault => .error (.loading fault)
  | .ok (loaded, messages) =>
    match (Words.join (messages.map fun m => m.words ++ "\n")).string? with
    | some printed => .ok (loaded, printed)
    | none => .error .unwritable

end DebugScopes.MapFile

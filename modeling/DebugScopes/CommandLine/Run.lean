import DebugScopes.CommandLine.Options
import DebugScopes.Decode.Snapshot
import DebugScopes.Session.Build
import DebugScopes.Session.Setup
import DebugScopes.Tree.Lookup

/-!
# The program

The program loads an image, builds its tree, and says which constructs of the source the program
counters on the command line belong to.

* `runOn` takes the arguments and the files, and returns what there is to see afterwards; `run` does
  so if the files are assignments.

An image that cannot be loaded and a tree that cannot be built end the program with status `1`. A
snapshot that lacks a part, or has something else in its place, stops it short; so does a byte order
in the settings file that is none, or an integer there that is too long to be shown, and a file that
does not come back when it is run. However the program ends, it waits for the console to write all
messages, and that is forever if one of them cannot be written.
-/

namespace DebugScopes.CommandLine

open Console

/-- Why the program is stopped short. -/
inductive Crash
  | session (fault : Session.Fault)
  | snapshot (fault : Snapshot.Fault)
  /-- The console is stuck, and the program waits for it. -/
  | console
deriving Repr

/-- What there is to see when the program has ended. -/
structure Report where
  status : Except Crash Nat
  written : String
  directory : Directory

/-- A part of the program. -/
abbrev Program (α : Type) := EStateM Crash Session α

namespace Program

/-- Runs a command of the session. -/
def command {α : Type} (action : Session.Action α) : Program α := action.adaptExcept .session

/-- Posts a message. -/
def tell (level : Level) (parts : List Value) : Program Unit :=
  modify fun s => s.tell level.value parts

/-! ### Settings -/

/-- Overrides settings as the options say. -/
def overrides (o : Options) : Program Unit := do
  if o.verbose then command (Session.override Settings.Key.verbose.name (.bool true))
  match o.graph with
  | some path =>
    if path = "" then pure ()
    else command (Session.override Settings.Key.graphFile.name (.text path))
  | none => pure ()

/-! ### The image -/

/-- Whether a fault of a snapshot is reported; the others stop the program. -/
def isReported : Snapshot.Fault → Bool
  | .missingKey _ | .tooManyBytes | .noMemory | .wrongKind | .stopped _ => false
  | _ => true

/-- Reports that there is no image. -/
def noImage (reason : String) : Program (Option Snapshot) := do
  tell .err [.text ("Could not load program image: " ++ reason)]
  pure none

/-- Loads an image, or reports why it cannot be loaded. -/
def image (machine : MapFile.Machine) (path : String) : Program (Option Snapshot) := do
  match (← get).directory.read path with
  | .error fault => noImage (fault.message (.text path))
  | .ok text =>
    let (loaded, messages) := Snapshot.loadOn machine path text
    modify fun s => s.postAll messages
    match loaded with
    | .ok snapshot => pure (some snapshot)
    | .error fault =>
      if isReported fault then noImage fault.message else throw (.snapshot fault)

/-! ### Answers -/

/-- The entry with an index, as text. -/
def entryText (t : ScopeTree) (i : Nat) : String :=
  match t.get? i with
  | some e => e.text
  | none => ""

/-- The entry at which the program starts, as text. -/
def startText (t : ScopeTree) : String :=
  match t.runtimeRoot with
  | some i => entryText t i
  | none => Value.null.written

/-- A line about the tree as a whole. -/
def summary (t : ScopeTree) : Program Unit :=
  tell .success [.text ("Decoded " ++ Numeral.decimal t.size ++ " entries in " ++
    Numeral.decimal t.units.length ++ " units; entry point " ++ startText t)]

/-- A line for an entry, indented by how deep it stands. -/
def listed (t : ScopeTree) (i : Nat) : Program Unit :=
  tell .info [.text (String.join (List.replicate (t.depth i) "  ")), .text (entryText t i)]

/-- What an entry is called in an answer: its name, or else its tag. -/
def scopeText (t : ScopeTree) (i : Nat) : String :=
  match t.get? i with
  | some e => e.name?.getD ("<" ++ e.tagName ++ ">")
  | none => ""

/-- A line for a program counter. -/
def located (t : ScopeTree) (pc : Int) : Program Unit :=
  let place := Numeral.paddedHex 8 pc
  match t.scopes pc with
  | [] => tell .warn [.text (place ++ ": no source construct")]
  | scopes => tell .info [.text (place ++ ": " ++ " > ".intercalate (scopes.map (scopeText t)))]

/-- All answers. -/
def answers (o : Options) (t : ScopeTree) : Program Unit := do
  summary t
  if o.list then t.listing.forM (listed t)
  o.counters.forM (located t)

/-! ### All together -/

/-- What the program does once it knows its options. -/
def body (machine : MapFile.Machine) (o : Options) : Program Nat := do
  command (Session.startOn machine .file)
  overrides o
  match ← image machine o.image with
  | none => pure 1
  | some snapshot =>
    match ← command (Session.attempt snapshot.decoder) with
    | none => pure 1
    | some t => do
      answers o t
      pure 0

end Program

/-- What there is to see of a session once the console has written its messages. -/
def Report.ofSession (status : Except Crash Nat) (s : Session) : Report where
  status := if Console.isWritable s.messages.toList then status else .error .console
  written := s.transcript
  directory := s.directory

/-- Runs the program on arguments and files. -/
def runOn (machine : MapFile.Machine) (args : List String) (directory : Directory) : Report :=
  match Options.parse args with
  | .leave status text => ⟨.ok status, text, directory⟩
  | .options o =>
    match Program.body machine o (Session.blank true directory) with
    | .ok status s => .ofSession (.ok status) s
    | .error crash s => .ofSession (.error crash) s

/-- Runs the program on arguments and on files of assignments. -/
def run (args : List String) (directory : Directory) : Report := runOn .plain args directory

end DebugScopes.CommandLine

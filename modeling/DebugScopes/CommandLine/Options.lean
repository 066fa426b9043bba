import DebugScopes.CommandLine.Flag
import DebugScopes.Text.Integer

/-!
# Options

The flags are taken in their order: a later image or graph file takes the place of an earlier one,
program counters are added up, and help and version end the program where they stand. An argument
that has no place does so only once all flags have been taken, and so does a missing image.

* `Cluster.ofFlag` takes short flags in one argument apart;
* `Options.parse` reads the arguments.
-/

namespace DebugScopes.CommandLine

/-- What the command line asks for. -/
structure Options where
  image : String
  graph : Option String
  counters : List Int
  list : Bool
  verbose : Bool
deriving DecidableEq, Repr

/-- What reading the arguments comes to. -/
inductive Outcome
  | options (options : Options)
  /-- The program ends with a status, having written a text. -/
  | leave (status : Nat) (text : String)
deriving DecidableEq, Repr

namespace Outcome

/-- The arguments cannot be understood. -/
def misuse : Outcome := leave 2 ""

/-- The name and the version of the program. -/
def versionText : String := "DWARF source tree builder (srctree) version 0.1.0\n"

/-- A summary of the flags. -/
def helpText : String :=
  "usage: srctree [-h] -i image_file [--dot dot_file] [--pc PC] [--list] [-v]\n" ++
  "               [--version]\n\n" ++
  "Build the source tree of a program image's debug info and look up $PC values\n\n" ++
  "options:\n" ++
  "  -h, --help            show this help message and exit\n" ++
  "  -i image_file, --image image_file\n" ++
  "                        program image snapshot to decode\n" ++
  "  --dot dot_file        write the source tree as a graphviz file\n" ++
  "  --pc PC               $PC value to resolve to a source construct\n" ++
  "                        (repeatable)\n" ++
  "  --list                print every decoded entry\n" ++
  "  -v, --verbose\n" ++
  "  --version             show program's version number and exit\n"

end Outcome

/-! ### Flags in one argument -/

/-- What comes behind the flags of one argument that take no value. -/
inductive Ending
  | nothing
  | value (flag : Flag) (text : String)
  /-- A flag whose value is the next argument. -/
  | wants (flag : Flag)
deriving DecidableEq, Repr

/-- The flags of one argument: those that take no value, in their order, and what comes behind
them. -/
structure Cluster where
  flags : List Flag
  ending : Ending
deriving DecidableEq, Repr

namespace Cluster

/-- A flag to which nothing is attached. -/
def alone (f : Flag) : Cluster := if f.takesValue then ⟨[], .wants f⟩ else ⟨[f], .nothing⟩

/-- The cluster with one more flag in front. -/
def behind (f : Flag) (cluster : Cluster) : Cluster := { cluster with flags := f :: cluster.flags }

/-- A flag to which a text is attached: its value, or more short flags, the last of which may have
the rest of the text as its value. A text that is neither is nothing at all. -/
def ofAttached (short : Bool) (f : Flag) (text : List Char) : Option Cluster :=
  if f.takesValue then some ⟨[], .value f (String.ofList text)⟩
  else if !short then none
  else
    match text with
    | [] => none
    | c :: rest =>
      match Flag.ofSpelling? ['-', c] with
      | none => none
      | some g =>
        match rest with
        | [] => some ((alone g).behind f)
        | d :: more => (ofAttached true g (d :: more)).map (behind f)
termination_by text.length

/-- A flag with what is attached to it, or nothing if the flag cannot have it. -/
def ofFlag (f : Flag) (short : Bool) : Option (List Char) → Option Cluster
  | none => some (alone f)
  | some text => ofAttached short f text

end Cluster

/-! ### All arguments -/

/-- What the arguments have come to so far. `stray` says that one has no place. -/
structure Collected where
  image : Option String
  graph : Option String
  counters : List Int
  list : Bool
  verbose : Bool
  stray : Bool
deriving DecidableEq, Repr

namespace Collected

/-- Nothing has been read yet. -/
def start : Collected := ⟨none, none, [], false, false, false⟩

/-- Takes a flag without a value; it may end the program. -/
def takeFlag (c : Collected) : Flag → Except Outcome Collected
  | .help => .error (.leave 0 Outcome.helpText)
  | .version => .error (.leave 0 Outcome.versionText)
  | .list => .ok { c with list := true }
  | .verbose => .ok { c with verbose := true }
  | .image | .graph | .counter => .error .misuse

/-- Takes a flag with its value. -/
def takeValue (c : Collected) (flag : Flag) (text : String) : Except Outcome Collected :=
  match flag with
  | .image => .ok { c with image := some text }
  | .graph => .ok { c with graph := some text }
  | .counter =>
    match Integer.ofText? text with
    | some pc => .ok { c with counters := c.counters ++ [pc] }
    | none => .error .misuse
  | _ => .error .misuse

/-- Takes the flags of one argument, and the next arguments' value if it is wanted. Returns the
arguments that are left. -/
def takeCluster (c : Collected) (cluster : Cluster) (rest : List Piece) :
    Except Outcome (Collected × { left : List Piece // left.length ≤ rest.length }) :=
  match cluster.ending, rest with
  | .nothing, rest => do
    let c ← cluster.flags.foldlM takeFlag c
    .ok (c, ⟨rest, Nat.le_refl _⟩)
  | .value flag text, rest => do
    let c ← cluster.flags.foldlM takeFlag c
    .ok (← c.takeValue flag text, ⟨rest, Nat.le_refl _⟩)
  | .wants flag, .plain text :: rest => do
    let c ← cluster.flags.foldlM takeFlag c
    .ok (← c.takeValue flag text, ⟨rest, Nat.le_succ _⟩)
  | .wants _, _ => .error .misuse

/-- Takes all arguments. -/
def takeAll (c : Collected) : List Piece → Except Outcome Collected
  | [] => .ok c
  | .flag f short attached :: rest =>
    match Cluster.ofFlag f short attached with
    | none => .error .misuse
    | some cluster =>
      match c.takeCluster cluster rest with
      | .ok (c, left) => c.takeAll left.1
      | .error outcome => .error outcome
  | _ :: rest => { c with stray := true }.takeAll rest
termination_by pieces => pieces.length
decreasing_by
  · exact Nat.lt_succ_of_le left.2
  · simp

/-- What the arguments have come to in the end. -/
def outcome (c : Collected) : Outcome :=
  match c.image, c.stray with
  | some image, false => .options ⟨image, c.graph, c.counters, c.list, c.verbose⟩
  | _, _ => .misuse

end Collected

/-- Reads the arguments. -/
def Options.parse (args : List String) : Outcome :=
  match Piece.readAll args with
  | none => .misuse
  | some pieces =>
    match Collected.start.takeAll pieces with
    | .ok c => c.outcome
    | .error outcome => outcome

end DebugScopes.CommandLine

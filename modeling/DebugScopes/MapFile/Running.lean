import DebugScopes.MapFile.Writer
import DebugScopes.Value.Reader

/-!
# Running a map file

A map file is a program: it is run, and the names that are set in the end are what it says. What a
row of assignments sets is known from `Reader`. Any other text may do anything: set names in another
way, fail at some place, leave the program altogether, or never come to an end. So a file is run by
a `Machine`, of which nothing is known but what it makes of assignments. What a name stands for in
the end is a `Value`; one that runs a program of its own when it is looked at is none.

* `Machine.rows?` are the assignments of a text, and `Machine.run` is how running it ends;
* `Machine.plain` is the machine that fails at everything but assignments;
* `Names.start` are the names that a file finds, and `Names.reset` those that count in the place of
  what a failed file has set.
-/

namespace DebugScopes.MapFile

/-- What names stand for. -/
abbrev Names := String → Option Value

namespace Names

/-- Gives a name a value. -/
def set (names : Names) (name : String) (v : Value) : Names :=
  fun other => if name = other then some v else names other

/-- Gives names values, one after the other. -/
def assign (names : Names) (rows : List (String × Value)) : Names :=
  rows.foldl (fun names row => names.set row.1 row.2) names

/-- The names that a file finds: there is only the map, and it is empty. -/
def start (map : String) : Names := set (fun _ => none) map (.dict [])

/-- The names that count if a file has failed: an empty map of the present version. -/
def reset (names : Names) (map : String) : Names :=
  (names.set map (.dict [])).set versionName (.int formatVersion)

/-- The name under which a file finds what can be called without having been set. -/
def builtins : String := "__builtins__"

/-- None of the names that can be called stands for something else, neither before a row of
assignments nor by one of them, and they are found where they always are. -/
def LeaveCalls (names : Names) (rows : List (String × Value)) : Prop :=
  ∀ name ∈ builtins :: Reader.callable, names name = none ∧ ∀ row ∈ rows, row.1 ≠ name

end Names

/-- Why running a text does not come back. -/
inductive Stop
  /-- The text leaves the program. -/
  | left
  /-- The text has no end. -/
  | endless
deriving DecidableEq, Repr

/-- How running a text ends. -/
inductive Outcome
  /-- The text has been run to its end, and these are the names. -/
  | finished (names : Names)
  /-- The text cannot be parsed, or something in it has failed when these were the names. -/
  | failed (names : Names)
  /-- There is no coming back. -/
  | stopped (stop : Stop)

/-- What runs texts. It may know more literals than `Reader` does, which says what the assignments
in a text are unless something else is called under the names that it knows. A row of assignments is
run from its first line to its last; of other texts nothing is known. -/
structure Machine where
  /-- The assignments of a text that is nothing but a row of them, and the values that they have if
  the names are these. -/
  rows? : String → Names → Option (List (String × Value))
  rows?_of_read : ∀ {text : String} {names : Names} {rows : List (String × Value)},
    Reader.assignments? text = some rows → names.LeaveCalls rows → rows? text names = some rows
  /-- How running a text ends. -/
  run : String → Names → Outcome
  run_rows : ∀ {text : String} {names : Names} {rows : List (String × Value)},
    rows? text names = some rows → run text names = .finished (names.assign rows)

/-- The machine that knows no other literals, and fails at every text that is no row of
assignments. -/
def Machine.plain : Machine where
  rows? text _ := Reader.assignments? text
  rows?_of_read := fun read _ => read
  run text names :=
    match Reader.assignments? text with
    | some rows => .finished (names.assign rows)
    | none => .failed names
  run_rows := by
    intro text names rows read
    rw [read]

end DebugScopes.MapFile

import DebugScopes.Decode.Tree
import DebugScopes.Session.Setup
import DebugScopes.Tree.Graph

/-!
# Building trees

The tree of a session is that of the image decoded last. A tree that cannot be built leaves the
session without one. What is decoded comes as a `Decoder`, which waits for the settings.

* `Session.build` builds a tree, or fails;
* `Session.attempt` builds a tree, or reports what is damaged;
* `Session.drawTo` writes a tree as a graph.
-/

namespace DebugScopes.Session

open Console

/-- What stands for the time that building took, which is not measured. -/
def unmeasured : String := "<T>"

/-! ### Graphs -/

/-- The name that a value is. -/
def nameOf (v : Value) : Action FileName :=
  match FileName.ofValue v with
  | .ok name => pure name
  | .error fault => throw (.noName v fault)

/-- Writes a tree as a graph. A file that cannot be written is reported and does no harm; a path
with a zero character is not even tried. -/
def drawTo (path : Value) (t : ScopeTree) : Action Bool := do
  let name ← nameOf path
  fun s =>
    match s.directory.writeNamed name t.graphText with
    | .ok directory =>
      let s := { s with directory := directory }
      .ok true (s.say [.text "Wrote source tree graph to ", path])
    | .error .zeroCharacter => .error (.file path .zeroCharacter) s
    | .error fault =>
      .ok false (s.tell Level.warn.value
        [.text "Could not write DOT file ", path, .text (": " ++ fault.message path)])

/-- Writes a tree to the file that the settings name, if they name one. -/
def drawAsSet (t : ScopeTree) : Action Unit := do
  let path := (← get).settings.graphFile
  if path.isTrue then do
    let _ ← drawTo path t
  else pure ()

/-! ### Trees -/

/-- Decodes as the settings say, and posts the notes. -/
def decode (decoder : Decoder) : Action ScopeTree := fun s =>
  let (result, notices) := decoder s.settings.order s.settings.entryPoint
  match result with
  | .ok t => .ok t (s.reportAll notices)
  | .error failure => .error (.decoding failure) (s.reportAll notices)

/-- Builds a tree. -/
def build (decoder : Decoder) : Action ScopeTree := do
  modify fun s => { s with tree := none }
  let t ← decode decoder
  drawAsSet t
  modify fun s =>
    { s with tree := some t }.say [.text ("Built source tree in " ++ unmeasured ++ "ms.")]
  pure t

/-- Reports a damage. -/
def reportDamage (s : Session) (damage : Damage) (failure : Failure) : Session :=
  let s := s.tell Level.err.value
    [.text "Error while reading debug info: ", .ofWords damage.message]
  let s := s.tell Level.err.value
    [.text "Could not build source tree. Was the program compiled with -g?"]
  s.say [.text failure.drawing]

/-- Builds a tree, or reports the damage that keeps it from being built. -/
def attempt (decoder : Decoder) : Action (Option ScopeTree) := fun s =>
  match build decoder s with
  | .ok t s => .ok (some t) s
  | .error (.decoding failure) s =>
    match failure.damage? with
    | some damage => .ok none (s.reportDamage damage failure)
    | none => .error (.decoding failure) s
  | .error fault s => .error fault s

end DebugScopes.Session

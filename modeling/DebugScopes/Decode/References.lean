import DebugScopes.Decode.Notice
import DebugScopes.Failure.Trail
import DebugScopes.Tree.Basic
import DebugScopes.Value.Printer

/-!
# References between entries

Two things are known only when all entries have been read: where the program starts, and the names
of the entries that complete others.

* `ScopeTree.start?` finds the entry with the name of the entry point that has code;
* `ScopeTree.complete` gives the entries that complete others the names of those.

Names are handed on in the order of the listing, and an entry takes the name that the other one has
by then.
-/

namespace DebugScopes

/-- A name as a value, to compare a setting with. -/
def Value.ofName : Option String → Value
  | some name => text name
  | none => null

namespace ScopeTree

/-- Whether the entry has this name, and code. -/
def isStart (t : ScopeTree) (entryPoint : Value) (i : Nat) : Bool :=
  match t.get? i with
  | some e => (Value.ofName e.name).same entryPoint && !e.ranges.isEmpty
  | none => false

/-- The first entry that has this name, and code. -/
def start? (t : ScopeTree) (entryPoint : Value) : Option Nat :=
  t.listing.find? (t.isStart entryPoint)

/-- The tree with its start, which has to be there. -/
def started (t : ScopeTree) (entryPoint : Value) : Except Failure ScopeTree :=
  match t.start? entryPoint, entryPoint.shown? with
  | some i, _ => .ok (t.startingAt i)
  | none, some name => .error (.ofDamage (.noEntryPoint name))
  | none, none => .error (.ofCause .illegible)

/-- What an entry refers to: its own address, and that of the entry which it completes. -/
def referenceOf (t : ScopeTree) (i : Nat) : Option (Int × Int) := do
  let e ← t.get? i
  let addr ← e.addr?
  let target ← e.target
  pure (addr, target)

/-- The name of an entry. -/
def nameOf (t : ScopeTree) (i : Nat) : Option String := (t.get? i).bind (·.name)

/-- Gives an entry the name of the one that it completes. -/
def completeOne (t : ScopeTree) (i : Nat) : ScopeTree × List Notice :=
  match t.referenceOf i with
  | none => (t, [])
  | some (addr, target) =>
    match t.entryAt? target with
    | none => (t, [.unknownTarget addr target])
    | some j => (t.update i fun d => { d with name := t.nameOf j }, [])

/-- Gives entries the names of the ones that they complete, one after the other. -/
def completeIn (t : ScopeTree) : List Nat → ScopeTree × List Notice
  | [] => (t, [])
  | i :: rest =>
    let (t, first) := t.completeOne i
    let (t, more) := t.completeIn rest
    (t, first ++ more)

/-- Gives all entries that complete others the names of those. -/
def complete (t : ScopeTree) : ScopeTree × List Notice := t.completeIn t.listing

end ScopeTree

end DebugScopes

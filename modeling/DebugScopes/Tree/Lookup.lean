import DebugScopes.Tree.Basic

/-!
# Looking up a program counter

A program counter belongs to the method whose ranges include it, and within the method to the blocks
around it. Methods are looked for below the root and the units only: a unit whose ranges leave the
program counter out is passed over as a whole, and one that has no ranges is looked through.

* `ScopeTree.find` is the method of a program counter;
* `ScopeTree.scopes` is the chain from the method to the innermost block.
-/

namespace DebugScopes.ScopeTree

/-- Whether an entry includes a program counter. -/
def contains (t : ScopeTree) (i : Nat) (pc : Int) : Bool :=
  match t.get? i with
  | some e => e.covers pc
  | none => false

/-- The first entry at or below `i` that includes a program counter and is neither the root nor a
unit. -/
def findFrom (t : ScopeTree) (pc : Int) (i : Nat) : Option Nat :=
  match t.get? i with
  | none => none
  | some e =>
    if e.isRoot || e.isUnit then
      if !e.ranges.isEmpty && !e.covers pc then none
      else (t.childrenOf i).attach.findSome? fun ⟨c, _⟩ => t.findFrom pc c
    else if e.covers pc then some i else none
termination_by t.entries.size - i
decreasing_by
  have := childrenOf_gt ‹_›
  omega

/-- The first entry that includes a program counter and is neither the root nor a unit. -/
def find (t : ScopeTree) (pc : Int) : Option Nat := t.findFrom pc 0

/-- An entry, its first child that includes a program counter, that child's first such child, and so
on. -/
def scopesFrom (t : ScopeTree) (pc : Int) (i : Nat) : List Nat :=
  match _found : (t.childrenOf i).find? fun c => t.contains c pc with
  | none => [i]
  | some c => i :: t.scopesFrom pc c
termination_by t.entries.size - i
decreasing_by
  have := childrenOf_gt (List.mem_of_find?_eq_some _found)
  omega

/-- The entries around a program counter, from the method inwards. -/
def scopes (t : ScopeTree) (pc : Int) : List Nat :=
  match t.find pc with
  | none => []
  | some i => t.scopesFrom pc i

end DebugScopes.ScopeTree

import DebugScopes.Tree.Basic
import Std.Data.TreeMap

/-!
# Catalogues

A catalogue is a tree with what it keeps to answer again without looking through its entries: which
entry was the first at an address, and the listing. The listing is made with a stack of entries when
it is first asked for, and then kept until another entry is added. All other questions are answered
from the tree, and leave the catalogue as it is.

* `ScopeTree.walk` lists what is below the entries on a stack;
* `Catalogue.add` and `Catalogue.update` change the tree;
* `Catalogue.flattened` and `Catalogue.entryAt?` answer;
* `Catalogue.afterAll` is the catalogue that a row of such uses leaves.
-/

namespace DebugScopes

namespace ScopeTree

/-- How many entries a walk has to go through for a stack. -/
def toWalk (t : ScopeTree) (stack : List Nat) : Nat := (stack.flatMap t.preorder).length

theorem toWalk_append (t : ScopeTree) (front back : List Nat) :
    t.toWalk (front ++ back) = t.toWalk front + t.toWalk back := by
  rw [toWalk, List.flatMap_append, List.length_append]
  rfl

theorem toWalk_reverse (t : ScopeTree) (stack : List Nat) :
    t.toWalk stack.reverse = t.toWalk stack := by
  induction stack with
  | nil => rfl
  | cons i rest ih =>
    rw [List.reverse_cons, toWalk_append, ih, Nat.add_comm, ← toWalk_append]
    rfl

/-- An entry is one more than all that is below it. -/
theorem toWalk_children (t : ScopeTree) (i : Nat) :
    t.toWalk [i] = t.toWalk (t.childrenOf i) + 1 := by
  rw [toWalk, List.flatMap_singleton, preorder_eq, List.length_cons]
  rfl

/-- The entries on a stack with everything below them, taken from its end: the last entry goes to
the end of what is listed, and its children take its place on the stack, the first of them last. -/
def walk (t : ScopeTree) (stack listed : Array Nat) : Array Nat :=
  match _top : stack.back? with
  | none => listed
  | some i => t.walk (stack.pop ++ (t.childrenOf i).reverse.toArray) (listed.push i)
termination_by t.toWalk stack.toList
decreasing_by
  obtain ⟨rest, rfl⟩ := Array.back?_eq_some_iff.1 _top
  have below := t.toWalk_children i
  simp only [Array.pop_push, Array.toList_append, Array.toList_push, toWalk_append, toWalk_reverse]
  omega

end ScopeTree

/-- A tree, the first entry at each address, and the listing, if it has been asked for and no entry
has been added since. -/
structure Catalogue where
  tree : ScopeTree
  byAddr : Std.TreeMap Int Nat
  listed : Option (Array Nat)

namespace Catalogue

/-- The catalogue of the root alone. -/
def empty : Catalogue := ⟨.empty, ∅, none⟩

/-! ### Changing a catalogue -/

/-- Adds an entry as the last child of `parent`. Under an entry that is not there nothing is
added. -/
def add (c : Catalogue) (parent : Nat) (place : Place) (d : Description) : Catalogue :=
  if parent < c.tree.entries.size then
    { tree := c.tree.add parent place d
      byAddr := c.byAddr.insertIfNew place.addr c.tree.entries.size
      listed := none }
  else c

/-- Changes what an entry says of itself. -/
def update (c : Catalogue) (i : Nat) (f : Description → Description) : Catalogue :=
  { c with tree := c.tree.update i f }

/-! ### Asking a catalogue -/

/-- The entry that was the first to be added at an address. -/
def entryAt? (c : Catalogue) (addr : Int) : Option Nat := c.byAddr[addr]?

/-- All entries but the root, parents before children, siblings in their order. What is listed is
kept. -/
def flattened : StateM Catalogue (Array Nat) := fun c =>
  match c.listed with
  | some listed => (listed, c)
  | none =>
    let listed := c.tree.walk c.tree.units.reverse.toArray #[]
    (listed, { c with listed := some listed })

/-! ### Using a catalogue -/

/-- What can be done with a catalogue: an entry can be added or described anew, the listing can be
asked for, and anything else of the tree. -/
inductive Use
  | add (parent : Nat) (place : Place) (d : Description)
  | update (i : Nat) (f : Description → Description)
  | flattened
  | entryAt (addr : Int)

/-- The catalogue after a use. -/
def after (c : Catalogue) : Use → Catalogue
  | .add parent place d => c.add parent place d
  | .update i f => c.update i f
  | .flattened => (flattened c).2
  | .entryAt _ => c

/-- The catalogue after a row of uses. -/
def afterAll (c : Catalogue) (uses : List Use) : Catalogue := uses.foldl after c

end Catalogue

end DebugScopes

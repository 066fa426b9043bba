import DebugScopes.Position
import DebugScopes.Tree.Entry

/-!
# Source trees

A tree keeps its entries in the order in which they were added. Entry `0` is the root; its children
are the units. An entry is added under one that is there already, so a child always has a larger
index than its parent, which is part of the type and makes every walk over the tree end.

* `ScopeTree.add` puts an entry under another;
* `ScopeTree.update` changes what an entry says of itself;
* `ScopeTree.listing` lists the entries, parents before children;
* `ScopeTree.entryAt?` finds an entry by its address.
-/

namespace DebugScopes

/-- The entries of a program. `runtimeRoot` is the entry at which the program starts. -/
structure ScopeTree where
  entries : Array Entry
  runtimeRoot : Option Nat
  rooted : 0 < entries.size
  child_gt : ∀ (i : Nat) (h : i < entries.size), ∀ c ∈ entries[i].children,
    i < c ∧ c < entries.size
  parent_lt : ∀ (i : Nat) (h : i < entries.size), ∀ p, entries[i].parent = some p → p < i

namespace ScopeTree

/-- The tree of the root alone. -/
def empty : ScopeTree where
  entries := #[.root]
  runtimeRoot := none
  rooted := by simp
  child_gt i h c mem := by
    obtain rfl : i = 0 := by simp at h; exact h
    simp [Entry.root] at mem
  parent_lt i h p found := by
    obtain rfl : i = 0 := by simp at h; exact h
    simp [Entry.root] at found

instance : Inhabited ScopeTree := ⟨empty⟩

/-- The number of entries, the root apart. -/
def size (t : ScopeTree) : Nat := t.entries.size - 1

/-- The entry with an index. -/
def get? (t : ScopeTree) (i : Nat) : Option Entry := t.entries[i]?

/-- The index of the entry that a number means; a negative one counts from the end. -/
def index? (t : ScopeTree) (i : Int) : Option Nat := position? t.entries.size i

/-- The children of an entry. -/
def childrenOf (t : ScopeTree) (i : Nat) : List Nat :=
  match t.entries[i]? with
  | some e => e.children.toList
  | none => []

theorem childrenOf_gt {t : ScopeTree} {i c : Nat} (mem : c ∈ t.childrenOf i) :
    i < c ∧ c < t.entries.size := by
  unfold childrenOf at mem
  split at mem
  · next e found =>
    obtain ⟨inside, rfl⟩ := Array.getElem?_eq_some_iff.1 found
    exact t.child_gt i inside c (by simpa using mem)
  · simp at mem

/-- The parent of an entry. -/
def parentOf (t : ScopeTree) (i : Nat) : Option Nat :=
  match t.entries[i]? with
  | some e => e.parent
  | none => none

theorem parentOf_lt {t : ScopeTree} {i p : Nat} (found : t.parentOf i = some p) : p < i := by
  unfold parentOf at found
  split at found
  · next e there =>
    obtain ⟨inside, rfl⟩ := Array.getElem?_eq_some_iff.1 there
    exact t.parent_lt i inside p found
  · cases found

/-- The units. -/
def units (t : ScopeTree) : List Nat := t.childrenOf 0

/-- A tree as text. -/
def text (t : ScopeTree) : String :=
  "SourceTree(" ++ Numeral.decimal t.size ++ " entries, " ++
    Numeral.decimal t.units.length ++ " units)"

/-! ### Changing a tree -/

/-- The entry with one more child. -/
def adopting (c : Nat) (e : Entry) : Entry := { e with children := e.children.push c }

/-- Adds an entry as the last child of `parent`; its index is the number of entries before. Under an
entry that is not there nothing is added. -/
def add (t : ScopeTree) (parent : Nat) (place : Place) (d : Description) : ScopeTree :=
  if known : parent < t.entries.size then
    { entries := (t.entries.modify parent (adopting t.entries.size)).push
        ⟨d, some place, some parent, #[]⟩
      runtimeRoot := t.runtimeRoot
      rooted := by simp
      child_gt := by
        intro i h c mem
        simp only [Array.size_push, Array.size_modify] at h ⊢
        by_cases new : i = t.entries.size
        · subst new
          simp [Array.getElem_push] at mem
        · have old : i < t.entries.size := by omega
          rw [Array.getElem_push_lt (by simpa using old), Array.getElem_modify] at mem
          split at mem
          · simp only [adopting, Array.mem_push] at mem
            rcases mem with mem | rfl
            · have := t.child_gt i old c mem; omega
            · omega
          · have := t.child_gt i old c mem; omega
      parent_lt := by
        intro i h p found
        simp only [Array.size_push, Array.size_modify] at h
        by_cases new : i = t.entries.size
        · subst new
          simp [Array.getElem_push] at found
          omega
        · have old : i < t.entries.size := by omega
          rw [Array.getElem_push_lt (by simpa using old), Array.getElem_modify] at found
          split at found
          · exact t.parent_lt i old p found
          · exact t.parent_lt i old p found }
  else t

/-- The entry with a changed description. -/
def redescribed (f : Description → Description) (e : Entry) : Entry :=
  { e with toDescription := f e.toDescription }

/-- Changes what an entry says of itself. -/
def update (t : ScopeTree) (i : Nat) (f : Description → Description) : ScopeTree where
  entries := t.entries.modify i (redescribed f)
  runtimeRoot := t.runtimeRoot
  rooted := by simpa using t.rooted
  child_gt := by
    intro j h c mem
    simp only [Array.size_modify] at h ⊢
    rw [Array.getElem_modify] at mem
    split at mem
    · exact t.child_gt j h c mem
    · exact t.child_gt j h c mem
  parent_lt := by
    intro j h p found
    simp only [Array.size_modify] at h
    rw [Array.getElem_modify] at found
    split at found
    · exact t.parent_lt j h p found
    · exact t.parent_lt j h p found

/-- The tree with another start of the program. -/
def startingAt (t : ScopeTree) (i : Nat) : ScopeTree := { t with runtimeRoot := some i }

/-! ### Walking over a tree -/

/-- An entry and all entries below it, parents before children, siblings in their order. -/
def preorder (t : ScopeTree) (i : Nat) : List Nat :=
  i :: (t.childrenOf i).attach.flatMap fun ⟨c, _⟩ => t.preorder c
termination_by t.entries.size - i
decreasing_by
  have := childrenOf_gt ‹_›
  omega

theorem preorder_eq (t : ScopeTree) (i : Nat) :
    t.preorder i = i :: (t.childrenOf i).flatMap t.preorder := by
  rw [preorder]
  simp

/-- All entries but the root, parents before children, siblings in their order. -/
def listing (t : ScopeTree) : List Nat := t.units.flatMap t.preorder

/-- The entries around an entry, from the inside out. -/
def ancestors (t : ScopeTree) (i : Nat) : List Nat :=
  match _found : t.parentOf i with
  | some p => p :: t.ancestors p
  | none => []
termination_by i
decreasing_by exact parentOf_lt _found

/-- How deep an entry stands below its unit. -/
def depth (t : ScopeTree) (i : Nat) : Nat :=
  ((t.ancestors i).takeWhile fun j => (t.parentOf j).isSome).length

/-- The first entry that was added for an address. -/
def entryAt? (t : ScopeTree) (addr : Int) : Option Nat :=
  t.entries.findIdx? fun e => e.addr? == some addr

end ScopeTree

end DebugScopes

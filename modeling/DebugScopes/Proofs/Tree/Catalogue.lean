import DebugScopes.Proofs.Tree.Completing
import DebugScopes.Proofs.Tree.Order
import DebugScopes.Tree.Catalogue

/-!
# What a catalogue keeps

A catalogue keeps the listing that it was last asked for, and the first entry at each address. What
it keeps is never out of date: adding an entry drops the listing and notes the address, and nothing
else changes what a tree lists or where its entries were read. So whatever a catalogue has been used
for, it answers as its tree does; and its tree is the one that the entries make which were added, in
their order, each under its parent.

* `ScopeTree.walk_eq`: the walk with a stack lists what the recursion lists;
* `Catalogue.Current`: what is kept is what the tree gives, which every use preserves;
* `Catalogue.Does`: what a use does to the tree;
* `Catalogue.answers_afterAll`: what a catalogue answers after any row of uses.
-/

namespace DebugScopes

namespace ScopeTree

variable {t : ScopeTree} {parent i : Nat} {place : Place} {d : Description} {addr : Int}

/-! ### The walk -/

/-- A walk lists what is on the stack, from its end, each entry with all that is below it. -/
theorem walk_eq (t : ScopeTree) (stack listed : Array Nat) :
    (t.walk stack listed).toList =
      listed.toList ++ stack.toList.reverse.flatMap t.preorder := by
  fun_induction walk t stack listed with
  | case1 stack listed top =>
    obtain rfl := Array.back?_eq_none_iff.1 top
    simp
  | case2 stack listed i top ih =>
    obtain ⟨rest, rfl⟩ := Array.back?_eq_some_iff.1 top
    rw [ih, Array.pop_push]
    simp [preorder_eq t i]

/-! ### Addresses -/

/-- A new entry is the one at its address if there was none before. -/
theorem entryAt?_add (known : parent < t.entries.size) (addr : Int) :
    (t.add parent place d).entryAt? addr =
      (t.entryAt? addr).or (if place.addr = addr then some t.entries.size else none) := by
  have addresses : (t.add parent place d).entries.map (·.addr?) =
      (t.entries.map (·.addr?)).push (some place.addr) := by
    rw [entries_add known, Array.map_push]
    congr 1
    refine Array.ext (by simp) fun i _ _ => ?_
    rw [Array.getElem_map, Array.getElem_map, Array.getElem_modify]
    split <;> rfl
  have looked (t : ScopeTree) :
      t.entryAt? addr = (t.entries.map (·.addr?)).findIdx? (· == some addr) := by
    rw [Array.findIdx?_map]
    rfl
  rw [looked, looked, addresses, Array.findIdx?_push, Array.size_map]
  simp

/-- The parent of every entry and where it was read, in the order in which they were added. -/
def origins (t : ScopeTree) : List (Option Nat × Option Place) :=
  t.entries.toList.map fun e => (e.parent, e.place)

theorem length_origins (t : ScopeTree) : t.origins.length = t.entries.size := by
  rw [origins, List.length_map, Array.length_toList]

theorem getElem?_origins (t : ScopeTree) (i : Nat) :
    t.origins[i]? = (t.get? i).map fun e => (e.parent, e.place) := by
  rw [origins, List.getElem?_map, Array.getElem?_toList, get?]

theorem origins_add (known : parent < t.entries.size) :
    (t.add parent place d).origins = t.origins ++ [(some parent, some place)] := by
  refine List.ext_getElem? fun i => ?_
  rw [getElem?_origins, get?_add known, List.getElem?_append, length_origins, getElem?_origins]
  by_cases new : i = t.entries.size
  · subst new
    simp
  · by_cases old : i < t.entries.size
    · rw [if_neg new, if_pos old]
      split
      · cases t.get? i <;> rfl
      · rfl
    · have beyond : i - t.entries.size ≠ 0 := by omega
      rw [if_neg new, if_neg old, if_neg (by omega), get?_eq_none (by omega)]
      simp [beyond]

theorem origins_update (t : ScopeTree) (i : Nat) (f : Description → Description) :
    (t.update i f).origins = t.origins := by
  refine List.ext_getElem? fun j => ?_
  rw [getElem?_origins, getElem?_origins, get?_update]
  split
  · cases t.get? j <;> rfl
  · rfl

theorem addrOf_update (t : ScopeTree) (i : Nat) (f : Description → Description) (j : Nat) :
    (t.update i f).addrOf j = t.addrOf j := by
  unfold addrOf
  rw [get?_update]
  split
  · cases t.get? j <;> rfl
  · rfl

theorem entryAt?_update (t : ScopeTree) (i : Nat) (f : Description → Description) (addr : Int) :
    (t.update i f).entryAt? addr = t.entryAt? addr :=
  entryAt?_congr (addrOf_update t i f) addr

theorem listing_update (t : ScopeTree) (i : Nat) (f : Description → Description) :
    (t.update i f).listing = t.listing := by
  unfold listing units
  rw [childrenOf_update]
  refine List.flatMap_congr fun c child => ?_
  exact preorder_congr (childrenOf_gt child).2 fun j _ _ => childrenOf_update t i j f

end ScopeTree

namespace Catalogue

open ScopeTree

/-- What a catalogue keeps is what its tree gives: the listing, if one is kept, and the first entry
at every address. -/
structure Current (c : Catalogue) : Prop where
  made : c.tree.Made
  listed : ∀ listed ∈ c.listed, listed.toList = c.tree.listing
  byAddr : ∀ addr, c.entryAt? addr = c.tree.entryAt? addr

variable {c : Catalogue}

theorem current_empty : Current empty := by
  refine ⟨.empty, nofun, fun addr => ?_⟩
  have nowhere : ScopeTree.empty.entryAt? addr = none := by
    simp [ScopeTree.entryAt?, ScopeTree.empty, Entry.root, Entry.addr?]
  exact Std.TreeMap.getElem?_emptyc.trans nowhere.symm

/-- A new entry leaves nothing kept that is out of date: the listing is dropped, and the address of
the entry is noted unless it has been before. -/
theorem Current.add (current : Current c) (parent : Nat) (place : Place) (d : Description) :
    Current (c.add parent place d) := by
  unfold Catalogue.add
  split
  · next known =>
    refine ⟨.add place d current.made known, nofun, fun addr => ?_⟩
    have before := current.byAddr addr
    show (c.byAddr.insertIfNew place.addr c.tree.entries.size)[addr]? = _
    rw [entryAt?_add known, Std.TreeMap.getElem?_insertIfNew, ← before]
    unfold entryAt?
    by_cases same : place.addr = addr
    · subst same
      by_cases old : place.addr ∈ c.byAddr <;> simp [old]
    · simp [same]
  · exact current

theorem Current.update (current : Current c) (i : Nat) (f : Description → Description) :
    Current (c.update i f) := by
  refine ⟨.update i f current.made, fun listed kept => ?_, fun addr => ?_⟩
  · rw [current.listed listed kept]
    exact (listing_update c.tree i f).symm
  · exact (current.byAddr addr).trans (entryAt?_update c.tree i f addr).symm

/-- Whether it is kept or made, the listing that is answered is that of the tree. -/
theorem Current.flattened_eq (current : Current c) :
    (flattened c).1.toList = c.tree.listing := by
  unfold flattened
  cases kept : c.listed with
  | some listed => exact current.listed listed kept
  | none =>
    show (c.tree.walk _ #[]).toList = _
    rw [walk_eq]
    simp [listing]

/-- Being asked for the listing changes nothing but what is kept. -/
theorem flattened_snd (c : Catalogue) :
    (flattened c).2 = { c with listed := some (flattened c).1 } := by
  obtain ⟨tree, byAddr, listed⟩ := c
  cases listed <;> rfl

theorem Current.flattened (current : Current c) : Current (Catalogue.flattened c).2 := by
  rw [flattened_snd]
  refine ⟨current.made, fun listed kept => ?_, current.byAddr⟩
  obtain rfl := Option.some.inj kept
  exact current.flattened_eq

/-- Whatever a catalogue is used for, what it keeps does not get out of date. -/
theorem Current.after (current : Current c) (use : Use) : Current (c.after use) := by
  cases use with
  | add parent place d => exact current.add parent place d
  | update i f => exact current.update i f
  | flattened => exact current.flattened
  | entryAt addr => exact current

theorem Current.afterAll (current : Current c) (uses : List Use) : Current (c.afterAll uses) := by
  induction uses generalizing c with
  | nil => exact current
  | cons use rest ih => exact ih (current.after use)

/-! ### The tree of a catalogue -/

/-- What a use makes of a tree. A new entry comes behind all others, with what it says of itself and
where it was read, and is the last child of its parent; nothing else changes. An entry that is
described anew keeps its place and its children. Being asked changes nothing, and neither does
adding an entry under one that is not there. -/
def Does (t t' : ScopeTree) : Use → Prop
  | .add parent place d =>
    if parent < t.entries.size then
      t'.entries.size = t.entries.size + 1 ∧
        t'.get? t.entries.size = some ⟨d, some place, some parent, #[]⟩ ∧
        ∀ i < t.entries.size, t'.get? i = (t.get? i).map fun e =>
          if i = parent then { e with children := e.children.push t.entries.size } else e
    else t' = t
  | .update i f =>
    t'.entries.size = t.entries.size ∧ ∀ j, t'.get? j = (t.get? j).map fun e =>
      if j = i then { e with toDescription := f e.toDescription } else e
  | .flattened => t' = t
  | .entryAt _ => t' = t

theorem does_after (c : Catalogue) (use : Use) : Does c.tree (c.after use).tree use := by
  cases use with
  | add parent place d =>
    rw [Does]
    by_cases known : parent < c.tree.entries.size
    · have grown : (c.after (.add parent place d)).tree = c.tree.add parent place d :=
        congrArg tree (if_pos known)
      rw [if_pos known, grown]
      refine ⟨size_add known, get?_add_new known, fun i old => ?_⟩
      rw [get?_add known, if_neg (by omega)]
      split
      · rfl
      · exact Option.map_id'.symm
    · have same : (c.after (.add parent place d)).tree = c.tree := congrArg tree (if_neg known)
      rw [if_neg known, same]
  | update i f =>
    refine ⟨Array.size_modify, fun j => ?_⟩
    show (c.tree.update i f).get? j = _
    rw [get?_update]
    by_cases same : i = j
    · simp only [if_pos same, if_pos same.symm]
      rfl
    · simp only [if_neg same, if_neg (Ne.symm same)]
      exact Option.map_id'.symm
  | flattened =>
    show (Catalogue.flattened c).2.tree = c.tree
    rw [flattened_snd]
  | entryAt addr => rfl

/-- The entries that a row of uses adds to the root, in their order: the parent of each, which has
to be there when it is added, and where it was read. -/
def added (uses : List Use) : List (Nat × Place) :=
  uses.foldl
    (fun before use =>
      match use with
      | .add parent place _ =>
        if parent ≤ before.length then before ++ [(parent, place)] else before
      | _ => before)
    []

theorem added_concat (uses : List Use) (use : Use) :
    added (uses ++ [use]) =
      match use with
      | .add parent place _ =>
        if parent ≤ (added uses).length then added uses ++ [(parent, place)] else added uses
      | _ => added uses :=
  List.foldl_concat _ _ _ _

theorem afterAll_concat (c : Catalogue) (uses : List Use) (use : Use) :
    c.afterAll (uses ++ [use]) = (c.afterAll uses).after use :=
  List.foldl_concat _ _ _ _

/-- The tree has the entries that were added behind the root, and no others. -/
theorem origins_afterAll (uses : List Use) :
    (empty.afterAll uses).tree.origins =
      (none, none) :: (added uses).map fun row => (some row.1, some row.2) := by
  induction uses using List.reverseRecOn with
  | nil => rfl
  | append_singleton uses use ih =>
    have size : (empty.afterAll uses).tree.entries.size = (added uses).length + 1 := by
      rw [← length_origins, ih, List.length_cons, List.length_map]
    rw [afterAll_concat, added_concat]
    cases use with
    | add parent place d =>
      dsimp only
      by_cases known : parent < (empty.afterAll uses).tree.entries.size
      · have grown : ((empty.afterAll uses).after (.add parent place d)).tree =
            (empty.afterAll uses).tree.add parent place d :=
          congrArg tree (if_pos known)
        rw [grown, origins_add known, ih, if_pos (by omega), List.map_append]
        rfl
      · have same : ((empty.afterAll uses).after (.add parent place d)).tree =
            (empty.afterAll uses).tree :=
          congrArg tree (if_neg known)
        rw [same, ih, if_neg (by omega)]
    | update i f => exact (origins_update _ i f).trans ih
    | flattened => exact (congrArg origins (does_after _ .flattened)).trans ih
    | entryAt addr => exact ih

/-- Whatever a catalogue has been used for, and in whatever order: it answers with the listing of
its tree as it is then, and being asked leaves the tree as it is. The listing has every entry but
the root once, and what is below an entry directly behind it; siblings stand in it in the order in
which they were added. Every entry but the root has a parent that was added before it and has it
once among its children. And the entry at an address is the first that was added there. The tree is
that of the entries that were added, each under its parent; and a further use does to it what it is
for. -/
theorem answers_afterAll (uses : List Use) :
    let c := empty.afterAll uses
    ((flattened c).1.toList = c.tree.listing ∧ Preordered c.tree (flattened c).1.toList ∧
        (flattened c).2.tree = c.tree) ∧
      (∀ i, (c.tree.childrenOf i).Pairwise (· < ·)) ∧
      (∀ i, 0 < i → i < c.tree.entries.size →
        ∃ p < i, c.tree.parentOf i = some p ∧ (c.tree.childrenOf p).count i = 1) ∧
      (∀ addr i, c.entryAt? addr = some i ↔
        c.tree.addrOf i = some addr ∧ ∀ j < i, c.tree.addrOf j ≠ some addr) ∧
      c.tree.origins = (none, none) :: (added uses).map (fun row => (some row.1, some row.2)) ∧
      (∀ i p, i ∈ c.tree.childrenOf p ↔ c.tree.parentOf i = some p) ∧
      ∀ use, Does c.tree (empty.afterAll (uses ++ [use])).tree use := by
  intro c
  have current : Current c := current_empty.afterAll uses
  have linked := current.made.linked
  refine ⟨⟨current.flattened_eq, ?_, ?_⟩, current.made.pairwise_childrenOf,
    fun i => exists_parent linked, fun addr i => ?_, origins_afterAll uses,
    fun i p => linked.child_iff p i, fun use => ?_⟩
  · rw [current.flattened_eq]
    exact preordered_listing linked
  · rw [flattened_snd]
  · rw [current.byAddr, entryAt?_eq_some_iff]
  · rw [afterAll_concat]
    exact does_after c use

/-- Entries that are added out of turn, with questions between them: a second unit before the child
of the first, a further child of the first at the address of the first one, and one under an entry
that is not there. -/
def outOfTurn : List Use :=
  let d := Description.blank
  [.add 0 ⟨11, 0, 1⟩ d, .flattened, .add 0 ⟨31, 20, 1⟩ d, .entryAt 12, .add 1 ⟨12, 0, 2⟩ d,
    .flattened, .add 2 ⟨32, 20, 2⟩ d, .add 1 ⟨12, 0, 3⟩ d, .add 9 ⟨99, 0, 1⟩ d]

/-- The listing was asked for before the last entries were added, and is made anew. -/
theorem answers_afterAll_outOfTurn :
    let c := empty.afterAll outOfTurn
    (flattened (empty.afterAll (outOfTurn.take 6))).1.toList = [1, 3, 2] ∧
      (flattened c).1.toList = [1, 3, 5, 2, 4] ∧ c.tree.childrenOf 1 = [3, 5] ∧
      c.entryAt? 12 = some 3 ∧ c.entryAt? 99 = none := by
  intro c
  have listing : c.tree.listing = [1, 3, 5, 2, 4] := by decide +kernel
  have earlier : (empty.afterAll (outOfTurn.take 6)).tree.listing = [1, 3, 2] := by decide +kernel
  refine ⟨(answers_afterAll (outOfTurn.take 6)).1.1.trans earlier,
    (answers_afterAll outOfTurn).1.1.trans listing, by decide +kernel, ?_, ?_⟩
  · refine ((answers_afterAll outOfTurn).2.2.2.1 12 3).2 ⟨by decide +kernel, ?_⟩
    decide +kernel
  · decide +kernel

end Catalogue

end DebugScopes

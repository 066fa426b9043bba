import DebugScopes.Decode.Tree
import DebugScopes.Proofs.Bytes.Spelling
import DebugScopes.Proofs.Image.SymbolTable

/-!
# Pieces of a data segment

An assembler lays a data segment out piece by piece. Most pieces are items: it notes a descriptor
for each, with the address and the width.

* `image`: the image of a row of pieces;
* `Lies`: pieces that lie at a position, their descriptors from a slot on;
* `lies_image`: in the image of a row of pieces, the pieces lie from its start on;
* `Lies.append`: rows of pieces are taken apart.
-/

namespace DebugScopes

namespace Assembly

/-! ### Pieces -/

/-- Bytes that are laid out together, and whether a descriptor is noted for them. -/
structure Piece where
  bytes : List UInt8
  marked : Bool
deriving DecidableEq, Repr

namespace Piece

/-- Bytes with a descriptor. -/
def item (bytes : List UInt8) : Piece := ⟨bytes, true⟩

/-- A number as an item. -/
def number (order : ByteOrder) (width n : Nat) : Piece := item (order.spell width n)

/-- The number of bytes. -/
def size (p : Piece) : Nat := p.bytes.length

/-- The number of descriptors. -/
def slots (p : Piece) : Nat := if p.marked then 1 else 0

end Piece

/-- The bytes of a row of pieces. -/
def bytesOf (pieces : List Piece) : List UInt8 := pieces.flatMap (·.bytes)

/-- The number of bytes in a row of pieces. -/
def extent (pieces : List Piece) : Nat := (pieces.map (·.size)).sum

/-- The number of descriptors in a row of pieces. -/
def slotsOf (pieces : List Piece) : Nat := (pieces.map (·.slots)).sum

/-- The descriptors of a row of pieces that starts at a position. -/
def descriptorsFrom (pos : Nat) : List Piece → List Descriptor
  | [] => []
  | p :: rest =>
    (if p.marked then [⟨pos, p.size⟩] else []) ++ descriptorsFrom (pos + p.size) rest

/-- The image of a row of pieces. -/
def image (pieces : List Piece) (infoStart abbrevStart : Nat) : Image :=
  .ofParts (bytesOf pieces).toArray (.ofList (descriptorsFrom 0 pieces)) infoStart abbrevStart none

section Rows

variable {front back pieces : List Piece}

@[simp] theorem extent_nil : extent [] = 0 := rfl

@[simp] theorem extent_cons (p : Piece) (rest : List Piece) :
    extent (p :: rest) = p.size + extent rest := rfl

@[simp] theorem extent_append : extent (front ++ back) = extent front + extent back := by
  rw [extent, List.map_append, List.sum_append, extent, extent]

@[simp] theorem slotsOf_cons (p : Piece) (rest : List Piece) :
    slotsOf (p :: rest) = p.slots + slotsOf rest := rfl

@[simp] theorem slotsOf_append : slotsOf (front ++ back) = slotsOf front + slotsOf back := by
  rw [slotsOf, List.map_append, List.sum_append, slotsOf, slotsOf]

theorem length_bytesOf (pieces : List Piece) : (bytesOf pieces).length = extent pieces := by
  rw [bytesOf, List.length_flatMap]
  rfl

theorem length_descriptorsFrom (pos : Nat) (pieces : List Piece) :
    (descriptorsFrom pos pieces).length = slotsOf pieces := by
  induction pieces generalizing pos with
  | nil => rfl
  | cons p rest ih =>
    rw [descriptorsFrom, List.length_append, ih, slotsOf_cons, Piece.slots]
    split <;> rfl

theorem descriptorsFrom_append (pos : Nat) :
    descriptorsFrom pos (front ++ back) =
      descriptorsFrom pos front ++ descriptorsFrom (pos + extent front) back := by
  induction front generalizing pos with
  | nil => rfl
  | cons p rest ih =>
    rw [List.cons_append, descriptorsFrom, ih, descriptorsFrom, List.append_assoc, extent_cons,
      Nat.add_assoc]

/-- No piece with a descriptor is empty. -/
def Solid (pieces : List Piece) : Prop := ∀ p ∈ pieces, p.marked → p.bytes ≠ []

theorem Solid.nil : Solid [] := fun _ mem => absurd mem List.not_mem_nil

theorem Solid.cons {p : Piece} (full : p.marked → p.bytes ≠ []) (others : Solid back) :
    Solid (p :: back) := by
  intro q mem
  rcases List.mem_cons.1 mem with rfl | inside
  · exact full
  · exact others q inside

theorem Solid.map {α : Type} {f : α → Piece} (full : ∀ a, (f a).bytes ≠ []) (l : List α) :
    Solid (l.map f) := by
  intro p mem marked
  obtain ⟨a, -, rfl⟩ := List.mem_map.1 mem
  exact full a

theorem Solid.append (first : Solid front) (second : Solid back) : Solid (front ++ back) := by
  intro p mem
  rcases List.mem_append.1 mem with inside | inside
  · exact first p inside
  · exact second p inside

theorem descriptorsFrom_bounds {pos : Nat} {d : Descriptor} (solid : Solid pieces)
    (mem : d ∈ descriptorsFrom pos pieces) :
    (pos : Int) ≤ d.addr ∧ d.addr < (pos + extent pieces : Nat) := by
  induction pieces generalizing pos with
  | nil => cases mem
  | cons p rest ih =>
    rw [descriptorsFrom] at mem
    rw [extent_cons]
    rcases List.mem_append.1 mem with here | behind
    · by_cases marked : p.marked
      · have positive := List.length_pos_iff.2 (solid p List.mem_cons_self marked)
        rw [if_pos marked] at here
        rw [List.mem_singleton.1 here]
        show (pos : Int) ≤ pos ∧ (pos : Int) < _
        have size : p.size = p.bytes.length := rfl
        omega
      · rw [if_neg marked] at here
        cases here
    · have bounds := ih (fun q inside => solid q (List.mem_cons_of_mem _ inside)) behind
      omega

/-- The descriptors of a row come by increasing address. -/
theorem descriptorsFrom_sorted {pos : Nat} (solid : Solid pieces) :
    (descriptorsFrom pos pieces).Pairwise (·.addr < ·.addr) := by
  induction pieces generalizing pos with
  | nil => exact .nil
  | cons p rest ih =>
    have solid_rest : Solid rest := fun q inside => solid q (List.mem_cons_of_mem _ inside)
    rw [descriptorsFrom]
    by_cases marked : p.marked
    · have positive := List.length_pos_iff.2 (solid p List.mem_cons_self marked)
      rw [if_pos marked]
      refine List.pairwise_cons.2 ⟨fun d mem => ?_, ih solid_rest⟩
      have bounds := descriptorsFrom_bounds solid_rest mem
      have size : p.size = p.bytes.length := rfl
      show (pos : Int) < d.addr
      omega
    · rw [if_neg marked]
      exact ih solid_rest

end Rows

/-! ### Pieces that lie at a position -/

/-- An item of a size starts at a position, and its descriptor stands in a slot. -/
structure Marked (src : Source) (pos slot size : Nat) : Prop where
  inside : slot < src.items.count
  found : src.items.slot? pos = some slot
  row : src.items.row? slot = some ⟨.int pos, .int size⟩

/-- The pieces lie at a position, and their descriptors stand from a slot on. -/
def Lies (src : Source) : Nat → Nat → List Piece → Prop
  | pos, _, [] => (pos : Int) ≤ src.segment.length
  | pos, slot, p :: rest =>
    src.segment.Holds pos p.bytes ∧ (p.marked → Marked src pos slot p.size) ∧
      Lies src (pos + p.size) (slot + p.slots) rest

variable {src : Source} {pos slot : Nat} {p : Piece} {front back pieces : List Piece}

theorem lies_append :
    Lies src pos slot (front ++ back) ↔
      Lies src pos slot front ∧ Lies src (pos + extent front) (slot + slotsOf front) back := by
  induction front generalizing pos slot with
  | nil =>
    refine ⟨fun lies => ⟨?_, lies⟩, fun lies => lies.2⟩
    cases back with
    | nil => exact lies
    | cons p rest =>
      have short := lies.1.short
      show (pos : Int) ≤ src.segment.length
      omega
  | cons p rest ih =>
    rw [List.cons_append, Lies, Lies, ih, extent_cons, slotsOf_cons, Nat.add_assoc pos,
      Nat.add_assoc slot, and_assoc, and_assoc]

theorem Lies.left (lies : Lies src pos slot (front ++ back)) : Lies src pos slot front :=
  (lies_append.1 lies).1

theorem Lies.right (lies : Lies src pos slot (front ++ back)) :
    Lies src (pos + extent front) (slot + slotsOf front) back :=
  (lies_append.1 lies).2

/-- Pieces end inside the usable data. -/
theorem Lies.short (lies : Lies src pos slot pieces) :
    ((pos + extent pieces : Nat) : Int) ≤ src.segment.length := by
  induction pieces generalizing pos slot with
  | nil => exact lies
  | cons p rest ih =>
    have short := ih lies.2.2
    rwa [Nat.add_assoc] at short

theorem Lies.marked {bytes : List UInt8} (lies : Lies src pos slot (.item bytes :: pieces)) :
    Marked src pos slot bytes.length :=
  lies.2.1 rfl

/-- Where a row of items starts, there is a descriptor. -/
theorem Lies.slot? (lies : Lies src pos slot pieces) (some_item : pieces ≠ [])
    (items : ∀ p ∈ pieces, p.marked) : src.items.slot? pos = some slot := by
  cases pieces with
  | nil => exact absurd rfl some_item
  | cons p rest => exact (lies.2.1 (items p List.mem_cons_self)).found

/-! ### The image of a row of pieces -/

theorem rows_image {infoStart abbrevStart : Nat} (solid : Solid pieces) :
    (image pieces infoStart abbrevStart).symbols.rows.toList = descriptorsFrom 0 pieces :=
  SymbolTable.toList_ofList (descriptorsFrom_sorted solid)

theorem length_image {infoStart abbrevStart : Nat} :
    (image pieces infoStart abbrevStart).length = extent pieces := by
  show min ((none : Option Int).getD (bytesOf pieces).toArray.size) _ = _
  rw [Option.getD_none, Int.min_self, List.size_toArray, length_bytesOf]

theorem marked_image {infoStart abbrevStart : Nat} {order : Except OrderFault ByteOrder}
    (solid : Solid (front ++ p :: back)) (marked : p.marked) :
    Marked (.of (image (front ++ p :: back) infoStart abbrevStart) order) (extent front)
      (slotsOf front) p.size := by
  have stands : (image (front ++ p :: back) infoStart abbrevStart).symbols.rows[slotsOf front]? =
      some ⟨extent front, p.size⟩ := by
    rw [← Array.getElem?_toList, rows_image solid, descriptorsFrom_append, descriptorsFrom,
      if_pos marked, List.getElem?_append_right (Nat.le_of_eq (length_descriptorsFrom 0 front)),
      length_descriptorsFrom, Nat.sub_self, Nat.zero_add]
    rfl
  refine ⟨(Array.getElem?_eq_some_iff.1 stands).1, SymbolTable.slot?_of_getElem? stands, ?_⟩
  show ((image (front ++ p :: back) infoStart abbrevStart).symbols.rows[slotsOf front]?).map
    Item.ofDescriptor = _
  rw [stands]
  rfl

/-- Where bytes without a descriptor start, there is no descriptor. -/
theorem slot?_image {infoStart abbrevStart : Nat} (solid : Solid (front ++ p :: back))
    (unmarked : ¬ p.marked) (full : p.bytes ≠ []) :
    (image (front ++ p :: back) infoStart abbrevStart).symbols.slot? (extent front) = none := by
  apply SymbolTable.slot?_of_forall_ne
  intro d mem
  rw [SymbolTable.toList, rows_image solid, descriptorsFrom_append, descriptorsFrom,
    if_neg unmarked, Nat.zero_add] at mem
  rcases List.mem_append.1 mem with before | behind
  · have bounds := descriptorsFrom_bounds (fun q inside => solid q (List.mem_append_left _ inside))
      before
    omega
  · have bounds := descriptorsFrom_bounds (fun q inside =>
      solid q (List.mem_append_right _ (List.mem_cons_of_mem _ inside))) behind
    have positive : 0 < p.size := List.length_pos_iff.2 full
    omega

theorem holds_image {infoStart abbrevStart : Nat} {order : Except OrderFault ByteOrder} :
    ((image (front ++ p :: back) infoStart abbrevStart).segment order).Holds (extent front)
      p.bytes := by
  refine ⟨⟨bytesOf back, ?_⟩, ?_⟩
  · show _ = (bytesOf (front ++ p :: back)).toArray.toList.drop (extent front)
    have bytes : bytesOf (front ++ p :: back) = bytesOf front ++ (p.bytes ++ bytesOf back) := by
      simp only [bytesOf, List.flatMap_append, List.flatMap_cons]
    rw [List.toList_toArray, bytes, List.drop_left' (length_bytesOf front)]
  · show _ ≤ (image (front ++ p :: back) infoStart abbrevStart).length
    rw [length_image, extent_append, extent_cons, Piece.size]
    omega

theorem lies_image_behind {infoStart abbrevStart : Nat} {order : Except OrderFault ByteOrder}
    (solid : Solid (front ++ back)) :
    Lies (.of (image (front ++ back) infoStart abbrevStart) order) (extent front) (slotsOf front)
      back := by
  induction back generalizing front with
  | nil =>
    show _ ≤ (image (front ++ []) infoStart abbrevStart).length
    rw [length_image, extent_append]
    omega
  | cons p rest ih =>
    have further := ih (by rwa [List.append_cons] at solid)
    rw [← List.append_cons, extent_append, slotsOf_append] at further
    exact ⟨holds_image, marked_image solid, further⟩

/-- In the image of a row of pieces, the pieces lie from its start on. -/
theorem lies_image {infoStart abbrevStart : Nat} {order : Except OrderFault ByteOrder}
    (solid : Solid pieces) : Lies (.of (image pieces infoStart abbrevStart) order) 0 0 pieces :=
  lies_image_behind (show Solid ([] ++ pieces) from solid)

end Assembly

end DebugScopes

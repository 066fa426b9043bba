import DebugScopes.Proofs.Abbreviation.Keeping
import DebugScopes.Proofs.Assembly.Fields
import DebugScopes.Proofs.Decoding.Nesting

/-!
# Decoding assembled entries

Entries that have been laid out are read into the tree as their program describes them. The reading
follows the forest: an entry, those below it up to the zero that closes them, and then those beside
it.

* `Prepared`: a source with the texts and declarations of a program;
* `Reached`: how far the decoder has come, and with which tree;
* `head_record`: one entry;
* `entry_read`: an entry with those below it, if these are read;
* `below_forest`: all entries below another.
-/

namespace DebugScopes.Assembly

open Building

/-- A source in which the texts of a plan stand where it says, and whose table declares the rows. -/
structure Prepared (src : Source) (plan : Plan) (texts : List String) (rows : List Row)
    (index₀ : Abbreviation.Index) : Prop extends Laid src plan texts where
  valid : ∀ row ∈ rows, row.Valid
  declares : ∀ row ∈ rows,
    Abbreviation.Index.Declares src.segment index₀ row.code row.toDeclaration

/-- The decoder has come to a position with a tree, and has not warned of anything. -/
structure Reached (src : Source) (index₀ : Abbreviation.Index) (pos : Nat) (t : ScopeTree)
    (p : Progress) : Prop where
  pos : p.pos = pos
  tree : p.tree = t
  faithful : Abbreviation.Index.Faithful src.segment index₀ p.index
  quiet : ∀ n ∈ p.notices, n.level = .debug

/-- Pieces that lie inside the section of the entries. -/
def Inside (src : Source) (pos size : Nat) : Prop :=
  src.infoStart ≤ pos ∧ ((pos + size : Nat) : Int) ≤ src.abbrevStart

theorem Inside.starts {src : Source} {pos size : Nat} (inside : Inside src pos size)
    (positive : 0 < size) : src.infoStart ≤ pos ∧ (pos : Int) < src.abbrevStart := by
  obtain ⟨starts, ends⟩ := inside
  exact ⟨starts, by omega⟩

theorem Inside.part {src : Source} {pos size pos' size' : Nat} (inside : Inside src pos size)
    (starts : pos ≤ pos') (ends : pos' + size' ≤ pos + size) : Inside src pos' size' := by
  obtain ⟨first, last⟩ := inside
  exact ⟨by omega, by omega⟩

theorem Record.size_pos (record : Record) : 0 < record.size := by
  unfold Record.size
  omega

/-! ### Rows of items -/

/-- All pieces are items. -/
structure Items (pieces : List Piece) : Prop where
  marked : ∀ p ∈ pieces, p.marked

section Items

variable {plan : Plan} {listAddr : Nat} {front back : List Piece} {piece : Piece}

theorem Items.nil : Items [] := ⟨fun _ mem => absurd mem List.not_mem_nil⟩

theorem Items.cons (marked : piece.marked) (others : Items back) : Items (piece :: back) := by
  constructor
  intro p mem
  rcases List.mem_cons.1 mem with rfl | inside
  · exact marked
  · exact others.marked p inside

theorem Items.append (first : Items front) (second : Items back) : Items (front ++ back) := by
  constructor
  intro p mem
  rcases List.mem_append.1 mem with inside | inside
  · exact first.marked p inside
  · exact second.marked p inside

theorem items_field (f : Field) : Items (f.pieces plan listAddr) := by
  obtain ⟨attr, form, datum⟩ := f
  cases datum with
  | block width bytes =>
    refine .cons rfl ⟨fun p mem => ?_⟩
    obtain ⟨b, -, rfl⟩ := List.mem_map.1 mem
    rfl
  | absent => exact .nil
  | name | low | high | ranges | reference | item => exact .cons rfl .nil

theorem items_fields (fields : List Field) : Items (fieldsPieces plan listAddr fields) := by
  induction fields generalizing listAddr with
  | nil => exact .nil
  | cons f rest ih => exact (items_field f).append ih

theorem items_closing (record : Record) : Items (record.closingPieces plan) := by
  unfold Record.closingPieces
  split
  · exact .cons rfl .nil
  · exact .nil

theorem items_forest (forest : Forest) : Items (forest.pieces plan listAddr) := by
  induction forest generalizing listAddr with
  | nil => exact .nil
  | node record below rest ihBelow ihRest =>
    exact .cons rfl ((items_fields _).append
      (ihBelow.append ((items_closing record).append ihRest)))

end Items

/-! ### Sizes -/

section Sizes

variable {plan : Plan} {listAddr : Nat}

theorem extent_fields (fields : List Field) :
    extent (fieldsPieces plan listAddr fields) = fieldsSize fields := by
  induction fields generalizing listAddr with
  | nil => rfl
  | cons f rest ih =>
    rw [fieldsPieces, extent_append, extent_field, ih]
    rfl

theorem extent_record (record : Record) : extent (record.pieces plan listAddr) = record.size := by
  rw [Record.pieces, extent_cons, extent_fields, Piece.size, Piece.number, Piece.item,
    ByteOrder.length_spell]
  rfl

theorem extent_closing (record : Record) : extent (record.closingPieces plan) = record.closing := by
  unfold Record.closingPieces Record.closing
  split
  · exact ByteOrder.length_spell ..
  · rfl

theorem extent_forest (forest : Forest) : extent (forest.pieces plan listAddr) = forest.size := by
  induction forest generalizing listAddr with
  | nil => rfl
  | node record below rest ihBelow ihRest =>
    rw [Forest.pieces, extent_append, extent_append, extent_append, extent_record, ihBelow,
      extent_closing, ihRest, Forest.size]
    omega

theorem extent_entry (record : Record) (below : Forest) {listAddr' : Nat} :
    extent (record.pieces plan listAddr ++
        (below.pieces plan listAddr' ++ record.closingPieces plan)) =
      record.size + below.size + record.closing := by
  rw [extent_append, extent_append, extent_record, extent_forest, extent_closing]
  omega

end Sizes

/-! ### Codes -/

section Codes

variable {src : Source} {order : ByteOrder} {pos slot width n : Nat} {pieces : List Piece}

/-- What lies behind a number. -/
theorem Lies.behind (lies : Lies src pos slot (.number order width n :: pieces)) :
    Lies src (pos + width) (slot + 1) pieces := by
  have others := lies.2.2
  rwa [Piece.size, Piece.number, Piece.item, ByteOrder.length_spell] at others

/-- A code that has been laid out is read. -/
theorem Lies.code (lies : Lies src pos slot (.number order 1 n :: pieces)) (small : n < 256) :
    src.segment.byte (pos : Int) = .ok n ((pos + 1 : Nat) : Int) := by
  have coded := lies.1
  rw [Piece.number, Piece.item, ByteOrder.spell_one] at coded
  have read := coded.byte
  rwa [UInt8.toNat_ofNat', Nat.mod_eq_of_lt (show n < 2 ^ 8 from small)] at read

/-- Behind a code there is an item, if items follow. -/
theorem followed_of_items (lies : Lies src pos slot (.number order 1 n :: pieces))
    (some_item : pieces ≠ []) (items : Items pieces) :
    src.items.slot? ((pos + 1 : Nat) : Int) = some (slot + 1) :=
  lies.behind.slot? some_item items.marked

end Codes

/-! ### One entry -/

section Reading

variable {src : Source} {plan : Plan} {texts : List String} {rows : List Row}
  {index₀ : Abbreviation.Index} {pos slot listAddr listSlot : Nat} {unit : Int} {frame : Frame}
  {t : ScopeTree} {p : Progress} {record : Record} {after : List Piece}

theorem quiet_openNotices {d : Description} {addr : Int} :
    ∀ n ∈ d.openNotices addr, n.level = .debug := by
  intro n mem
  obtain ⟨r, -, rfl⟩ := Option.map_eq_some_iff.1 (Option.mem_toList.1 mem)
  rfl

/-- An entry that has been laid out is read into the tree, if there is an item behind its code. -/
theorem head_record (unit : Int) (frame : Frame) (prepared : Prepared src plan texts rows index₀)
    (valid : record.Valid rows) (known : ∀ text ∈ record.texts, text ∈ texts)
    (reached : Reached src index₀ pos t p) (inside : Inside src pos record.size)
    (lies : Lies src pos slot (record.pieces plan listAddr))
    (followed : src.items.slot? ((pos + 1 : Nat) : Int) = some (slot + 1))
    (lists : Lies src listAddr listSlot (record.lists.flatMap (·.pieces plan.order))) :
    ∃ p', head src unit frame p =
        .ok (some (opening frame record.row.toDeclaration
          (record.about src.infoStart ⟨pos, unit, frame.base⟩) t.entries.size)) p' ∧
      Reached src index₀ (pos + record.size)
        (t.add frame.entry ⟨pos, unit, record.row.code⟩
          (told frame (record.about src.infoStart ⟨pos, unit, frame.base⟩))) p' := by
  have row := prepared.valid record.row valid.row
  obtain ⟨place, index', found, declared, faithful⟩ :=
    reached.faithful.exists_declare (prepared.declares record.row valid.row)
  have code := lies.code row.code
  have behind : Lies src (pos + 1) (slot + 1) (fieldsPieces plan listAddr record.fields) :=
    lies.behind
  obtain ⟨last, described⟩ := decodeAll_fields ⟨pos, unit, frame.base⟩ (.tagged record.row.tag)
    prepared.toLaid valid.fields known rfl valid.orderly behind lists
  rw [← valid.attributes, Nat.add_assoc] at described
  let about := record.about src.infoStart ⟨pos, unit, frame.base⟩
  refine ⟨⟨((pos + record.size : Nat) : Int), index',
    t.add frame.entry ⟨pos, unit, record.row.code⟩ (told frame about),
    p.notices ++ (about.openNotices pos).toArray⟩, ?_, rfl, rfl, faithful, ?_⟩
  · obtain ⟨q, index, tree, notices⟩ := p
    obtain ⟨rfl, rfl, -, -⟩ := reached
    refine head_eq_some.2 ⟨record.row.code, slot + 1, record.row.toDeclaration, about, ?_, rfl⟩
    exact ⟨inside.starts record.size_pos, code, row.positive, followed, ⟨place, found, declared⟩,
      ⟨last, described⟩, rfl, rfl⟩
  · intro n mem
    rcases Array.mem_append.1 mem with before | new
    · exact reached.quiet n before
    · exact quiet_openNotices n (by simpa using new)

/-- The zero behind the entries below another is read as no entry. -/
theorem head_closing (frame : Frame) (reached : Reached src index₀ pos t p)
    (inside : Inside src pos 1) (lies : Lies src pos slot (.number plan.order 1 0 :: after)) :
    ∃ p', head src unit frame p = .ok none p' ∧ Reached src index₀ (pos + 1) t p' := by
  have coded := lies.code (by decide)
  obtain ⟨q, index, tree, notices⟩ := p
  obtain ⟨rfl, rfl, faithful, quiet⟩ := reached
  refine ⟨_, head_eq_none.2 ⟨inside.starts Nat.one_pos, coded, rfl⟩, ?_⟩
  exact ⟨rfl, rfl, faithful, quiet⟩

/-! ### Entries below another -/

/-- An entry is read, and if it has children, everything below it. -/
inductive EntryRead (src : Source) (unit : Int) (frame : Frame) (p : Progress) : Progress → Prop
  | leaf {p' : Progress} {opened : Opened} (read : head src unit frame p = .ok (some opened) p')
      (childless : opened.hasChildren = false) : EntryRead src unit frame p p'
  | nest {p₁ p' : Progress} {opened : Opened} (read : head src unit frame p = .ok (some opened) p₁)
      (parent : opened.hasChildren = true) (inner : Below src unit opened.frame p₁ p') :
      EntryRead src unit frame p p'

theorem EntryRead.below {p₁ p₂ : Progress} (entry : EntryRead src unit frame p p₁)
    (rest : Below src unit frame p₁ p₂) : Below src unit frame p p₂ := by
  cases entry with
  | leaf read childless => exact .leaf read childless rest
  | nest read parent inner => exact .nest read parent inner rest

theorem EntryRead.unitBody {p' : Progress} (entry : EntryRead src unit .root p p') :
    UnitBody src unit p true p' := by
  cases entry with
  | leaf read childless => exact .leaf read childless
  | nest read parent inner => exact .nest read parent inner

/-- An entry and those below it are read into the tree, if those below it can be read up to a zero
behind them. -/
theorem entry_read {below : Forest} (prepared : Prepared src plan texts rows index₀)
    (valid : record.Valid rows) (allows : record.Allows below)
    (known : ∀ text ∈ record.texts, text ∈ texts) (reached : Reached src index₀ pos t p)
    (inside : Inside src pos (record.size + below.size + record.closing))
    (lies : Lies src pos slot (record.pieces plan listAddr ++
      (below.pieces plan (listAddr + listsSize record.lists) ++ record.closingPieces plan)))
    (followed : src.items.slot? ((pos + 1 : Nat) : Int) = some (slot + 1))
    (lists : Lies src listAddr listSlot (record.lists.flatMap (·.pieces plan.order)))
    (inner : ∀ {slot frame t p}, Reached src index₀ (pos + record.size) t p →
      Inside src (pos + record.size) (below.size + 1) →
      Lies src (pos + record.size) slot
        (below.pieces plan (listAddr + listsSize record.lists) ++ [.number plan.order 1 0]) →
      ∃ p', Below src unit frame p p' ∧ Reached src index₀ (pos + record.size + below.size + 1)
        (below.grow src.infoStart unit frame (pos + record.size) t) p') :
    ∃ p', EntryRead src unit frame p p' ∧
      Reached src index₀ (pos + (record.size + below.size + record.closing))
        ((Forest.node record below .nil).grow src.infoStart unit frame pos t) p' := by
  obtain ⟨p₁, read, reached₁⟩ := head_record unit frame prepared valid known reached
    (inside.part (Nat.le_refl _) (by omega)) lies.left followed lists
  have behind := lies.right
  rw [extent_record] at behind
  by_cases parent : record.row.hasChildren
  · have closing : record.closing = 1 := if_pos parent
    have closed : record.closingPieces plan = [.number plan.order 1 0] := if_pos parent
    rw [closed] at behind
    obtain ⟨p₂, below_read, reached₂⟩ :=
      inner reached₁ (inside.part (by omega) (by omega)) behind
    refine ⟨p₂, .nest read parent below_read, ?_⟩
    rw [closing, ← Nat.add_assoc, ← Nat.add_assoc]
    exact reached₂
  · have childless : record.row.hasChildren = false := Bool.eq_false_iff.2 parent
    have nil : below = .nil := allows childless
    have closing : record.closing = 0 := if_neg parent
    subst nil
    refine ⟨p₁, .leaf read childless, ?_⟩
    rw [closing]
    exact reached₁

theorem pieces_node {below rest : Forest} :
    (Forest.node record below rest).pieces plan listAddr ++ after =
      (record.pieces plan listAddr ++
        (below.pieces plan (listAddr + listsSize record.lists) ++ record.closingPieces plan)) ++
        (rest.pieces plan (listAddr + listsSize record.lists + listsSize below.lists) ++ after) := by
  rw [Forest.pieces]
  simp only [List.append_assoc]

/-- The entries below another are read into the tree, up to the zero behind them. -/
theorem below_forest (prepared : Prepared src plan texts rows index₀) (forest : Forest)
    (valid : forest.Valid rows) (known : ∀ text ∈ forest.texts, text ∈ texts)
    (reached : Reached src index₀ pos t p) (inside : Inside src pos (forest.size + 1))
    (lies : Lies src pos slot (forest.pieces plan listAddr ++ [.number plan.order 1 0]))
    (lists : Lies src listAddr listSlot (forest.lists.flatMap (·.pieces plan.order))) :
    ∃ p', Below src unit frame p p' ∧
      Reached src index₀ (pos + forest.size + 1)
        (forest.grow src.infoStart unit frame pos t) p' := by
  induction forest generalizing pos slot listAddr listSlot frame t p with
  | nil =>
    obtain ⟨p', read, reached'⟩ := head_closing frame reached inside lies
    exact ⟨p', .close read, reached'⟩
  | node record below rest ihBelow ihRest =>
    obtain ⟨recordValid, allows, belowValid, restValid⟩ := valid
    have size : (Forest.node record below rest).size =
      record.size + below.size + record.closing + rest.size := rfl
    have items : Items (fieldsPieces plan listAddr record.fields ++
        (below.pieces plan (listAddr + listsSize record.lists) ++ (record.closingPieces plan ++
          (rest.pieces plan (listAddr + listsSize record.lists + listsSize below.lists) ++
            [.number plan.order 1 0])))) :=
      (items_fields _).append ((items_forest _).append ((items_closing _).append
        ((items_forest _).append (.cons rfl .nil))))
    have followed := followed_of_items
      (by rwa [pieces_node, List.append_assoc, List.append_assoc] at lies) (by simp) items
    rw [pieces_node] at lies
    rw [Forest.lists, List.flatMap_append, List.flatMap_append, List.append_assoc] at lists
    have listsBehind := lists.right
    rw [extent_lists] at listsBehind
    obtain ⟨p₁, entry, reached₁⟩ := entry_read prepared recordValid allows
      (fun text mem => known text (List.mem_append_left _ (List.mem_append_left _ mem))) reached
      (inside.part (Nat.le_refl _) (by omega)) lies.left followed lists.left
      fun reached inside lies => ihBelow belowValid
        (fun text mem => known text (List.mem_append_left _ (List.mem_append_right _ mem))) reached
        inside lies listsBehind.left
    have behind := lies.right
    have listsLeft := listsBehind.right
    rw [extent_entry] at behind
    rw [extent_lists] at listsLeft
    obtain ⟨p₂, others, reached₂⟩ := ihRest restValid
      (fun text mem => known text (List.mem_append_right _ mem)) reached₁
      (inside.part (by omega) (by omega)) behind listsLeft
    refine ⟨p₂, entry.below others, ?_⟩
    rw [size, ← Nat.add_assoc]
    exact reached₂

end Reading

end DebugScopes.Assembly

import DebugScopes.Proofs.Decoding.RangeMarks

/-!
# How attributes move the cursors

Attributes that tell something of their entry are read: behind each the position has moved by the
width of its form, and the slot by one. Of the others nothing is wanted, and what the entry has of
them is passed over: the item in the slot, or a block behind its length, with a slot for every byte.
Some have nothing in the entry at all.

* `Decode.decode_eq_ok_of_name` and `Decode.decode_eq_ok_of_reference`: when a name or a reference
  is decoded, and what comes of it;
* `Decode.Moves`: how an attribute moves both cursors;
* `Decode.moves_of_decode`: every attribute that is decoded moves them in one of these ways.
-/

namespace DebugScopes

open Dwarf

/-! ### Kinds of attributes and forms -/

namespace Dwarf

/-- The attribute that is declared without any data in the entry. -/
def Attribute.optimized : Int := 0x3FE1

/-- The form of a flag that is there, without any data. -/
def Form.presentFlag : Int := 0x19

/-- An attribute tells something of its entry, and so its value is read. -/
def Attribute.IsRead (attr : Int) : Prop :=
  Attribute.role attr ≠ .absent ∧ Attribute.role attr ≠ .other

/-- The entry has nothing of the attribute. -/
def IsEmpty (attr form : Int) : Prop := attr = Attribute.optimized ∨ form = Form.presentFlag

theorem Attribute.role_eq_absent {attr : Int} : role attr = .absent ↔ attr = optimized := by
  unfold role optimized
  constructor
  · intro absent
    by_contra other
    simp only [if_neg other] at absent
    split_ifs at absent
  · rintro rfl
    rfl

/-- A form leaves a block, nothing or an item to be passed over. -/
theorem Form.advance_cases (form : Int) :
    advance form = ⟨.block, 1⟩ ∨ (form = presentFlag ∧ advance form = ⟨.nothing, 0⟩) ∨
      advance form = ⟨.item, 1⟩ := by
  unfold advance presentFlag
  split_ifs with isBlock isFlag
  · exact .inl rfl
  · exact .inr (.inl ⟨isFlag, rfl⟩)
  · exact .inr (.inr rfl)

/-- The flag that is there has no number that could be read. -/
theorem Form.ne_presentFlag_of_width? {form width : Int} (known : width? form = some width) :
    form ≠ presentFlag := by
  rintro rfl
  cases known

end Dwarf

namespace Decode

variable {src : Source} {subject : Subject} {attr form : Int} {w w' : Work}

/-! ### Names and references -/

theorem takeIn_name (role : Attribute.role attr = .name) :
    takeIn src subject attr form w = .ok () w' ↔ form = Form.textAddress ∧
      ∃ addr width name, Form.width? form = some width ∧ src.number? form w.pos = some addr ∧
        src.textAt addr = .ok name ∧
          w' = { w with pos := w.pos + width, about := { w.about with name := some name } } := by
  unfold takeIn
  rw [role]
  by_cases text : form = Form.textAddress
  · simp only [text, ne_eq, not_true_eq_false, if_false, true_and, bind_value_eq_ok]
    simp only [bind_eq_ok, within_eq_ok, ofExcept_eq_ok, describing_eq_ok]
    constructor
    · rintro ⟨addr, width, known, read, name, _, ⟨found, rfl⟩, rfl⟩
      exact ⟨addr, width, name, known, read, found, rfl⟩
    · rintro ⟨addr, width, name, known, read, found, rfl⟩
      exact ⟨addr, width, known, read, name, _, ⟨found, rfl⟩, rfl⟩
  · simp only [ne_eq, text, not_false_eq_true, if_true, false_and, iff_false]
    exact refuse_ne_ok

theorem takeIn_reference (role : Attribute.role attr = .reference) :
    takeIn src subject attr form w = .ok () w' ↔ ∃ origin, Form.referenceBase? form = some origin ∧
      ∃ n width, Form.width? form = some width ∧ src.number? form w.pos = some n ∧
        w' = { w with
          pos := w.pos + width
          about := { w.about with
            target := some (n + match origin with
              | .sectionStart => src.infoStart
              | .unitHeader => subject.unit) } } := by
  unfold takeIn
  rw [role]
  dsimp only
  cases Form.referenceBase? form with
  | none => exact iff_of_false refuse_ne_ok nofun
  | some origin =>
    simp only [Option.some.injEq, exists_eq_left']
    refine bind_value_eq_ok.trans (exists₂_congr fun n width => ?_)
    exact and_congr_right fun _ => and_congr_right fun _ => describing_eq_ok

/-- A name that is decoded is the text that the attribute gives the address of. -/
theorem decode_eq_ok_of_name (role : Attribute.role attr = .name) :
    decode src subject attr form w = .ok () w' ↔ form = Form.textAddress ∧
      ∃ addr width name, Form.width? form = some width ∧ src.number? form w.pos = some addr ∧
        src.textAt addr = .ok name ∧
          w' = ⟨w.pos + width, w.slot + 1, { w.about with name := some name }⟩ := by
  rw [decode_eq_ok_of_read (by simp [role]) (by simp [role]) fun ran => by
    obtain ⟨-, _, width, _, known, -⟩ := (takeIn_name role).1 ran
    exact ⟨width, known⟩]
  simp only [takeIn_name role]
  constructor
  · rintro ⟨_, ⟨text, addr, width, name, known, read, found, rfl⟩, rfl⟩
    exact ⟨text, addr, width, name, known, read, found, rfl⟩
  · rintro ⟨text, addr, width, name, known, read, found, rfl⟩
    exact ⟨_, ⟨text, addr, width, name, known, read, found, rfl⟩, rfl⟩

/-- A reference that is decoded is counted from the section or from the unit, as its form says. -/
theorem decode_eq_ok_of_reference (role : Attribute.role attr = .reference) :
    decode src subject attr form w = .ok () w' ↔
      ∃ origin, Form.referenceBase? form = some origin ∧
        ∃ n width, Form.width? form = some width ∧ src.number? form w.pos = some n ∧
          w' = ⟨w.pos + width, w.slot + 1, { w.about with
            target := some (n + match origin with
              | .sectionStart => src.infoStart
              | .unitHeader => subject.unit) }⟩ := by
  rw [decode_eq_ok_of_read (by simp [role]) (by simp [role]) fun ran => by
    obtain ⟨_, -, _, width, known, -⟩ := (takeIn_reference role).1 ran
    exact ⟨width, known⟩]
  simp only [takeIn_reference role]
  constructor
  · rintro ⟨_, ⟨origin, counted, n, width, known, read, rfl⟩, rfl⟩
    exact ⟨origin, counted, n, width, known, read, rfl⟩
  · rintro ⟨origin, counted, n, width, known, read, rfl⟩
    exact ⟨_, ⟨origin, counted, n, width, known, read, rfl⟩, rfl⟩

/-! ### Both cursors -/

/-- How an attribute moves both cursors. -/
inductive Moves (src : Source) (attr form : Int) (w w' : Work) : Prop
  /-- The entry has nothing of the attribute. -/
  | nothing (empty : IsEmpty attr form) (pos : w'.pos = w.pos) (slot : w'.slot = w.slot)
  /-- A value as wide as its form has been read. -/
  | value {width : Int} (read : Attribute.IsRead attr) (known : Form.width? form = some width)
      (pos : w'.pos = w.pos + width) (slot : w'.slot = w.slot + 1)
  /-- The item in the slot has been passed over. -/
  | item {there : Item} {size : Int} (full : ¬ IsEmpty attr form)
      (found : src.items.inSlot w.slot = .ok there) (wide : there.size.int? = some size)
      (pos : w'.pos = w.pos + size) (slot : w'.slot = w.slot + 1)
  /-- A block has been passed over, behind the number of its bytes. -/
  | block {there : Item} {length : Nat} {start : Int} (full : ¬ IsEmpty attr form)
      (isBlock : (Form.advance form).skipped = .block)
      (found : src.items.inSlot w.slot = .ok there)
      (counted : src.segment.sizedBy there.size w.pos = .ok length start)
      (pos : w'.pos = start + length) (slot : w'.slot = w.slot + length + 1)

/-- A value that is read moves the position by its width, and the slot by one. -/
theorem moves_of_isRead (read : Attribute.IsRead attr)
    (run : decode src subject attr form w = .ok () w') : Moves src attr form w w' := by
  cases role : Attribute.role attr with
  | name =>
    obtain ⟨-, _, width, _, known, -, -, rfl⟩ := (decode_eq_ok_of_name role).1 run
    exact .value read known rfl rfl
  | lowPc | highPc | ranges =>
    obtain ⟨_, _, width, -, -, known, rfl⟩ :=
      (decode_eq_ok_of_marksCode (by simp [Attribute.MarksCode, role])).1 run
    exact .value read known rfl rfl
  | reference =>
    obtain ⟨_, -, _, width, known, -, rfl⟩ := (decode_eq_ok_of_reference role).1 run
    exact .value read known rfl rfl
  | absent => exact absurd role read.1
  | other => exact absurd role read.2

/-- Of an attribute that is not wanted, everything is passed over. -/
theorem decode_of_other (other : Attribute.role attr = .other) :
    decode src subject attr form = stepOver src attr form := by
  unfold decode takeIn
  simp only [other, reduceCtorEq, if_false]
  rfl

theorem item_eq_ok {there : Item} :
    item src w = .ok there w' ↔ src.items.inSlot w.slot = .ok there ∧ w' = w := by
  show (checked (src.items.inSlot w.slot) : Decode Item) w = _ ↔ _
  exact checked_eq_ok

theorem moves_of_other (other : Attribute.role attr = .other)
    (run : decode src subject attr form w = .ok () w') : Moves src attr form w w' := by
  have unoptimized : attr ≠ Attribute.optimized := fun same =>
    absurd (other.symm.trans (Attribute.role_eq_absent.2 same)) (by decide)
  rw [decode_of_other other] at run
  unfold stepOver stepData at run
  rcases Form.advance_cases form with isBlock | ⟨isFlag, isNothing⟩ | isItem
  · have full : ¬ IsEmpty attr form := by
      rintro (same | rfl)
      · exact unoptimized same
      · cases isBlock
    rw [isBlock] at run
    simp only [bind_eq_ok, within_eq_ok, item_eq_ok, reading_eq_ok] at run
    obtain ⟨_, _, ⟨there, _, ⟨found, rfl⟩, length, _, ⟨start, counted, rfl⟩, _, _,
      ⟨stop, skipped, rfl⟩, moved⟩, run⟩ := run
    obtain ⟨rfl, -, -, -⟩ := Segment.skip_ok skipped
    cases moved
    cases run
    exact .block full (by rw [isBlock]) found counted rfl rfl
  · rw [isNothing] at run
    cases run
    exact .nothing (.inr isFlag) rfl (Int.add_zero _)
  · have full : ¬ IsEmpty attr form := by
      rintro (same | rfl)
      · exact unoptimized same
      · cases isItem
    rw [isItem] at run
    simp only [other, if_true, bind_eq_ok, within_eq_ok, item_eq_ok, reading_eq_ok] at run
    obtain ⟨_, _, ⟨there, _, ⟨found, rfl⟩, stop, skipped, rfl⟩, run⟩ := run
    cases run
    unfold Segment.skipBy at skipped
    cases wide : there.size.int? with
    | none =>
      rw [wide] at skipped
      cases skipped
    | some size =>
      rw [wide] at skipped
      obtain ⟨rfl, -, -, -⟩ := Segment.skip_ok skipped
      exact .item full found wide rfl rfl

/-- Every attribute that is decoded moves both cursors in one of these ways. -/
theorem moves_of_decode (run : decode src subject attr form w = .ok () w') :
    Moves src attr form w w' := by
  by_cases absent : Attribute.role attr = .absent
  · rw [decode, if_pos absent] at run
    cases run
    exact .nothing (.inl (Attribute.role_eq_absent.1 absent)) rfl rfl
  · by_cases other : Attribute.role attr = .other
    · exact moves_of_other other run
    · exact moves_of_isRead ⟨absent, other⟩ run

end Decode

end DebugScopes

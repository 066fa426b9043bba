import DebugScopes.Decode.Entry
import DebugScopes.Proofs.Image.Foreseen.Reads
import DebugScopes.Proofs.Image.SymbolTable

/-!
# How decoding attributes fails

Attributes fail only for causes that are foreseen. A slot is named in messages too, so it matters
that it cannot get far ahead of the position: with each attribute it gains one on it at most.

* `Ahead`: how far the slot is ahead;
* `foreseen_takeIn`, `foreseen_stepOver`: one attribute;
* `foreseen_decodeAll`: all attributes of an entry.
-/

namespace DebugScopes

section Attributes

variable {image : Image} {order : ByteOrder}

/-! ### Attributes -/

/-- The cursors stand inside the data, and the slot is ahead of the position by so much at most. -/
def Ahead (image : Image) (lead : Int) (w : Work) : Prop :=
  0 ≤ w.slot ∧ w.slot ≤ w.pos + lead ∧ w.pos ≤ image.length

variable {lead : Int}

theorem ahead_reading {α : Type} {read : Read α} {V : α → Int → Int → Prop}
    (moves : ∀ {pos a after}, read pos = .ok a after → pos ≤ after ∧ after ≤ image.length ∧
      V a pos after)
    (fails : FailsForeseen image read) :
    Triple (Ahead image lead) (Decode.reading read)
      (fun a w => ∃ pos, V a pos w.pos ∧ pos ≤ w.pos ∧ 0 ≤ w.slot ∧ w.slot ≤ pos + lead ∧
        w.pos ≤ image.length) (Foreseen image) := by
  constructor
  · intro w a w' ⟨positive, behind, inside⟩ run
    simp only [Decode.reading] at run
    cases ran : read w.pos with
    | error e after => rw [ran] at run; cases run
    | ok b after =>
      rw [ran] at run
      cases run
      obtain ⟨forward, short, given⟩ := moves ran
      exact ⟨w.pos, given, forward, positive, behind, short⟩
  · intro w e w' _ run
    simp only [Decode.reading] at run
    cases ran : read w.pos with
    | ok b after => rw [ran] at run; cases run
    | error e' after =>
      rw [ran] at run
      cases run
      exact fails.error trivial ran

/-- A read that does not move the position back, nor out of the data. -/
theorem ahead_passing {α : Type} {read : Read α}
    (moves : ∀ {pos a after}, read pos = .ok a after → pos ≤ after ∧ after ≤ image.length)
    (fails : FailsForeseen image read) :
    Triple (Ahead image lead) (Decode.reading read) (fun _ => Ahead image lead)
      (Foreseen image) := by
  refine (ahead_reading (V := fun _ _ _ => True) (fun read => ?_) fails).weaken (fun _ => id) ?_
  · obtain ⟨forward, inside⟩ := moves read
    exact ⟨forward, inside, trivial⟩
  · intro a w ⟨pos, _, forward, positive, behind, inside⟩
    exact ⟨positive, by omega, inside⟩

theorem foreseen_elsewhere {α : Type} {read : Read α} (fails : FailsForeseen image read)
    (addr : Int) {P : Work → Prop} :
    Triple P (Decode.elsewhere addr read) (fun _ => P) (Foreseen image) := by
  constructor
  · intro w a w' holds run
    simp only [Decode.elsewhere] at run
    cases ran : read addr with
    | error e after => rw [ran] at run; cases run
    | ok b after => rw [ran] at run; cases run; exact holds
  · intro w e w' _ run
    simp only [Decode.elsewhere] at run
    cases ran : read addr with
    | ok b after => rw [ran] at run; cases run
    | error e' after =>
      rw [ran] at run
      cases run
      exact fails.error trivial ran

theorem Dwarf.Form.width?_eq_some {form width : Int} (found : Dwarf.Form.width? form = some width) :
    width = 1 ∨ width = 2 ∨ width = 4 := by
  unfold Dwarf.Form.width? at found
  split at found
  · cases found
    decide
  · split at found
    · cases found
      decide
    · split at found
      · cases found
        decide
      · cases found

theorem foreseen_value (entry attr form : Int) :
    Triple (Ahead image lead) (Decode.value (.of image (.ok order)) entry attr form)
      (fun _ => Ahead image lead) (Foreseen image) := by
  unfold Decode.value
  cases known : Dwarf.Form.width? form with
  | none => exact .refuse (foreseen_of_unnamed rfl rfl rfl)
  | some width =>
    have narrow := Dwarf.Form.width?_eq_some known
    have fails :
        FailsForeseen image (within .formValue ((image.segment (.ok order)).sized width)) :=
      .within (foreseen_sized (by omega))
    refine ahead_passing (fun read => ?_) fails
    have moved := Segment.sized_ok (Segment.within_ok read)
    exact ⟨by omega, moved.2.2.1 |> fun short => moved.1 ▸ short⟩

theorem ahead_describing (f : Description → Description) :
    Triple (Ahead image lead) (Decode.describing f) (fun _ => Ahead image lead)
      (Foreseen image) := .modify fun _ ahead => ahead

/-! ### Items -/

/-- The item in a slot is a declared one, or there is no such slot. -/
theorem inSlot_cases (image : Image) (order : Except OrderFault ByteOrder) (slot : Int) :
    (∃ row ∈ image.symbols.toList,
        (Source.of image order).items.inSlot slot = .ok (.ofDescriptor row)) ∨
      (Source.of image order).items.inSlot slot =
        .error (.noSlot slot image.symbols.size) := by
  rw [Source.inSlot_of]
  rcases image.symbols.inSlot_cases slot with ⟨row, declared, found⟩ | missing
  · exact .inl ⟨row, declared, by rw [found]; rfl⟩
  · exact .inr (by rw [missing]; rfl)

theorem foreseen_noSlot {slot : Int} (positive : 0 ≤ slot)
    (short : slot ≤ image.symbols.size + 2 * image.data.size) :
    Foreseen image (Failure.ofDamage (.noSlot slot image.symbols.size)).cause := by
  refine foreseen_of_vast (fun long => ?_) rfl rfl
  have long : ¬ (Numeral.isLegible slot && Numeral.isLegible image.symbols.size) = true := long
  rw [Bool.and_eq_true, Numeral.isLegible_iff, Numeral.isLegible_iff] at long
  unfold Image.Vast
  omega

/-- What goes on with the item in a slot goes on with a declared item. -/
theorem foreseen_checked {α : Type} {slot : Int} {next : Item → Decode α} {P : Work → Prop}
    {Q : α → Work → Prop} (positive : 0 ≤ slot)
    (short : slot ≤ image.symbols.size + 2 * image.data.size)
    (goesOn : ∀ row ∈ image.symbols.toList,
      Triple P (next (.ofDescriptor row)) Q (Foreseen image)) :
    Triple P (checked ((Source.of image (.ok order)).items.inSlot slot) >>= next) Q
      (Foreseen image) := by
  rcases inSlot_cases image (.ok order) slot with ⟨row, declared, found⟩ | missing
  · rw [found]
    exact goesOn row declared
  · rw [missing]
    exact .bind (Q := fun _ _ => False) (.refuse (foreseen_noSlot positive short)) fun _ => .never

/-- The same with the item in the slot of the cursor. -/
theorem foreseen_item {α : Type} {step : Step} {next : Item → Decode α} {Q : α → Work → Prop}
    (short : lead ≤ image.symbols.size + image.data.size)
    (goesOn : ∀ row ∈ image.symbols.toList,
      Triple (Ahead image lead) (next (.ofDescriptor row)) Q (Foreseen image)) :
    Triple (Ahead image lead) (within step (Decode.item (.of image (.ok order))) >>= next) Q
      (Foreseen image) := by
  refine .bind (Q := fun item w => Ahead image lead w ∧ ∃ row ∈ image.symbols.toList,
    item = .ofDescriptor row) (.within (.bind .get fun before => ?_)) fun item => ?_
  · rcases inSlot_cases image (.ok order) before.slot with ⟨row, declared, found⟩ | missing
    · rw [found]
      exact .pure fun w ⟨_, ahead⟩ => ⟨ahead, row, declared, rfl⟩
    · rw [missing]
      refine ⟨fun _ run => ?_, fun {w e after} ⟨same, positive, behind, inside⟩ run => ?_⟩
      · cases run
      · cases run
        have := image.length_le
        exact foreseen_noSlot (same ▸ positive) (by rw [same]; omega)
  · constructor
    · rintro w a after ⟨ahead, row, declared, rfl⟩ run
      exact (goesOn row declared).ok ahead run
    · rintro w e after ⟨ahead, row, declared, rfl⟩ run
      exact (goesOn row declared).error ahead run

theorem Image.declares_size {row : Descriptor} (declared : row ∈ image.symbols.toList) :
    image.Declares row.size := ⟨row, declared, rfl⟩

theorem foreseen_bound {slot : Nat} (inside : slot < image.symbols.size) {P : Work → Prop} :
    Triple P (Decode.bound (.of image (.ok order)) slot) (fun _ => P) (Foreseen image) := by
  refine foreseen_checked (by omega) (by omega) fun row declared => ?_
  exact foreseen_elsewhere (.within (foreseen_sized (.inr (.inr (.inr
    (Image.declares_size declared)))))) row.addr

theorem foreseen_rangesFrom (entry list base : Int) (slot : Nat) :
    Triple (Ahead image lead) (Decode.rangesFrom (.of image (.ok order)) entry list base slot)
      (fun _ => Ahead image lead) (Foreseen image) := by
  fun_induction Decode.rangesFrom (.of image (.ok order)) entry list base slot with
  | case1 => exact .refuse (foreseen_of_unnamed rfl rfl rfl)
  | case2 slot more ih =>
    have more : ¬ image.symbols.size ≤ slot + 1 := more
    refine .bind (foreseen_bound (by omega)) fun low =>
      .bind (foreseen_bound (by omega)) fun high => ?_
    split
    · exact .pure fun _ ahead => ahead
    · exact .bind (ahead_describing _) fun _ => ih

theorem foreseen_takeIn (subject : Subject) (attr form : Int) :
    Triple (Ahead image lead) (Decode.takeIn (.of image (.ok order)) subject attr form)
      (fun _ => Ahead image lead) (Foreseen image) := by
  have value := @foreseen_value image order lead subject.addr attr form
  have keeps : ∀ w : Work, Ahead image lead w → Ahead image lead w := fun _ => id
  unfold Decode.takeIn
  cases Dwarf.Attribute.role attr with
  | name =>
    dsimp only
    split
    · exact .refuse (foreseen_of_unnamed rfl rfl rfl)
    · exact .bind (.within value) fun addr =>
        .bind (.within (.ofExcept (Q := fun _ => Ahead image lead) (fun _ w _ => keeps w)
          (foreseen_textAt addr))) fun _ => ahead_describing _
  | lowPc =>
    refine .bind .get fun w => ?_
    split
    · exact .refuse (foreseen_of_unnamed rfl rfl rfl)
    · exact .bind (.within (value.weaken (fun _ => And.right) fun _ => keeps)) fun _ =>
        ahead_describing _
  | highPc =>
    refine .bind .get fun w => ?_
    cases w.about.pending? with
    | none => exact .refuse (foreseen_of_unnamed rfl rfl rfl)
    | some pending =>
      exact .bind (.within (value.weaken (fun _ => And.right) fun _ => keeps)) fun _ =>
        ahead_describing _
  | ranges =>
    refine .bind (.within value) fun list => .bind (.within (.checked
      (Q := fun _ => Ahead image lead) (fun _ w _ => keeps w) fun damage missing => ?_))
        fun slot => foreseen_rangesFrom ..
    unfold Slots.slotOf at missing
    split at missing
    · cases missing
    · cases missing
      exact foreseen_of_unnamed rfl rfl rfl
  | reference =>
    dsimp only
    cases Dwarf.Form.referenceBase? form with
    | none => exact .refuse (foreseen_of_unnamed rfl rfl rfl)
    | some origin => exact .bind (.within value) fun _ => ahead_describing _
  | absent => exact .pure fun _ => id
  | other => exact .pure fun _ => id

/-- A block moves the slot by as many bytes as it moves the position. -/
theorem foreseen_block {row : Descriptor} (declared : row ∈ image.symbols.toList) :
    Triple (Ahead image lead)
      (within .blockLength (Decode.reading ((image.segment (.ok order)).sized row.size)) >>=
        fun length => Decode.reading ((image.segment (.ok order)).skip length) >>=
          fun _ => Decode.moveSlot length)
      (fun _ => Ahead image lead) (Foreseen image) := by
  have wide := Image.declares_size declared
  refine .bind (.within (ahead_reading
    (V := fun length pos after => length < 2 ^ 32 ∧ pos + 1 ≤ after) (fun read => ?_)
    (foreseen_sized (.inr (.inr (.inr wide)))))) fun length => .bind (Q := fun _ w =>
      0 ≤ w.slot ∧ w.slot + length ≤ w.pos + lead ∧ w.pos ≤ image.length) ⟨?_, ?_⟩ fun _ => ?_
  · have moved := Segment.sized_ok read
    exact ⟨by omega, moved.1 ▸ moved.2.2.1, Segment.sized_lt read, by omega⟩
  · rintro w a w' ⟨pos, ⟨-, further⟩, -, positive, behind, -⟩ run
    simp only [Decode.reading] at run
    cases ran : (image.segment (.ok order)).skip length w.pos with
    | error e after => rw [ran] at run; cases run
    | ok b after =>
      rw [ran] at run
      cases run
      obtain ⟨rfl, -, -, short⟩ := Segment.skip_ok ran
      refine ⟨positive, ?_, short⟩
      show w.slot + length ≤ w.pos + length + lead
      omega
  · rintro w e w' ⟨pos, ⟨small, -⟩, -⟩ run
    simp only [Decode.reading] at run
    cases ran : (image.segment (.ok order)).skip length w.pos with
    | ok b after => rw [ran] at run; cases run
    | error e' after =>
      rw [ran] at run
      cases run
      exact (foreseen_skip (.inl ⟨by omega, by omega⟩)).error trivial ran
  · refine .modify fun w ahead => ?_
    obtain ⟨positive, behind, inside⟩ := ahead
    exact ⟨Int.add_nonneg positive (by omega), behind, inside⟩

theorem foreseen_stepOver (attr form : Int) (short : lead ≤ image.symbols.size + image.data.size) :
    Triple (Ahead image lead) (Decode.stepOver (.of image (.ok order)) attr form)
      (fun _ => Ahead image (lead + 1)) (Foreseen image) := by
  have slots : 0 ≤ (Dwarf.Form.advance form).slots ∧ (Dwarf.Form.advance form).slots ≤ 1 := by
    unfold Dwarf.Form.advance
    split
    · decide
    · split <;> decide
  refine .bind (Q := fun _ => Ahead image lead) ?_ fun _ =>
    .modify fun w ⟨positive, behind, inside⟩ =>
    ⟨Int.add_nonneg positive slots.1, ?_, inside⟩
  · unfold Decode.stepData
    cases (Dwarf.Form.advance form).skipped with
    | block => exact foreseen_item short fun row declared => foreseen_block declared
    | item =>
      dsimp only
      split
      · refine foreseen_item short fun row declared => ahead_passing (fun read => ?_)
          (foreseen_skip (.inr (Image.declares_size declared)))
        obtain ⟨rfl, -, counted, inside⟩ := Segment.skip_ok read
        exact ⟨by omega, inside⟩
      · exact .pure fun _ => id
    | nothing => exact .pure fun _ => id
  · show w.slot + _ ≤ w.pos + (lead + 1)
    omega

/-- Decoding attributes fails only for causes that are foreseen. -/
theorem foreseen_decodeAll (subject : Subject) (attributes : List (Nat × Nat))
    (short : lead + attributes.length ≤ image.symbols.size + image.data.size) :
    Triple (Ahead image lead) (Decode.decodeAll (.of image (.ok order)) subject attributes)
      (fun _ _ => True) (Foreseen image) := by
  induction attributes generalizing lead with
  | nil => exact .pure fun _ _ => trivial
  | cons first rest ih =>
    obtain ⟨attr, form⟩ := first
    rw [List.length_cons] at short
    refine .bind (Q := fun _ => Ahead image (lead + 1)) ?_ fun _ => ih (by omega)
    unfold Decode.decode
    split
    · refine .pure fun w ⟨positive, behind, inside⟩ => ⟨positive, by omega, inside⟩
    · exact .bind (foreseen_takeIn ..) fun _ => foreseen_stepOver _ _ (by omega)

end Attributes

end DebugScopes

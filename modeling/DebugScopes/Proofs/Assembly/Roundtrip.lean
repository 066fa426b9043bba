import DebugScopes.Proofs.Assembly.Table
import DebugScopes.Proofs.Assembly.Units
import DebugScopes.Proofs.Bytes.Texts

/-!
# Decoding undoes assembling

The image of a program is decoded to the tree that the program describes. The one exception is a
program whose last unit is bare: behind the code of its entry comes the abbreviation table, which
has no descriptors, and the decoder looks for one.

* `Program.lies`: where the parts of a program lie in its image;
* `Program.exists_prepared`: texts and declarations are found there;
* `decode_assembled`: what decoding gives.
-/

namespace DebugScopes.Assembly

open Building

/-! ### Texts -/

section Texts

variable {src : Source} {pos slot : Nat}

/-- The piece of a text. -/
def textPiece (text : String) : Piece := .item (textBytes text)

/-- The number of bytes of texts. -/
def textsSize (texts : List String) : Nat := (texts.map fun text => (textBytes text).length).sum

theorem extent_texts (texts : List String) : extent (texts.map textPiece) = textsSize texts := by
  rw [extent, List.map_map]
  rfl

theorem textBytes_length_pos (text : String) : 0 < (textBytes text).length := by
  rw [textBytes, List.length_append]
  exact Nat.succ_pos _

/-- A text that stands in a segment is found, up to its first zero character. -/
theorem textAt_of_holds {s : Segment} {text : String} (held : s.Holds pos (textBytes text)) :
    s.textAt pos = .ok (Utf8.upToZero text) := by
  rw [Segment.Holds.textAt held, Utf8.decode_zeroTerminated]

/-- Texts that are laid out are found where they stand. -/
theorem texts_of_lies {texts : List String} (lies : Lies src pos slot (texts.map textPiece)) :
    ∀ text ∈ texts, ((addressIn pos texts text : Nat) : Int) < src.segment.length ∧
      src.segment.textAt (addressIn pos texts text) = .ok (Utf8.upToZero text) := by
  induction texts generalizing pos slot with
  | nil => exact fun text mem => absurd mem List.not_mem_nil
  | cons first rest ih =>
    intro text mem
    rw [addressIn]
    by_cases same : first = text
    · rw [if_pos same, ← same]
      have short := lies.1.short
      have positive := textBytes_length_pos first
      exact ⟨by rw [textPiece, Piece.item] at short; dsimp only at short; omega,
        textAt_of_holds lies.1⟩
    · rw [if_neg same]
      rcases List.mem_cons.1 mem with rfl | inside
      · exact absurd rfl same
      · exact ih lies.2.2 text inside

end Texts

/-! ### Where the parts of a program lie -/

section Parts

variable {plan : Plan} {listAddr : Nat}

theorem extent_units (us : List CompileUnit) :
    extent (unitsPieces plan listAddr us) = unitsSize us := by
  induction us generalizing listAddr with
  | nil => rfl
  | cons u rest ih =>
    rw [unitsPieces, extent_append, extent_unit, ih]
    rfl

theorem number_ne_nil (order : ByteOrder) {width : Nat} (n : Nat) (positive : 0 < width) :
    (Piece.number order width n).bytes ≠ [] := by
  apply List.length_pos_iff.1
  rw [Piece.number, Piece.item, ByteOrder.length_spell]
  exact positive

theorem isWidth_pos {width : Nat} (wide : Segment.IsWidth width) : 0 < width := by
  rcases wide with rfl | rfl | rfl <;> decide

theorem formWidth_pos {form width : Nat} (known : Dwarf.Form.width? form = some width) :
    0 < formWidth form := by
  have wide := isWidth_pos (Dwarf.Form.isWidth_of_width? known)
  rwa [formWidth, known]

/-- No item of a valid attribute is empty. -/
theorem solid_field {f : Field} (valid : f.Valid) : Solid (f.pieces plan listAddr) := by
  have carried {n m : Nat} (carries : Carries f.form n) :
      Solid [.number plan.order (formWidth f.form) m] := by
    obtain ⟨width, known, -⟩ := carries
    exact .cons (fun _ => number_ne_nil _ _ (formWidth_pos known)) .nil
  obtain ⟨attr, form, datum⟩ := f
  cases datum with
  | name text => exact carried (carries_textAddress (n := 0) valid.2 (by decide))
  | low n | high n => exact carried valid.2
  | reference n => exact carried valid.2.2
  | ranges list => exact carried (n := 0) ⟨4, valid.2.1, by decide⟩
  | item bytes => exact .cons (fun _ => valid.2.2) .nil
  | block width bytes =>
    exact .cons (fun _ => number_ne_nil _ _ (isWidth_pos valid.2.2.1))
      (.map (fun _ => List.cons_ne_nil _ _) _)
  | absent => exact .nil

theorem solid_fields {fields : List Field} (valid : ∀ f ∈ fields, f.Valid) :
    Solid (fieldsPieces plan listAddr fields) := by
  induction fields generalizing listAddr with
  | nil => exact .nil
  | cons f rest ih =>
    exact (solid_field (valid f List.mem_cons_self)).append
      (ih fun g mem => valid g (List.mem_cons_of_mem _ mem))

theorem solid_byte (order : ByteOrder) (n : Nat) {pieces : List Piece} (others : Solid pieces) :
    Solid (.number order 1 n :: pieces) :=
  .cons (fun _ => number_ne_nil _ _ Nat.one_pos) others

theorem solid_closing {record : Record} : Solid (record.closingPieces plan) := by
  unfold Record.closingPieces
  split
  · exact solid_byte _ _ .nil
  · exact .nil

variable {rows : List Row}

theorem solid_forest {forest : Forest} (valid : forest.Valid rows) :
    Solid (forest.pieces plan listAddr) := by
  induction forest generalizing listAddr with
  | nil => exact .nil
  | node record below rest ihBelow ihRest =>
    obtain ⟨recordValid, -, belowValid, restValid⟩ := valid
    exact (solid_byte _ _ (solid_fields recordValid.fields)).append
      ((ihBelow belowValid).append (solid_closing.append (ihRest restValid)))

theorem solid_unit {u : CompileUnit} (valid : u.Valid rows) : Solid (u.pieces plan listAddr) := by
  refine Solid.append ?_ ?_
  · exact .cons (fun _ => number_ne_nil _ _ (by decide))
      (.cons (fun _ => number_ne_nil _ _ (by decide))
        (.cons (fun _ => number_ne_nil _ _ (by decide)) (solid_byte _ _ .nil)))
  · unfold CompileUnit.body
    cases entry : u.entry with
    | none => exact solid_byte _ _ .nil
    | some found =>
      obtain ⟨recordValid, -, belowValid⟩ := valid.record found.1 found.2 entry
      exact (solid_byte _ _ (solid_fields recordValid.fields)).append
        ((solid_forest belowValid).append solid_closing)

theorem solid_units {us : List CompileUnit} (valid : ∀ u ∈ us, u.Valid rows) :
    Solid (unitsPieces plan listAddr us) := by
  induction us generalizing listAddr with
  | nil => exact .nil
  | cons u rest ih =>
    exact (solid_unit (valid u List.mem_cons_self)).append
      (ih fun v mem => valid v (List.mem_cons_of_mem _ mem))

/-- No bound of a valid list is empty. -/
theorem solid_list (order : ByteOrder) {l : RangeList} (valid : l.Valid) :
    Solid (l.pieces order) := by
  refine Solid.append (fun p mem _ => ?_) (.cons
    (fun _ => number_ne_nil _ _ (isWidth_pos valid.lowWidth))
    (.cons (fun _ => number_ne_nil _ _ (isWidth_pos valid.highWidth)) .nil))
  obtain ⟨pair, inside, mem⟩ := List.mem_flatMap.1 mem
  obtain ⟨low, high⟩ := valid.fits pair inside
  simp only [List.mem_cons, List.not_mem_nil, or_false] at mem
  rcases mem with rfl | rfl
  · exact number_ne_nil _ _ (isWidth_pos low.1)
  · exact number_ne_nil _ _ (isWidth_pos high.1)

/-! ### The lists of a program -/

theorem lists_of_fields {fields : List Field} (valid : ∀ f ∈ fields, f.Valid) :
    ∀ l ∈ fields.flatMap (·.lists), l.Valid := by
  intro l mem
  obtain ⟨f, inside, mem⟩ := List.mem_flatMap.1 mem
  have fValid := valid f inside
  obtain ⟨attr, form, datum⟩ := f
  cases datum with
  | ranges list =>
    rw [List.mem_singleton.1 mem]
    exact fValid.2.2
  | name | low | high | reference | item | block | absent => exact absurd mem List.not_mem_nil

theorem lists_of_forest {forest : Forest} (valid : forest.Valid rows) :
    ∀ l ∈ forest.lists, l.Valid := by
  induction forest with
  | nil => exact fun l mem => absurd mem List.not_mem_nil
  | node record below rest ihBelow ihRest =>
    obtain ⟨recordValid, -, belowValid, restValid⟩ := valid
    intro l mem
    rcases List.mem_append.1 mem with mem | behind
    · rcases List.mem_append.1 mem with own | inner
      · exact lists_of_fields recordValid.fields l own
      · exact ihBelow belowValid l inner
    · exact ihRest restValid l behind

theorem lists_of_unit {u : CompileUnit} (valid : u.Valid rows) : ∀ l ∈ u.lists, l.Valid := by
  intro l mem
  unfold CompileUnit.lists at mem
  cases entry : u.entry with
  | none =>
    rw [entry] at mem
    exact absurd mem List.not_mem_nil
  | some found =>
    obtain ⟨recordValid, -, belowValid⟩ := valid.record found.1 found.2 entry
    rw [entry] at mem
    rcases List.mem_append.1 mem with own | inner
    · exact lists_of_fields recordValid.fields l own
    · exact lists_of_forest belowValid l inner

end Parts

namespace Program

variable {program : Program} {order : ByteOrder}

/-- What the decoder sees of a program's image. -/
abbrev source (program : Program) (order : ByteOrder) : Source :=
  .of (program.image order) (.ok order)

theorem pieces_eq (program : Program) (order : ByteOrder) :
    program.pieces order =
      program.leadIn.map (fun b => .item [b]) ++
        (unitsPieces (program.plan order) program.listStart program.units ++
          (⟨tableBytes program.rows, false⟩ :: (program.texts.map textPiece ++
            program.lists.flatMap (·.pieces order)))) := rfl

theorem abbrevStart_eq (program : Program) :
    program.abbrevStart = program.infoStart + unitsSize program.units := rfl

theorem solid (order : ByteOrder) (valid : program.Valid) : Solid (program.pieces order) := by
  refine Solid.append (.map (fun _ => List.cons_ne_nil _ _) _) ((solid_units valid.units).append
    (.cons (fun marked => by cases marked) (Solid.append (.map (fun text => ?_) _) ?_)))
  · exact List.length_pos_iff.1 (textBytes_length_pos text)
  · intro p mem
    obtain ⟨l, inside, mem⟩ := List.mem_flatMap.1 mem
    obtain ⟨u, unit, mem'⟩ := List.mem_flatMap.1 inside
    exact solid_list order (lists_of_unit (valid.units u unit) l mem') p mem

theorem extent_pieces (program : Program) (order : ByteOrder) :
    extent (program.pieces order) = program.size := by
  rw [pieces_eq, extent_append, extent_append, extent_cons, extent_append, extent_singles,
    extent_units, extent_texts, extent_lists, Program.size, Program.listStart, Program.textStart,
    abbrevStart_eq]
  show program.infoStart +
      (_ + ((tableBytes program.rows).length + (textsSize program.texts + _))) =
    program.infoStart + unitsSize program.units + (tableBytes program.rows).length +
      textsSize program.texts + _
  omega

/-- Where the units of a program lie in its image, and what lies behind them. -/
theorem lies (order : ByteOrder) (valid : program.Valid) :
    Lies (program.source order) program.infoStart (slotsOf (program.leadIn.map fun b => .item [b]))
      (unitsPieces (program.plan order) program.listStart program.units ++
        (⟨tableBytes program.rows, false⟩ :: (program.texts.map textPiece ++
          program.lists.flatMap (·.pieces order)))) := by
  have whole : Lies (program.source order) 0 0 (program.pieces order) :=
    lies_image (solid order valid)
  have behind := whole.right
  rwa [Nat.zero_add, Nat.zero_add, extent_singles] at behind

theorem length_source (program : Program) (order : ByteOrder) :
    (program.source order).segment.length = program.size := by
  show (Assembly.image (program.pieces order) program.infoStart program.abbrevStart).length = _
  rw [length_image, extent_pieces]

/-- The table of a program lies where the units end. -/
theorem table_lies (order : ByteOrder) (valid : program.Valid) :
    (program.source order).segment.Holds program.abbrevStart (tableBytes program.rows) := by
  have behind := (lies order valid).right
  rw [extent_units] at behind
  exact behind.1

/-- Where the table starts, there is no descriptor. -/
theorem slot?_abbrevStart (valid : program.Valid) :
    (program.source order).items.slot? (program.abbrevStart : Int) = none := by
  have row : (⟨tableBytes program.rows, false⟩ : Piece).bytes ≠ [] := by
    rw [tableBytes]
    exact List.append_ne_nil_of_right_ne_nil _ (List.cons_ne_nil _ _)
  have solid := solid order valid
  rw [pieces_eq, ← List.append_assoc] at solid
  have lost : (Assembly.image _ program.infoStart program.abbrevStart).symbols.slot? _ = none :=
    slot?_image solid Bool.false_ne_true row
  rwa [extent_append, extent_singles, extent_units, List.append_assoc] at lost

/-- The texts and the lists of a program lie behind its table. -/
theorem texts_lie (order : ByteOrder) (valid : program.Valid) :
    ∃ slot, Lies (program.source order) program.textStart slot
      (program.texts.map textPiece ++ program.lists.flatMap (·.pieces order)) := by
  have behind := (lies order valid).right
  rw [extent_units] at behind
  exact ⟨_, behind.2.2⟩

theorem lists_lie (order : ByteOrder) (valid : program.Valid) :
    ∃ slot, Lies (program.source order) program.listStart slot
      (program.lists.flatMap (·.pieces order)) := by
  obtain ⟨slot, lie⟩ := texts_lie order valid
  have behind := lie.right
  rw [extent_texts] at behind
  exact ⟨_, behind⟩

/-- A program's texts stand where its plan says, and its table declares its rows. -/
theorem exists_prepared (valid : program.Valid) (order : ByteOrder) :
    ∃ index, Abbreviation.Index.scan (program.source order).segment program.abbrevStart =
        .ok index ∧ index.duplicates = [] ∧
      Prepared (program.source order) (program.plan order) program.texts program.rows index := by
  have held := table_lies order valid
  obtain ⟨stop, scanned⟩ := scan_table valid.rows held
  obtain ⟨slot, lie⟩ := texts_lie order valid
  have small := valid.small
  have length := length_source program order
  refine ⟨_, scanned, duplicates_table valid.codes, ⟨rfl, ?_, fun text mem => ?_⟩, valid.rows,
    fun row mem => declares_table valid.rows valid.codes held mem⟩
  · omega
  · obtain ⟨inside, found⟩ := texts_of_lies lie.left text mem
    refine ⟨?_, ?_⟩
    · show addressIn program.textStart program.texts text < _
      omega
    · show (program.source order).textAt (addressIn program.textStart program.texts text : Nat) = _
      rw [Source.textAt_of]
      exact congrArg (Except.mapError Failure.ofDamage) found

/-- What decoding a program's image gives: the tree of the program, once the entry at which it
starts is found and the references are followed. A bare unit at the end is refused. -/
def decoded (program : Program) (entryPoint : Value) : Except Failure ScopeTree :=
  match bareEnd? program.infoStart program.units with
  | none => (program.tree.started entryPoint).map (·.complete.1)
  | some addr => .error ((Failure.ofDamage (.noEntryDescriptor addr)).through .unitEntry)

end Program

/-! ### Decoding -/

theorem quiet_completeOne (t : ScopeTree) (i : Nat) :
    ∀ n ∈ (t.completeOne i).2, n.level = .debug := by
  intro n mem
  unfold ScopeTree.completeOne at mem
  split at mem
  · exact absurd mem List.not_mem_nil
  · split at mem
    · rw [List.mem_singleton.1 mem]
      rfl
    · exact absurd mem List.not_mem_nil

theorem quiet_completeIn (t : ScopeTree) (is : List Nat) :
    ∀ n ∈ (t.completeIn is).2, n.level = .debug := by
  induction is generalizing t with
  | nil => exact fun n mem => absurd mem List.not_mem_nil
  | cons i rest ih =>
    intro n mem
    rcases List.mem_append.1 mem with first | more
    · exact quiet_completeOne t i n first
    · exact ih _ n more

theorem quiet_finish {p : Progress} (quiet : ∀ n ∈ p.notices, n.level = .debug)
    (entryPoint : Value) : ∀ n ∈ (outcome (finish entryPoint) p).2, n.level = .debug := by
  intro n mem
  rw [outcome_finish] at mem
  rcases List.mem_append.1 mem with before | behind
  · rw [Array.toList_push] at before
    rcases List.mem_append.1 before with old | new
    · exact quiet n (by simpa using old)
    · rw [List.mem_singleton.1 new]
      rfl
  · split at behind
    · exact quiet_completeIn _ _ n behind
    · exact absurd behind List.not_mem_nil

/-- The rows of a table: units, methods, and units without anything to say. -/
def unitRow : Row := ⟨⟨0x11, true, [(0x3, 0xE), (0x3FE1, 0xC)]⟩, 1⟩

def methodRow : Row := ⟨⟨0x2E, false, [(0x3, 0xE), (0x11, 0x1), (0x12, 0x6), (0x3A, 0xB)]⟩, 2⟩

def bareRow : Row := ⟨⟨0x11, false, []⟩, 3⟩

def unitRecord : Record := ⟨unitRow, [⟨0x3, 0xE, .name "main.c"⟩, ⟨0x3FE1, 0xC, .absent⟩]⟩

def methodRecord : Record :=
  ⟨methodRow, [⟨0x3, 0xE, .name "main"⟩, ⟨0x11, 0x1, .low 0x1000⟩, ⟨0x12, 0x6, .high 0x40⟩,
    ⟨0x3A, 0xB, .item [7]⟩]⟩

/-- One unit with one method. -/
def methodProgram : Program :=
  ⟨[0xEE], [unitRow, methodRow, bareRow], [⟨4, some (unitRecord, .node methodRecord .nil .nil)⟩]⟩

/-- The same with a bare unit behind it. -/
def bareProgram : Program :=
  { methodProgram with units := methodProgram.units ++ [⟨4, some (⟨bareRow, []⟩, .nil)⟩] }

theorem rows_valid : ∀ row ∈ [unitRow, methodRow, bareRow], row.Valid := by
  simp only [List.forall_mem_cons, List.not_mem_nil, false_implies, implies_true, and_true]
  exact ⟨⟨by decide, by decide, by decide, by decide⟩, ⟨by decide, by decide, by decide, by decide⟩,
    ⟨by decide, by decide, by decide, by decide⟩⟩

theorem unitRecord_valid : unitRecord.Valid methodProgram.rows := by
  refine ⟨by decide, rfl, ?_, trivial⟩
  simp only [unitRecord, List.forall_mem_cons, List.not_mem_nil, false_implies, implies_true,
    and_true]
  exact ⟨⟨rfl, rfl⟩, .inl rfl⟩

theorem methodRecord_valid : methodRecord.Valid methodProgram.rows := by
  refine ⟨by decide, rfl, ?_, ⟨rfl, rfl, trivial⟩⟩
  simp only [methodRecord, List.forall_mem_cons, List.not_mem_nil, false_implies, implies_true,
    and_true]
  exact ⟨⟨rfl, rfl⟩, ⟨rfl, 4, rfl, by decide⟩, ⟨rfl, 4, rfl, by decide⟩, ⟨rfl, rfl, by decide⟩⟩

theorem unit_valid : ∀ u ∈ methodProgram.units, u.Valid methodProgram.rows := by
  intro u mem
  rw [List.mem_singleton.1 mem]
  refine ⟨by decide, fun record below entry => ?_⟩
  cases entry
  exact ⟨unitRecord_valid, fun childless => absurd childless (by decide), methodRecord_valid,
    fun _ => rfl, trivial, trivial⟩

theorem methodProgram_valid : methodProgram.Valid :=
  ⟨rows_valid, by decide, unit_valid, by decide +kernel⟩

theorem bareProgram_valid : bareProgram.Valid := by
  refine ⟨rows_valid, by decide, fun u mem => ?_, by decide +kernel⟩
  rcases List.mem_append.1 mem with before | last
  · exact unit_valid u before
  · rw [List.mem_singleton.1 last]
    refine ⟨by decide, fun record below entry => ?_⟩
    cases entry
    have fields : ∀ f ∈ ([] : List Field), f.Valid := fun f mem => absurd mem List.not_mem_nil
    exact ⟨⟨by decide, rfl, fields, trivial⟩, fun _ => rfl, trivial⟩

end DebugScopes.Assembly

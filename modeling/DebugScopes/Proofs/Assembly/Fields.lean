import DebugScopes.Proofs.Assembly.Program
import DebugScopes.Proofs.Decoding.Ranges

/-!
# Decoding assembled attributes

An attribute that has been laid out is decoded to what it holds, and both cursors end behind its
pieces.

* `Laid`: the texts of a program stand where its plan says;
* `pairs?_of_lies`: lists of ranges;
* `decode_field`: one attribute;
* `decodeAll_fields`: all attributes of an entry.
-/

namespace DebugScopes

open Dwarf

/-! ### Forms -/

/-- The numbers that can be read are one, two or four bytes wide. -/
theorem Dwarf.Form.isWidth_of_width? {form : Int} {width : Nat}
    (known : Form.width? form = some width) : Segment.IsWidth width := by
  unfold Form.width? at known
  unfold Segment.IsWidth
  split at known
  · have same := Option.some.inj known
    omega
  · split at known
    · have same := Option.some.inj known
      omega
    · split at known
      · have same := Option.some.inj known
        omega
      · cases known

namespace Assembly

/-! ### Open ranges -/

section Ranges

variable {ranges : List CodeRange} {form n : Nat}

theorem ended_of_closed (form n : Nat) (r : CodeRange) (closed : r.isOpen = false) :
    ended form n r = r := by
  rw [ended, closed]
  rfl

theorem isOpen_ended (r : CodeRange) : (ended form n r).isOpen = false := by
  unfold ended
  split
  · rfl
  · next closed => simpa using closed

theorem countP_map_ended : (ranges.map (ended form n)).countP (·.isOpen) = 0 := by
  apply List.countP_eq_zero.2
  intro r mem
  obtain ⟨r', -, rfl⟩ := List.mem_map.1 mem
  rw [isOpen_ended]
  exact Bool.false_ne_true

/-- A high bound ends the range that is open, if there is just one. -/
theorem added_high {d : Description} (base : Int) (one : d.openCount = 1) :
    RangeMark.added base d (.high form n) = some (d.ranges.map (ended form n)) := by
  cases pending : d.pending? with
  | none =>
    rw [pending?_eq_none, one] at pending
    cases pending
  | some r =>
    have ends : ended form n r = { r with high := some (RangeMark.bound r.low form n) } :=
      if_pos (RangeMark.isOpen_of_pending? pending)
    rw [RangeMark.added, pending]
    exact congrArg some
      (Decode.closeFirst_eq_map (ended_of_closed form n) (Nat.le_of_eq one) pending ends)

end Ranges

/-! ### Items -/

/-- A source in which a plan's texts stand where the plan says. Addresses fit four bytes. -/
structure Laid (src : Source) (plan : Plan) (texts : List String) : Prop where
  order : src.segment.order = .ok plan.order
  small : src.segment.length < 2 ^ 32
  texts : ∀ text ∈ texts, plan.textAddr text < 2 ^ 32 ∧
    src.textAt (plan.textAddr text) = .ok (Utf8.upToZero text)

section Items

variable {src : Source} {pos slot : Nat} {rest : List Piece} {order : ByteOrder}

theorem Marked.inSlot {size : Nat} (marked : Marked src pos slot size) :
    src.items.inSlot slot = .ok ⟨.int pos, .int size⟩ := by
  unfold Slots.inSlot
  rw [if_neg (by omega), Int.toNat_natCast, marked.row]

theorem Marked.item {size : Nat} {p : Int} {d : Description} (marked : Marked src pos slot size) :
    Decode.item src ⟨p, slot, d⟩ = .ok ⟨.int pos, .int size⟩ ⟨p, slot, d⟩ := by
  show (checked (src.items.inSlot slot) : Decode Item) _ = _
  rw [marked.inSlot]
  rfl

/-- A number that has been laid out is read, as wide as it is. -/
theorem Lies.sized {width n : Nat} (lies : Lies src pos slot (.number order width n :: rest))
    (ordered : src.segment.order = .ok order) (fits : (⟨n, width⟩ : Bound).Fits) :
    src.segment.sized width pos = .ok n ((pos + width : Nat) : Int) :=
  lies.1.sized ordered fits.2 fits.1

theorem reading_of_ok {α : Type} {read : Read α} {w : Work} {a : α} {after : Int}
    (ran : read w.pos = .ok a after) :
    Decode.reading read w = .ok a { w with pos := after } :=
  Decode.reading_eq_ok.2 ⟨after, ran, rfl⟩

theorem width?_of_carries {form n : Nat} (carries : Carries form n) :
    Form.width? form = some ((formWidth form : Nat) : Int) := by
  obtain ⟨width, known, -⟩ := carries
  unfold formWidth
  rw [known]
  rfl

/-- The number of an attribute that has been laid out. -/
theorem number?_of_lies {form n : Nat}
    (lies : Lies src pos slot (.number order (formWidth form) n :: rest))
    (ordered : src.segment.order = .ok order) (carries : Carries form n) :
    src.number? form pos = some n := by
  have known := width?_of_carries carries
  obtain ⟨width, declared, fits⟩ := carries
  obtain rfl : formWidth form = width := Int.ofNat.inj (Option.some.inj (known.symm.trans declared))
  unfold Source.number?
  rw [known]
  exact Decode.value?_eq_some.2
    ⟨_, lies.sized ordered ⟨Form.isWidth_of_width? known, fits⟩⟩

/-- The value of an attribute that has been laid out. -/
theorem value_of_lies {form n : Nat} (entry attr : Int) (d : Description)
    (lies : Lies src pos slot (.number order (formWidth form) n :: rest))
    (ordered : src.segment.order = .ok order) (carries : Carries form n) :
    Decode.value src entry attr form ⟨pos, slot, d⟩ =
      .ok n ⟨((pos + formWidth form : Nat) : Int), slot, d⟩ :=
  Decode.value_eq_ok.2 ⟨_, width?_of_carries carries, number?_of_lies lies ordered carries, rfl⟩

/-- A bound of a list of ranges stands in its slot. -/
theorem bound?_of_lies {b : Bound} (lies : Lies src pos slot (b.piece order :: rest))
    (ordered : src.segment.order = .ok order) (fits : b.Fits) :
    src.bound? slot = some b.value := by
  have found := lies.marked.inSlot
  rw [ByteOrder.length_spell] at found
  unfold Source.bound?
  rw [found]
  exact Decode.value?_eq_some.2 ⟨_, lies.sized ordered fits⟩

/-- A list of ranges starts with an item. -/
theorem slot?_list {l : RangeList} (lies : Lies src pos slot (l.pieces order)) :
    src.items.slot? pos = some slot := by
  refine lies.slot? (by simp [RangeList.pieces]) fun p mem => ?_
  rcases List.mem_append.1 mem with inside | last
  · obtain ⟨pair, -, mem⟩ := List.mem_flatMap.1 inside
    simp only [List.mem_cons, List.not_mem_nil, or_false] at mem
    rcases mem with rfl | rfl <;> rfl
  · simp only [List.mem_cons, List.not_mem_nil, or_false] at last
    rcases last with rfl | rfl <;> rfl

theorem fits_zero {width : Nat} (wide : Segment.IsWidth width) : (⟨0, width⟩ : Bound).Fits :=
  ⟨wide, Nat.pow_pos (by decide)⟩

/-- Two bounds in a row are read as a pair. -/
theorem pairs?_cons (low high : Bound)
    (lies : Lies src pos slot (low.piece order :: high.piece order :: rest))
    (ordered : src.segment.order = .ok order) (lowFits : low.Fits) (highFits : high.Fits) :
    src.pairs? slot =
      if low.value = 0 ∧ high.value = 0 then some []
      else (src.pairs? (slot + 2)).map ((low.value, high.value) :: ·) := by
  have behind : Lies src (pos + (low.piece order).size) (slot + 1) (high.piece order :: rest) :=
    lies.2.2
  exact Source.pairs?_of_bounds behind.marked.inside (bound?_of_lies lies ordered lowFits)
    (bound?_of_lies behind ordered highFits)

/-- The pairs of a list of ranges that has been laid out. -/
theorem pairs?_of_lies {l : RangeList} (lies : Lies src pos slot (l.pieces order))
    (ordered : src.segment.order = .ok order) (valid : l.Valid) :
    src.pairs? slot = some (l.pairs.map fun p => (p.1.value, p.2.value)) := by
  obtain ⟨pairs, lowWidth, highWidth⟩ := l
  obtain ⟨fits, nonzero, lowWide, highWide⟩ := valid
  unfold RangeList.pieces at lies
  dsimp only at fits nonzero lowWide highWide lies
  induction pairs generalizing pos slot with
  | nil =>
    rw [pairs?_cons ⟨0, lowWidth⟩ ⟨0, highWidth⟩ lies ordered (fits_zero lowWide)
      (fits_zero highWide), if_pos ⟨rfl, rfl⟩, List.map_nil]
  | cons p others ih =>
    have here := fits p List.mem_cons_self
    have behind : Lies src (pos + (p.1.piece order).size + (p.2.piece order).size) (slot + 2) _ :=
      lies.2.2.2.2
    rw [pairs?_cons p.1 p.2 lies ordered here.1 here.2, if_neg (nonzero p List.mem_cons_self),
      ih behind (fun q mem => fits q (List.mem_cons_of_mem _ mem))
        fun q mem => nonzero q (List.mem_cons_of_mem _ mem)]
    rfl

theorem map_shifted_pairs (base : Int) (l : RangeList) :
    (l.pairs.map fun p => (p.1.value, p.2.value)).map (RangeMark.shifted base) = l.ranges base := by
  rw [List.map_map]
  rfl

end Items

/-! ### One attribute -/

section Attributes

variable {src : Source} {plan : Plan} {texts : List String} {pos slot : Nat} {attr form n : Nat}
  {subject : Subject} {d : Description}

/-- The form of an address of a text has the width of an address. -/
theorem carries_textAddress (isText : (form : Int) = Form.textAddress) (fits : n < 2 ^ 32) :
    Carries form n := by
  refine ⟨4, ?_, fits⟩
  rw [isText]
  rfl

/-- An attribute that is read: what is left to step over is its descriptor. -/
theorem decode_read {w : Work} (w' : Work) (present : Attribute.role attr ≠ .absent)
    (wanted : Attribute.role attr ≠ .other) (carries : Carries form n)
    (taken : Decode.takeIn src subject attr form w = .ok () w') :
    Decode.decode src subject attr form w = .ok () { w' with slot := w'.slot + 1 } :=
  (Decode.decode_eq_ok_of_read present wanted fun _ => ⟨_, width?_of_carries carries⟩).2
    ⟨w', taken, rfl⟩

/-- An attribute that says something of the code adds what it says. -/
theorem decode_mark {m : RangeMark} {ranges : List CodeRange} (carries : Carries form n)
    (marks : Attribute.MarksCode attr) (said : src.mark? attr form pos = some m)
    (taken : m.added subject.base d = some ranges) :
    Decode.decode src subject attr form ⟨pos, slot, d⟩ =
      .ok () ⟨((pos + formWidth form : Nat) : Int), slot + 1, { d with ranges := ranges }⟩ :=
  (Decode.decode_eq_ok_of_marksCode marks).2
    ⟨m, ranges, _, said, taken, width?_of_carries carries, rfl⟩

section Reads

variable (lies : Lies src pos slot [.number plan.order (formWidth form) n])
  (ordered : src.segment.order = .ok plan.order) (carries : Carries form n)

include lies ordered carries

theorem decode_name {text : String} (role : Attribute.role attr = .name)
    (isText : (form : Int) = Form.textAddress) (stands : src.textAt n = .ok text) :
    Decode.decode src subject attr form ⟨pos, slot, d⟩ =
      .ok () ⟨((pos + formWidth form : Nat) : Int), slot + 1, { d with name := some text }⟩ := by
  have read := value_of_lies subject.addr attr d lies ordered carries
  refine decode_read ⟨_, slot, _⟩ (by rw [role]; decide) (by rw [role]; decide) carries ?_
  unfold Decode.takeIn
  rw [role]
  show (if (form : Int) ≠ Form.textAddress then _ else _ : Decode Unit) _ = _
  rw [if_neg (not_not_intro isText), bind_of_ok (within_eq_ok.2 read), stands]
  rfl

theorem decode_low (role : Attribute.role attr = .lowPc)
    (closed : d.ranges.countP (·.isOpen) = 0) :
    Decode.decode src subject attr form ⟨pos, slot, d⟩ =
      .ok () ⟨((pos + formWidth form : Nat) : Int), slot + 1,
        { d with ranges := d.ranges ++ [⟨n, none⟩] }⟩ := by
  have said : src.mark? attr form pos = some (.low n) := by
    rw [Source.mark?, role]
    exact congrArg (Option.map _) (number?_of_lies lies ordered carries)
  have pending : d.pending? = none := pending?_eq_none.2 closed
  refine decode_mark carries (.inl role) said ?_
  rw [RangeMark.added, pending]
  rfl

theorem decode_high (role : Attribute.role attr = .highPc)
    (one : d.ranges.countP (·.isOpen) = 1) :
    Decode.decode src subject attr form ⟨pos, slot, d⟩ =
      .ok () ⟨((pos + formWidth form : Nat) : Int), slot + 1,
        { d with ranges := d.ranges.map (ended form n) }⟩ := by
  have said : src.mark? attr form pos = some (.high form n) := by
    rw [Source.mark?, role]
    exact congrArg (Option.map _) (number?_of_lies lies ordered carries)
  exact decode_mark carries (.inr (.inl role)) said (added_high subject.base one)

theorem decode_reference (role : Attribute.role attr = .reference)
    (followed : (Form.referenceBase? form).isSome) :
    Decode.decode src subject attr form ⟨pos, slot, d⟩ =
      .ok () ⟨((pos + formWidth form : Nat) : Int), slot + 1,
        { d with target := some (n + referenceStart src.infoStart subject.unit form) }⟩ := by
  have read := value_of_lies subject.addr attr d lies ordered carries
  obtain ⟨origin, known⟩ := Option.isSome_iff_exists.1 followed
  refine decode_read ⟨_, slot, _⟩ (by rw [role]; decide) (by rw [role]; decide) carries ?_
  unfold Decode.takeIn referenceStart
  rw [role, known]
  dsimp only
  rw [bind_of_ok (within_eq_ok.2 read)]
  cases origin <;> rfl

theorem decode_ranges {l : RangeList} {listSlot : Nat} (role : Attribute.role attr = .ranges)
    (valid : l.Valid) (list : Lies src n listSlot (l.pieces plan.order)) :
    Decode.decode src subject attr form ⟨pos, slot, d⟩ =
      .ok () ⟨((pos + formWidth form : Nat) : Int), slot + 1,
        { d with ranges := d.ranges ++ l.ranges subject.base }⟩ := by
  have said : src.mark? attr form pos =
      some (.list (l.pairs.map fun p => (p.1.value, p.2.value))) := by
    rw [Source.mark?, role]
    dsimp only
    rw [number?_of_lies lies ordered carries, Option.bind_some, slot?_list list, Option.bind_some,
      pairs?_of_lies list ordered valid]
    rfl
  refine decode_mark carries (.inr (.inr role)) said ?_
  rw [RangeMark.added, map_shifted_pairs]

end Reads

/-! ### Attributes that are not read -/

theorem advance_of_skipped {form : Int} :
    Form.advance form =
      ⟨(Form.advance form).skipped, if (Form.advance form).skipped = .nothing then 0 else 1⟩ := by
  unfold Form.advance
  split
  · rfl
  · split <;> rfl

/-- An attribute of no interest is stepped over. -/
theorem decode_other {w : Work} (role : Attribute.role attr = .other) :
    Decode.decode src subject attr form w = Decode.stepOver src attr form w := by
  unfold Decode.decode Decode.takeIn
  rw [role]
  rfl

theorem decode_item {bytes : List UInt8} (role : Attribute.role attr = .other)
    (skipped : (Form.advance form).skipped = .item) (lies : Lies src pos slot [.item bytes]) :
    Decode.decode src subject attr form ⟨pos, slot, d⟩ =
      .ok () ⟨((pos + bytes.length : Nat) : Int), slot + 1, d⟩ := by
  have passed := lies.marked.item (p := pos) (d := d)
  have moved : (src.segment.skipBy (.int (bytes.length : Nat))) pos =
      .ok () ((pos + bytes.length : Nat) : Int) := by
    rw [Segment.skipBy_int]
    exact bind_of_ok lies.1.take
  rw [decode_other role]
  have stepped : Decode.stepData src attr .item ⟨pos, slot, d⟩ =
      .ok () ⟨((pos + bytes.length : Nat) : Int), slot, d⟩ := by
    unfold Decode.stepData
    dsimp only
    rw [if_pos role, bind_of_ok (within_eq_ok.2 passed)]
    exact reading_of_ok moved
  unfold Decode.stepOver
  rw [advance_of_skipped, skipped, bind_of_ok stepped]
  rfl

theorem extent_singles (bytes : List UInt8) :
    extent (bytes.map fun b => .item [b]) = bytes.length := by
  induction bytes with
  | nil => rfl
  | cons b rest ih =>
    rw [List.map_cons, extent_cons, ih, List.length_cons, Nat.add_comm]
    rfl

theorem slotsOf_singles (bytes : List UInt8) :
    slotsOf (bytes.map fun b => .item [b]) = bytes.length := by
  induction bytes with
  | nil => rfl
  | cons b rest ih =>
    rw [List.map_cons, slotsOf_cons, ih, List.length_cons, Nat.add_comm]
    rfl

theorem decode_block {width : Nat} {bytes : List UInt8} (role : Attribute.role attr = .other)
    (skipped : (Form.advance form).skipped = .block) (ordered : src.segment.order = .ok plan.order)
    (fits : (⟨bytes.length, width⟩ : Bound).Fits)
    (lies : Lies src pos slot
      (.number plan.order width bytes.length :: bytes.map fun b => .item [b])) :
    Decode.decode src subject attr form ⟨pos, slot, d⟩ =
      .ok () ⟨((pos + (width + bytes.length) : Nat) : Int), slot + (bytes.length + 1), d⟩ := by
  have first := lies.marked.item (p := pos) (d := d)
  rw [ByteOrder.length_spell] at first
  have length := lies.sized ordered fits
  have moved : src.segment.skip bytes.length ((pos + width : Nat) : Int) =
      .ok () ((pos + (width + bytes.length) : Nat) : Int) := by
    have short := lies.short
    rw [extent_cons, extent_singles, Piece.size, Piece.number, Piece.item,
      ByteOrder.length_spell] at short
    refine bind_of_ok (Segment.take_eq_ok.2 ⟨rfl, ?_, ?_, ?_, ?_⟩) <;> omega
  have stepped : Decode.stepData src attr .block ⟨pos, slot, d⟩ =
      .ok () ⟨((pos + (width + bytes.length) : Nat) : Int), slot + bytes.length, d⟩ := by
    unfold Decode.stepData
    dsimp only
    rw [bind_of_ok (within_eq_ok.2 first), bind_of_ok (within_eq_ok.2 (reading_of_ok length)),
      bind_of_ok (reading_of_ok moved)]
    rfl
  rw [decode_other role]
  unfold Decode.stepOver
  rw [advance_of_skipped, skipped, bind_of_ok stepped]
  show EStateM.Result.ok () (Work.mk _ (slot + bytes.length + 1) d) = _
  rw [Int.add_assoc]

/-- An attribute without data is passed by. -/
theorem decode_absent {w : Work}
    (dataless : Attribute.role attr = .absent ∨
      Attribute.role attr = .other ∧ (Form.advance form).skipped = .nothing) :
    Decode.decode src subject attr form w = .ok () w := by
  rcases dataless with absent | ⟨other, skipped⟩
  · unfold Decode.decode
    rw [if_pos absent]
    rfl
  · rw [decode_other other]
    unfold Decode.stepOver
    rw [advance_of_skipped, skipped]
    show EStateM.Result.ok () { w with slot := w.slot + 0 } = _
    rw [Int.add_zero]

end Attributes

section All

variable {src : Source} {plan : Plan} {texts : List String} {pos slot listAddr listSlot : Nat}
  {subject : Subject} {d : Description}

/-- An attribute that has been laid out is decoded to what it holds. -/
theorem decode_field {f : Field} {isOpen : Bool} {rest : List Field} (subject : Subject)
    (laid : Laid src plan texts) (valid : f.Valid) (known : ∀ text ∈ f.texts, text ∈ texts)
    (opens : d.ranges.countP (·.isOpen) = isOpen.toNat) (orderly : Orderly isOpen (f :: rest))
    (lies : Lies src pos slot (f.pieces plan listAddr))
    (lists : Lies src listAddr listSlot (f.lists.flatMap (·.pieces plan.order))) :
    Decode.decode src subject f.attr f.form ⟨pos, slot, d⟩ =
      .ok () ⟨((pos + f.size : Nat) : Int), ((slot + slotsOf (f.pieces plan listAddr) : Nat) : Int),
        Field.describe src.infoStart subject d f⟩ := by
  obtain ⟨attr, form, datum⟩ := f
  cases datum with
  | name text =>
    obtain ⟨role, isText⟩ := valid
    obtain ⟨fits, stands⟩ := laid.texts text (known text List.mem_cons_self)
    exact decode_name lies laid.order (carries_textAddress isText fits) role isText stands
  | low n =>
    obtain ⟨role, carries⟩ := valid
    rw [orderly.1] at opens
    exact decode_low lies laid.order carries role opens
  | high n =>
    obtain ⟨role, carries⟩ := valid
    rw [orderly.1] at opens
    exact decode_high lies laid.order carries role opens
  | ranges list =>
    obtain ⟨role, wide, valid⟩ := valid
    have short := lists.short
    have small := laid.small
    have carries : Carries form listAddr := ⟨4, wide, by omega⟩
    rw [show (Field.lists ⟨attr, form, .ranges list⟩).flatMap (·.pieces plan.order) =
      list.pieces plan.order from List.append_nil _] at lists
    exact decode_ranges lies laid.order carries role valid lists
  | reference n =>
    obtain ⟨role, followed, carries⟩ := valid
    exact decode_reference lies laid.order carries role followed
  | item bytes =>
    obtain ⟨role, skipped, -⟩ := valid
    exact decode_item role skipped lies
  | block width bytes =>
    obtain ⟨role, skipped, fits⟩ := valid
    have slots : slotsOf (Field.pieces plan listAddr ⟨attr, form, .block width bytes⟩) =
        bytes.length + 1 := by
      rw [Field.pieces, slotsOf_cons, slotsOf_singles, Nat.add_comm]
      rfl
    rw [slots]
    exact decode_block role skipped laid.order fits lies
  | absent => exact decode_absent valid

/-- What is open behind an attribute, if ranges are started and ended in order. -/
theorem Orderly.tail {f : Field} {isOpen : Bool} {rest : List Field} (infoStart : Int)
    (subject : Subject) (orderly : Orderly isOpen (f :: rest))
    (opens : d.ranges.countP (·.isOpen) = isOpen.toNat) :
    ∃ isOpen' : Bool, Orderly isOpen' rest ∧
      (Field.describe infoStart subject d f).ranges.countP (·.isOpen) = isOpen'.toNat := by
  obtain ⟨attr, form, datum⟩ := f
  cases datum with
  | low n =>
    obtain ⟨closed, orderly⟩ := orderly
    refine ⟨true, orderly, ?_⟩
    show (d.ranges ++ [(⟨n, none⟩ : CodeRange)]).countP (·.isOpen) = 1
    rw [List.countP_append, opens, closed]
    rfl
  | high n => exact ⟨false, orderly.2, countP_map_ended⟩
  | ranges list =>
    refine ⟨isOpen, orderly, ?_⟩
    show (d.ranges ++ list.ranges subject.base).countP (·.isOpen) = _
    rw [List.countP_append, opens, ← map_shifted_pairs, RangeMark.countP_shifted, Nat.add_zero]
  | name | reference | item | block | absent => exact ⟨isOpen, orderly, opens⟩

/-- The size of an attribute is that of its pieces. -/
theorem extent_field (plan : Plan) (listAddr : Nat) (f : Field) :
    extent (f.pieces plan listAddr) = f.size := by
  obtain ⟨attr, form, datum⟩ := f
  cases datum with
  | block width bytes =>
    rw [Field.pieces, extent_cons, extent_singles, Piece.size, Piece.number, Piece.item,
      ByteOrder.length_spell]
    rfl
  | item bytes => rfl
  | absent => rfl
  | name | low | high | ranges | reference => exact ByteOrder.length_spell ..

theorem extent_list (order : ByteOrder) (l : RangeList) : extent (l.pieces order) = l.size := by
  obtain ⟨pairs, lowWidth, highWidth⟩ := l
  unfold RangeList.pieces RangeList.size
  dsimp only
  induction pairs with
  | nil =>
    simp [extent, Piece.size, Piece.number, Piece.item]
  | cons p rest ih =>
    rw [List.flatMap_cons, List.append_assoc, extent_append, ih]
    simp [extent, Piece.size, Piece.number, Piece.item, Bound.piece]
    omega

theorem extent_lists (order : ByteOrder) (lists : List RangeList) :
    extent (lists.flatMap (·.pieces order)) = listsSize lists := by
  induction lists with
  | nil => rfl
  | cons l rest ih =>
    rw [List.flatMap_cons, extent_append, extent_list, ih]
    rfl

/-- All attributes of an entry are decoded. -/
theorem decodeAll_fields {fields : List Field} {isOpen : Bool} (subject : Subject)
    (d : Description) (laid : Laid src plan texts) (valid : ∀ f ∈ fields, f.Valid)
    (known : ∀ text ∈ fields.flatMap (·.texts), text ∈ texts)
    (opens : d.ranges.countP (·.isOpen) = isOpen.toNat) (orderly : Orderly isOpen fields)
    (lies : Lies src pos slot (fieldsPieces plan listAddr fields))
    (lists : Lies src listAddr listSlot
      ((fields.flatMap (·.lists)).flatMap (·.pieces plan.order))) :
    ∃ last, Decode.decodeAll src subject (fields.map fun f => (f.attr, f.form)) ⟨pos, slot, d⟩ =
      .ok () ⟨((pos + fieldsSize fields : Nat) : Int), last,
        fields.foldl (Field.describe src.infoStart subject) d⟩ := by
  induction fields generalizing pos slot listAddr listSlot d isOpen with
  | nil => exact ⟨slot, rfl⟩
  | cons f rest ih =>
    rw [List.flatMap_cons] at known lists
    rw [List.flatMap_append] at lists
    have first := decode_field subject laid (valid f List.mem_cons_self)
      (fun text mem => known text (List.mem_append_left _ mem)) opens orderly lies.left lists.left
    obtain ⟨isOpen', orderly', opens'⟩ := orderly.tail src.infoStart subject opens
    have behind := lies.right
    have listsBehind := lists.right
    rw [extent_field] at behind
    rw [extent_lists] at listsBehind
    obtain ⟨last, others⟩ := ih _ (fun g mem => valid g (List.mem_cons_of_mem _ mem))
      (fun text mem => known text (List.mem_append_right _ mem)) opens' orderly' behind listsBehind
    refine ⟨last, ?_⟩
    rw [List.map_cons, Decode.decodeAll, bind_of_ok first, others, List.foldl_cons, fieldsSize,
      fieldsSize, List.map_cons, List.sum_cons, Nat.add_assoc]

end All

end Assembly

end DebugScopes

import DebugScopes.Proofs.Decoding.Step
import DebugScopes.Proofs.Decoding.Telling
import DebugScopes.Proofs.Image.SymbolTable

/-!
# What attributes say of the code

Three attributes say where the code of an entry lies: one has a low bound, one a high bound, and one
the address of a list of pairs. `RangeMark` is what such an attribute says, with the numbers as they
stand in the data, and `Source.mark?` reads it off the data. `RangeMark.closed` is what ranges marks
tell of, however they are mixed.

* `Decode.rangesFrom_eq_ok`: when a list of ranges is read, and what comes of it;
* `Decode.decode_eq_ok_of_marksCode`: when such an attribute is decoded, and what comes of it;
* `Decode.ranges_decode`: all other attributes leave the ranges alone.
-/

namespace DebugScopes

open Dwarf

/-! ### Numbers in the data -/

/-- Behind a number that can be read there is nothing left but its descriptor. -/
theorem Dwarf.Form.advance_of_width? {form width : Int} (known : Form.width? form = some width) :
    Form.advance form = ⟨.item, 1⟩ := by
  unfold Form.advance
  rw [if_neg, if_neg]
  · rintro rfl
    cases known
  · rintro (rfl | rfl | rfl | rfl | rfl) <;> cases known

/-- What a read yields at a position. -/
def Read.value? {α : Type} (read : Read α) (pos : Int) : Option α :=
  match read pos with
  | .ok a _ => some a
  | .error _ _ => none

namespace Source

/-- The number that an attribute of a form has at a position. -/
def number? (src : Source) (form pos : Int) : Option Nat :=
  (Dwarf.Form.width? form).bind fun width => (src.segment.sized width).value? pos

/-- The number of the item in a slot, at the address and as wide as the item says. -/
def bound? (src : Source) (slot : Nat) : Option Nat :=
  match src.items.inSlot slot with
  | .ok item => item.addr.int?.bind (src.segment.sizedBy item.size).value?
  | .error _ => none

/-- The pairs of the list of ranges whose first pair stands in a slot, up to the pair of zeros. -/
def pairs? (src : Source) (slot : Nat) : Option (List (Nat × Nat)) :=
  if _ended : src.items.count ≤ slot + 1 then none
  else
    match src.bound? slot, src.bound? (slot + 1) with
    | some low, some high =>
      if low = 0 ∧ high = 0 then some []
      else (src.pairs? (slot + 2)).map ((low, high) :: ·)
    | _, _ => none
termination_by src.items.count - slot
decreasing_by omega

/-- Two bounds in a row are a pair of the list, or end it. -/
theorem pairs?_of_bounds {src : Source} {slot low high : Nat} (more : slot + 1 < src.items.count)
    (first : src.bound? slot = some low) (second : src.bound? (slot + 1) = some high) :
    src.pairs? slot =
      if low = 0 ∧ high = 0 then some [] else (src.pairs? (slot + 2)).map ((low, high) :: ·) := by
  rw [pairs?, dif_neg (Nat.not_le.2 more), first, second]

end Source

/-- What an attribute says of the code of its entry: a low bound, the form and the number of a high
bound, or the pairs of a list. -/
inductive RangeMark
  | low (n : Nat)
  | high (form : Int) (n : Nat)
  | list (pairs : List (Nat × Nat))
deriving DecidableEq, Repr

/-- What the attribute at a position says of the code. -/
def Source.mark? (src : Source) (attr form pos : Int) : Option RangeMark :=
  match Attribute.role attr with
  | .lowPc => (src.number? form pos).map .low
  | .highPc => (src.number? form pos).map (.high form)
  | .ranges =>
    ((src.number? form pos).bind fun list => (src.items.slot? list).bind src.pairs?).map .list
  | _ => none

/-- What the attributes say of the code, one after the other from where the cursors are. -/
def Decode.marks (src : Source) (subject : Subject) : List (Nat × Nat) → Work → List RangeMark
  | [], _ => []
  | (attr, form) :: rest, w =>
    match decode src subject attr form w with
    | .ok () w' => (src.mark? attr form w.pos).toList ++ marks src subject rest w'
    | .error _ _ => []

namespace RangeMark

/-- The high bound of a range: an address is the bound itself, any other number is the length. -/
def bound (low form : Int) (n : Nat) : Int :=
  if form = Dwarf.Form.address then n else low + n

/-- The pair as a range, counted from a base. -/
def shifted (base : Int) (pair : Nat × Nat) : CodeRange := ⟨pair.1 + base, some (pair.2 + base)⟩

/-- The form and the number of the high bound that ends what is open before the marks: the first
one, unless another range starts before. -/
def ending? : List RangeMark → Option (Int × Nat)
  | [] => none
  | low _ :: _ => none
  | high form n :: _ => some (form, n)
  | list _ :: rest => ending? rest

/-- Where a range ends that has started at `low` before the marks. -/
def end? (low : Int) (marks : List RangeMark) : Option Int :=
  (ending? marks).map fun (form, n) => bound low form n

/-- The ranges that marks tell of: a range that a later bound ends stands where it has started, the
pairs of a list stand where the list is named, and a range that nothing ends is left out. -/
def closed (base : Int) : List RangeMark → List CodeRange
  | [] => []
  | low n :: rest =>
    ((end? n rest).map fun high => (⟨n, some high⟩ : CodeRange)).toList ++ closed base rest
  | high _ _ :: rest => closed base rest
  | list pairs :: rest => pairs.map (shifted base) ++ closed base rest

/-- The same ranges with the one that nothing ends. -/
def ranges (base : Int) : List RangeMark → List CodeRange
  | [] => []
  | low n :: rest => ⟨n, end? n rest⟩ :: ranges base rest
  | high _ _ :: rest => ranges base rest
  | list pairs :: rest => pairs.map (shifted base) ++ ranges base rest

/-- The ranges of an entry behind a mark, unless it is refused: no range starts while another is
open, and none ends while none is. -/
def added (base : Int) (d : Description) : RangeMark → Option (List CodeRange)
  | low n => if d.pending?.isSome then none else some (d.ranges ++ [⟨n, none⟩])
  | high form n => d.pending?.map fun r => Decode.closeFirst (bound r.low form n) d.ranges
  | list pairs => some (d.ranges ++ pairs.map (shifted base))

end RangeMark

/-- An attribute says something of the code. -/
def Dwarf.Attribute.MarksCode (attr : Int) : Prop :=
  Attribute.role attr = .lowPc ∨ Attribute.role attr = .highPc ∨ Attribute.role attr = .ranges

/-- The same work with more ranges known. -/
def Work.adding (w : Work) (ranges : List CodeRange) : Work :=
  { w with about := { w.about with ranges := w.about.ranges ++ ranges } }

@[simp] theorem Work.adding_nil (w : Work) : w.adding [] = w := by
  rw [adding, List.append_nil]

@[simp] theorem Work.adding_adding (w : Work) (first second : List CodeRange) :
    (w.adding first).adding second = w.adding (first ++ second) := by
  simp only [adding, List.append_assoc]

namespace Decode

variable {src : Source} {subject : Subject} {attr form : Int} {w w' : Work}

/-! ### Decoding numbers -/

theorem reading_eq_ok {α : Type} {read : Read α} {a : α} :
    reading read w = .ok a w' ↔ ∃ pos, read w.pos = .ok a pos ∧ w' = { w with pos := pos } := by
  unfold reading
  cases read w.pos with
  | ok b pos =>
    constructor
    · intro run
      cases run
      exact ⟨pos, rfl, rfl⟩
    · rintro ⟨_, same, rfl⟩
      cases same
      rfl
  | error e pos =>
    constructor
    · intro run
      cases run
    · rintro ⟨_, same, -⟩
      cases same

theorem elsewhere_eq_ok {α : Type} {read : Read α} {addr : Int} {a : α} :
    elsewhere addr read w = .ok a w' ↔ read.value? addr = some a ∧ w' = w := by
  unfold elsewhere Read.value?
  cases read addr with
  | ok b pos =>
    constructor
    · intro run
      cases run
      exact ⟨rfl, rfl⟩
    · rintro ⟨same, rfl⟩
      cases same
      rfl
  | error e pos =>
    constructor
    · intro run
      cases run
    · rintro ⟨same, -⟩
      cases same

theorem value?_eq_some {α : Type} {read : Read α} {pos : Int} {a : α} :
    read.value? pos = some a ↔ ∃ after, read pos = .ok a after := by
  unfold Read.value?
  cases read pos <;> simp

theorem value?_within {α : Type} (step : Step) (read : Read α) (pos : Int) :
    Read.value? (within step read) pos = read.value? pos := by
  unfold Read.value? within
  cases read pos <;> rfl

/-- The value of an attribute is the number at the position. -/
theorem value_eq_ok {entry : Int} {n : Nat} :
    value src entry attr form w = .ok n w' ↔ ∃ width, Dwarf.Form.width? form = some width ∧
      src.number? form w.pos = some n ∧ w' = { w with pos := w.pos + width } := by
  unfold value Source.number?
  cases Dwarf.Form.width? form with
  | none =>
    constructor
    · intro run
      cases run
    · rintro ⟨_, same, -⟩
      cases same
  | some width =>
    simp only [reading_eq_ok, within_eq_ok, Option.bind_some, value?_eq_some]
    constructor
    · rintro ⟨pos, read, rfl⟩
      exact ⟨width, rfl, ⟨pos, read⟩, by rw [(Segment.sized_ok read).1]⟩
    · rintro ⟨_, same, ⟨pos, read⟩, rfl⟩
      cases same
      exact ⟨pos, read, by rw [(Segment.sized_ok read).1]⟩

/-- What is done with the value of an attribute starts behind the value. -/
theorem bind_value_eq_ok {α : Type} {step : Step} {entry : Int} {next : Nat → Decode α} {a : α} :
    (within step (value src entry attr form) >>= next) w = .ok a w' ↔
      ∃ n width, Dwarf.Form.width? form = some width ∧ src.number? form w.pos = some n ∧
        next n { w with pos := w.pos + width } = .ok a w' := by
  simp only [bind_eq_ok, within_eq_ok, value_eq_ok]
  constructor
  · rintro ⟨n, _, ⟨width, known, read, rfl⟩, ran⟩
    exact ⟨n, width, known, read, ran⟩
  · rintro ⟨n, width, known, read, ran⟩
    exact ⟨n, _, ⟨width, known, read, rfl⟩, ran⟩

theorem describing_eq_ok {change : Description → Description} :
    describing change w = .ok () w' ↔ w' = { w with about := change w.about } := by
  constructor
  · intro run
    cases run
    rfl
  · rintro rfl
    rfl

theorem addRange_eq_ok {r : CodeRange} : addRange r w = .ok () w' ↔ w' = w.adding [r] :=
  describing_eq_ok

/-- A bound is the number in the slot, and leaves everything as it was. -/
theorem bound_eq_ok {slot n : Nat} :
    Decode.bound src slot w = .ok n w' ↔ src.bound? slot = some n ∧ w' = w := by
  unfold Decode.bound Source.bound?
  cases src.items.inSlot slot with
  | error damage =>
    constructor
    · intro run
      cases run
    · rintro ⟨same, -⟩
      cases same
  | ok item =>
    rw [bind_of_ok (show (checked (.ok item) : Decode Item) w = .ok item w from rfl)]
    dsimp only
    cases item.addr.int? with
    | none =>
      constructor
      · intro run
        cases run
      · rintro ⟨same, -⟩
        cases same
    | some addr =>
      simp only [Option.bind_some]
      rw [elsewhere_eq_ok, value?_within]

/-- Two bounds in a row are read as a pair. -/
theorem rangesFrom_of_bounds {entry list base : Int} {slot low high : Nat}
    (more : slot + 1 < src.items.count) (first : src.bound? slot = some low)
    (second : src.bound? (slot + 1) = some high) :
    rangesFrom src entry list base slot w =
      if low = 0 ∧ high = 0 then .ok () w
      else rangesFrom src entry list base (slot + 2)
        (w.adding [RangeMark.shifted base (low, high)]) := by
  rw [rangesFrom, dif_neg (Nat.not_le.2 more), bind_of_ok (bound_eq_ok.2 ⟨first, rfl⟩)]
  show (Decode.bound src (slot + 1) >>= _) w = _
  rw [bind_of_ok (bound_eq_ok.2 ⟨second, rfl⟩)]
  by_cases zeros : low = 0 ∧ high = 0
  · rw [if_pos zeros, if_pos zeros]
    rfl
  · rw [if_neg zeros, if_neg zeros]
    rfl

/-- A list of ranges is read exactly if its pairs are there, and adds them to the ranges. -/
theorem rangesFrom_eq_ok {entry list base : Int} {slot : Nat} :
    rangesFrom src entry list base slot w = .ok () w' ↔
      ∃ pairs, src.pairs? slot = some pairs ∧
        w' = w.adding (pairs.map (RangeMark.shifted base)) := by
  fun_induction Source.pairs? src slot generalizing w with
  | case1 slot ended =>
    rw [rangesFrom, dif_pos ended]
    exact iff_of_false refuse_ne_ok fun ⟨_, same, _⟩ => nomatch same
  | case2 slot more low high second first zeros =>
    rw [rangesFrom_of_bounds (Nat.not_le.1 more) first second, if_pos zeros]
    constructor
    · intro run
      cases run
      exact ⟨[], rfl, (Work.adding_nil _).symm⟩
    · rintro ⟨_, same, rfl⟩
      cases same
      rw [List.map_nil, w.adding_nil]
  | case3 slot more low high second first nonzero ih =>
    rw [rangesFrom_of_bounds (Nat.not_le.1 more) first second, if_neg nonzero, ih]
    simp only [Work.adding_adding, Option.map_eq_some_iff]
    constructor
    · rintro ⟨pairs, found, added⟩
      exact ⟨_, ⟨pairs, found, rfl⟩, added⟩
    · rintro ⟨_, ⟨pairs, found, rfl⟩, added⟩
      exact ⟨pairs, found, added⟩
  | case4 slot more unreadable =>
    rw [rangesFrom, dif_neg more]
    refine iff_of_false (fun run => ?_) fun ⟨_, same, _⟩ => nomatch same
    obtain ⟨low, between, firstRan, rest⟩ := bind_eq_ok.1 run
    obtain ⟨high, _, secondRan, -⟩ := bind_eq_ok.1 rest
    exact unreadable low high (bound_eq_ok.1 firstRan).1 (bound_eq_ok.1 secondRan).1

/-! ### Decoding one attribute -/

/-- Behind an attribute whose value has been read nothing is left but its descriptor. -/
theorem decode_eq_ok_of_read (present : Attribute.role attr ≠ .absent)
    (wanted : Attribute.role attr ≠ .other)
    (wide : ∀ {taken}, takeIn src subject attr form w = .ok () taken →
      ∃ width, Dwarf.Form.width? form = some width) :
    decode src subject attr form w = .ok () w' ↔ ∃ taken,
      takeIn src subject attr form w = .ok () taken ∧
        w' = { taken with slot := taken.slot + 1 } := by
  have step {taken : Work} (ran : takeIn src subject attr form w = .ok () taken) :
      stepOver src attr form taken = .ok () { taken with slot := taken.slot + 1 } := by
    obtain ⟨width, known⟩ := wide ran
    unfold stepOver stepData
    rw [Dwarf.Form.advance_of_width? known]
    show ((if Attribute.role attr = .other then _ else (pure () : Decode Unit)) >>= _) taken = _
    rw [if_neg wanted]
    rfl
  unfold decode
  rw [if_neg present, bind_eq_ok]
  constructor
  · rintro ⟨_, taken, ran, stepped⟩
    rw [step ran] at stepped
    cases stepped
    exact ⟨taken, ran, rfl⟩
  · rintro ⟨taken, ran, rfl⟩
    exact ⟨(), taken, ran, step ran⟩

theorem takeIn_lowPc (role : Attribute.role attr = .lowPc) :
    takeIn src subject attr form w = .ok () w' ↔ w.about.pending? = none ∧
      ∃ n width, Dwarf.Form.width? form = some width ∧ src.number? form w.pos = some n ∧
        w' = { w.adding [⟨n, none⟩] with pos := w.pos + width } := by
  unfold takeIn
  rw [role]
  show (if w.about.pending?.isSome then _ else _ : Decode Unit) w = _ ↔ _
  cases w.about.pending? with
  | some pending => exact iff_of_false refuse_ne_ok fun ⟨open_, _⟩ => nomatch open_
  | none =>
    simp only [Option.isSome_none, Bool.false_eq_true, if_false, bind_value_eq_ok, addRange_eq_ok,
      true_and]
    rfl

theorem takeIn_highPc (role : Attribute.role attr = .highPc) :
    takeIn src subject attr form w = .ok () w' ↔ ∃ r, w.about.pending? = some r ∧
      ∃ n width, Dwarf.Form.width? form = some width ∧ src.number? form w.pos = some n ∧
        w' = { w with
          pos := w.pos + width
          about := { w.about with
            ranges := closeFirst (RangeMark.bound r.low form n) w.about.ranges } } := by
  unfold takeIn
  rw [role]
  dsimp only
  rw [bind_of_ok (show (get : Decode Work) w = .ok w w from rfl)]
  cases w.about.pending? with
  | none => exact iff_of_false refuse_ne_ok fun ⟨_, closed, _⟩ => nomatch closed
  | some r =>
    simp only [bind_value_eq_ok, describing_eq_ok, Option.some.injEq, exists_eq_left']
    rfl

theorem takeIn_ranges (role : Attribute.role attr = .ranges) :
    takeIn src subject attr form w = .ok () w' ↔
      ∃ n width slot pairs, Dwarf.Form.width? form = some width ∧
        src.number? form w.pos = some n ∧ src.items.slot? n = some slot ∧
          src.pairs? slot = some pairs ∧
            w' = { w.adding (pairs.map (RangeMark.shifted subject.base)) with
              pos := w.pos + width } := by
  unfold takeIn
  rw [role]
  simp only [bind_value_eq_ok]
  simp only [bind_eq_ok, within_eq_ok, checked_eq_ok, Slots.slotOf_eq_ok, rangesFrom_eq_ok]
  constructor
  · rintro ⟨n, width, known, read, slot, _, ⟨there, rfl⟩, pairs, found, rfl⟩
    exact ⟨n, width, slot, pairs, known, read, there, found, rfl⟩
  · rintro ⟨n, width, slot, pairs, known, read, there, found, rfl⟩
    exact ⟨n, width, known, read, slot, _, ⟨there, rfl⟩, pairs, found, rfl⟩

/-- An attribute that says something of the code is decoded exactly if it can be read and what it
says is not refused. Both cursors move behind it, and nothing but the ranges changes. -/
theorem decode_eq_ok_of_marksCode (marks : Attribute.MarksCode attr) :
    decode src subject attr form w = .ok () w' ↔ ∃ m ranges width,
      src.mark? attr form w.pos = some m ∧ m.added subject.base w.about = some ranges ∧
        Dwarf.Form.width? form = some width ∧
          w' = ⟨w.pos + width, w.slot + 1, { w.about with ranges := ranges }⟩ := by
  unfold Source.mark?
  rcases marks with role | role | role
  · rw [decode_eq_ok_of_read (by rw [role]; decide) (by rw [role]; decide) fun ran => by
      obtain ⟨-, _, width, known, -⟩ := (takeIn_lowPc role).1 ran
      exact ⟨width, known⟩]
    simp only [role, takeIn_lowPc role, Option.map_eq_some_iff]
    constructor
    · rintro ⟨_, ⟨closed, n, width, known, read, rfl⟩, rfl⟩
      refine ⟨_, _, width, ⟨n, read, rfl⟩, ?_, known, rfl⟩
      rw [RangeMark.added, closed]
      rfl
    · rintro ⟨_, ranges, width, ⟨n, read, rfl⟩, taken, known, rfl⟩
      rw [RangeMark.added] at taken
      cases closed : w.about.pending? with
      | some r =>
        rw [closed] at taken
        cases taken
      | none =>
        rw [closed] at taken
        cases taken
        exact ⟨_, ⟨rfl, n, width, known, read, rfl⟩, rfl⟩
  · rw [decode_eq_ok_of_read (by rw [role]; decide) (by rw [role]; decide) fun ran => by
      obtain ⟨_, -, _, width, known, -⟩ := (takeIn_highPc role).1 ran
      exact ⟨width, known⟩]
    simp only [role, takeIn_highPc role, Option.map_eq_some_iff]
    constructor
    · rintro ⟨_, ⟨r, pending, n, width, known, read, rfl⟩, rfl⟩
      refine ⟨_, _, width, ⟨n, read, rfl⟩, ?_, known, rfl⟩
      rw [RangeMark.added, pending]
      rfl
    · rintro ⟨_, ranges, width, ⟨n, read, rfl⟩, taken, known, rfl⟩
      obtain ⟨r, pending, rfl⟩ := Option.map_eq_some_iff.1 taken
      exact ⟨_, ⟨r, pending, n, width, known, read, rfl⟩, rfl⟩
  · rw [decode_eq_ok_of_read (by rw [role]; decide) (by rw [role]; decide) fun ran => by
      obtain ⟨_, width, _, _, known, -⟩ := (takeIn_ranges role).1 ran
      exact ⟨width, known⟩]
    simp only [role, takeIn_ranges role, Option.map_eq_some_iff, Option.bind_eq_some_iff]
    constructor
    · rintro ⟨_, ⟨n, width, slot, pairs, known, read, there, found, rfl⟩, rfl⟩
      exact ⟨_, _, width, ⟨pairs, ⟨n, read, slot, there, found⟩, rfl⟩, rfl, known, rfl⟩
    · rintro ⟨_, ranges, width, ⟨pairs, ⟨n, read, slot, there, found⟩, rfl⟩, taken, known, rfl⟩
      cases taken
      exact ⟨_, ⟨n, width, slot, pairs, known, read, there, found, rfl⟩, rfl⟩

/-! ### Attributes that say nothing of the code -/

theorem mark?_eq_none (other : ¬ Attribute.MarksCode attr) (pos : Int) :
    src.mark? attr form pos = none := by
  unfold Source.mark?
  unfold Attribute.MarksCode at other
  cases role : Attribute.role attr with
  | lowPc => exact absurd (.inl role) other
  | highPc => exact absurd (.inr (.inl role)) other
  | ranges => exact absurd (.inr (.inr role)) other
  | name | reference | absent | other => rfl

theorem marksCode_of_mark? {pos : Int} {m : RangeMark} (read : src.mark? attr form pos = some m) :
    Attribute.MarksCode attr := by
  by_contra other
  rw [mark?_eq_none other] at read
  cases read

/-- A number can be read only in a form that has a width. -/
theorem exists_width_of_mark? {pos : Int} {m : RangeMark}
    (read : src.mark? attr form pos = some m) : ∃ width, Dwarf.Form.width? form = some width := by
  cases known : Dwarf.Form.width? form with
  | some width => exact ⟨width, rfl⟩
  | none =>
    have unread : src.number? form pos = none := by
      unfold Source.number?
      rw [known]
      rfl
    unfold Source.mark? at read
    rw [unread] at read
    split at read <;> cases read

/-- An attribute that says nothing of the code leaves the ranges alone. -/
theorem ranges_decode (other : ¬ Attribute.MarksCode attr)
    (run : decode src subject attr form w = .ok () w') : w'.about.ranges = w.about.ranges := by
  have kept : Changes (Order.Preimage Description.ranges Eq) (decode src subject attr form) w := by
    unfold decode
    split
    · exact refl _
    · refine .bind ?_ fun _ between _ => (stepOver_silent src attr form between).of_eq
      unfold Attribute.MarksCode at other
      unfold takeIn
      split
      · split
        · exact refl _
        · exact .bind (Changes.within (value_silent ..)).of_eq fun _ _ _ =>
            .bind (Changes.within (.ofExcept _)) fun _ _ _ => .describing rfl
      · next role => exact absurd (.inl role) other
      · next role => exact absurd (.inr (.inl role)) other
      · next role => exact absurd (.inr (.inr role)) other
      · split
        · exact refl _
        · exact .bind (Changes.within (value_silent ..)).of_eq fun _ _ _ => .describing rfl
      · exact refl _
      · exact refl _
  unfold Changes at kept
  rw [run] at kept
  exact kept.symm

end Decode

end DebugScopes

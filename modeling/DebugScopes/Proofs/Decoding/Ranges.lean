import DebugScopes.Proofs.Decoding.RangeMarks

/-!
# The ranges of an entry

What an entry's attributes say of its code comes one after the other: a range starts, it ends, a
list of pairs stands in between. While the attributes are decoded, the first range that is open is
looked for, ended in place, and left out in the end if nothing has ended it. Since no more than one
is open at a time, the outcome is the ranges that `RangeMark.closed` reads off the marks.

* `RangeMark.map_resumed_added`: what one more mark adds to the ranges;
* `Decode.ranges_decodeAll`: the ranges behind a row of attributes, from any ranges on;
* `Decode.ranges_eq` and `Decode.settled_eq`: the ranges of an entry, before and after the one is
  left out that nothing has ended;
* `RangeMark.exists_inverted_iff`: which marks make a range that ends before it starts.
-/

namespace DebugScopes

/-- A range ends before it starts. -/
def CodeRange.Inverted (r : CodeRange) : Prop := ∃ high, r.high = some high ∧ high < r.low

/-! ### Rows of ranges with at most one that is open -/

section Open

variable {ranges : List CodeRange} {f : CodeRange → CodeRange}

/-- What leaves closed ranges alone changes nothing where none is open. -/
theorem map_eq_self_of_closed (keeps : ∀ r, r.isOpen = false → f r = r)
    (closed : ranges.countP (·.isOpen) = 0) : ranges.map f = ranges := by
  have same : ranges.map f = ranges.map id :=
    List.map_congr_left fun r mem => keeps r (by simpa using List.countP_eq_zero.1 closed r mem)
  rw [same, List.map_id]

/-- What ends the pending range, and leaves closed ranges alone, ends the first that is open. -/
theorem Decode.closeFirst_eq_map {r : CodeRange} {high : Int}
    (keeps : ∀ r, r.isOpen = false → f r = r) (one : ranges.countP (·.isOpen) ≤ 1)
    (pending : ranges.find? (·.isOpen) = some r) (ends : f r = { r with high := some high }) :
    closeFirst high ranges = ranges.map f := by
  induction ranges with
  | nil => cases pending
  | cons first rest ih =>
    by_cases isOpen : first.isOpen
    · rw [List.find?_cons_of_pos isOpen] at pending
      cases pending
      have closed : rest.countP (·.isOpen) = 0 := by
        rw [List.countP_cons_of_pos isOpen] at one
        exact Nat.le_zero.1 (Nat.le_of_succ_le_succ one)
      rw [closeFirst, if_pos isOpen, List.map_cons, ends, map_eq_self_of_closed keeps closed]
    · rw [List.find?_cons_of_neg isOpen] at pending
      rw [List.countP_cons_of_neg isOpen] at one
      rw [closeFirst, if_neg isOpen, List.map_cons, keeps first (by simpa using isOpen),
        ih one pending]

/-- Leaving out the first range that is open leaves out all that are. -/
theorem eraseP_isOpen (one : ranges.countP (·.isOpen) ≤ 1) :
    ranges.eraseP (·.isOpen) = ranges.filter (!·.isOpen) := by
  induction ranges with
  | nil => rfl
  | cons r rest ih =>
    by_cases isOpen : r.isOpen
    · have closed : rest.countP (·.isOpen) = 0 := by
        rw [List.countP_cons_of_pos isOpen] at one
        exact Nat.le_zero.1 (Nat.le_of_succ_le_succ one)
      have kept : rest.filter (!·.isOpen) = rest :=
        List.filter_eq_self.2 fun r mem => by simpa using List.countP_eq_zero.1 closed r mem
      rw [List.eraseP_cons_of_pos isOpen, List.filter_cons_of_neg (by simpa using isOpen), kept]
    · rw [List.countP_cons_of_neg isOpen] at one
      rw [List.eraseP_cons_of_neg isOpen, List.filter_cons_of_pos (by simpa using isOpen), ih one]

end Open

/-! ### One more mark -/

namespace RangeMark

variable {base : Int} {m : RangeMark} {marks rest : List RangeMark} {d : Description}
  {r : CodeRange}

/-- A range in front of marks: if it is open, they may end it. -/
def resumed (marks : List RangeMark) (r : CodeRange) : CodeRange :=
  if r.isOpen then ⟨r.low, end? r.low marks⟩ else r

theorem resumed_of_closed (marks : List RangeMark) (r : CodeRange) (closed : r.isOpen = false) :
    resumed marks r = r := by
  rw [resumed, closed]
  rfl

theorem resumed_nil (r : CodeRange) : resumed [] r = r := by
  obtain ⟨low, high⟩ := r
  cases high <;> rfl

theorem isOpen_of_pending? (pending : d.pending? = some r) : r.isOpen := List.find?_some pending

/-- A high bound ends the range that is open before it. -/
theorem resumed_high {form : Int} {n : Nat} (isOpen : r.isOpen) :
    resumed (high form n :: rest) r = { r with high := some (bound r.low form n) } :=
  if_pos isOpen

theorem countP_resumed_high (form : Int) (n : Nat) (rest : List RangeMark)
    (ranges : List CodeRange) :
    (ranges.map (resumed (high form n :: rest))).countP (·.isOpen) = 0 := by
  refine List.countP_eq_zero.2 fun r mem => ?_
  obtain ⟨⟨low, high⟩, -, rfl⟩ := List.mem_map.1 mem
  cases high <;> exact Bool.false_ne_true

theorem countP_shifted (base : Int) (pairs : List (Nat × Nat)) :
    (pairs.map (shifted base)).countP (·.isOpen) = 0 := by
  refine List.countP_eq_zero.2 fun r mem => ?_
  obtain ⟨pair, -, rfl⟩ := List.mem_map.1 mem
  exact Bool.false_ne_true

/-- The ranges behind a mark go on into the remaining ones as those before it do into all. -/
theorem map_resumed_added {ranges : List CodeRange} (one : d.openCount ≤ 1)
    (taken : m.added base d = some ranges) (rest : List RangeMark) :
    ranges.map (resumed rest) ++ RangeMark.ranges base rest =
      d.ranges.map (resumed (m :: rest)) ++ RangeMark.ranges base (m :: rest) := by
  cases m with
  | low n =>
    cases pending : d.pending? with
    | some r =>
      rw [added, pending] at taken
      cases taken
    | none =>
      rw [added, pending] at taken
      cases taken
      have closed : d.ranges.countP (·.isOpen) = 0 := pending?_eq_none.1 pending
      rw [List.map_append, map_eq_self_of_closed (resumed_of_closed _) closed,
        map_eq_self_of_closed (resumed_of_closed _) closed, List.append_assoc]
      rfl
  | high form n =>
    obtain ⟨r, pending, rfl⟩ := Option.map_eq_some_iff.1 taken
    have ended := Decode.closeFirst_eq_map (resumed_of_closed (high form n :: rest)) one pending
      (resumed_high (isOpen_of_pending? pending))
    rw [ended, map_eq_self_of_closed (resumed_of_closed _) (countP_resumed_high ..)]
    rfl
  | list pairs =>
    cases taken
    rw [List.map_append, map_eq_self_of_closed (resumed_of_closed _) (countP_shifted base pairs),
      List.append_assoc]
    rfl

/-! ### Ranges that nothing ends -/

/-- Without the range that nothing ends, the ranges are the closed ones. -/
theorem filter_ranges (base : Int) (marks : List RangeMark) :
    (ranges base marks).filter (!·.isOpen) = closed base marks := by
  induction marks with
  | nil => rfl
  | cons m rest ih =>
    cases m with
    | low n =>
      rw [ranges, closed]
      cases end? n rest with
      | none => exact ih
      | some high => exact congrArg (_ :: ·) ih
    | high form n => exact ih
    | list pairs =>
      have kept : (pairs.map (shifted base)).filter (!·.isOpen) = pairs.map (shifted base) := by
        refine List.filter_eq_self.2 fun r mem => ?_
        obtain ⟨pair, -, rfl⟩ := List.mem_map.1 mem
        rfl
      rw [ranges, closed, List.filter_append, kept, ih]

theorem isOpen_closed {r : CodeRange} (mem : r ∈ closed base marks) : r.isOpen = false := by
  rw [← filter_ranges] at mem
  simpa using (List.mem_filter.1 mem).2

/-! ### Ranges that end before they start -/

/-- Marks that make a range which ends before it starts: an address below the low bound that it
ends, or a pair whose second number is the smaller one. -/
inductive Inverts : List RangeMark → Prop
  | bound {start n : Nat} {marks : List RangeMark}
      (ends : ending? marks = some (Dwarf.Form.address, n)) (below : n < start) :
      Inverts (low start :: marks)
  | pair {pairs : List (Nat × Nat)} {marks : List RangeMark} {pair : Nat × Nat}
      (mem : pair ∈ pairs) (below : pair.2 < pair.1) : Inverts (list pairs :: marks)
  | later {m : RangeMark} {marks : List RangeMark} (rest : Inverts marks) : Inverts (m :: marks)

theorem inverted_shifted {pair : Nat × Nat} :
    (shifted base pair).Inverted ↔ pair.2 < pair.1 := by
  constructor
  · rintro ⟨_, same, below⟩
    cases same
    have : (pair.2 : Int) + base < pair.1 + base := below
    omega
  · intro below
    refine ⟨_, rfl, ?_⟩
    show (pair.2 : Int) + base < pair.1 + base
    omega

/-- Only an address can be an end below the start: any other number counts from the start. -/
theorem bound_lt {start n : Nat} {form : Int} :
    bound start form n < start ↔ form = Dwarf.Form.address ∧ n < start := by
  unfold bound
  by_cases isAddress : form = Dwarf.Form.address
  · rw [if_pos isAddress]
    simp [isAddress]
  · rw [if_neg isAddress]
    simp [isAddress]

theorem inverts_low {start : Nat} :
    Inverts (low start :: marks) ↔
      (∃ n, ending? marks = some (Dwarf.Form.address, n) ∧ n < start) ∨ Inverts marks := by
  constructor
  · intro inverts
    cases inverts with
    | bound ends below => exact .inl ⟨_, ends, below⟩
    | later rest => exact .inr rest
  · rintro (⟨n, ends, below⟩ | rest)
    · exact .bound ends below
    · exact .later rest

theorem inverts_high {form : Int} {n : Nat} : Inverts (high form n :: marks) ↔ Inverts marks := by
  refine ⟨fun inverts => ?_, .later⟩
  cases inverts with
  | later rest => exact rest

theorem inverts_list {pairs : List (Nat × Nat)} :
    Inverts (list pairs :: marks) ↔ (∃ pair ∈ pairs, pair.2 < pair.1) ∨ Inverts marks := by
  constructor
  · intro inverts
    cases inverts with
    | pair mem below => exact .inl ⟨_, mem, below⟩
    | later rest => exact .inr rest
  · rintro (⟨pair, mem, below⟩ | rest)
    · exact .pair mem below
    · exact .later rest

/-- The range that a low bound starts ends before it starts exactly if an address below it ends
it. -/
theorem exists_inverted_low {start : Nat} :
    (∃ high, end? start marks = some high ∧ high < start) ↔
      ∃ n, ending? marks = some (Dwarf.Form.address, n) ∧ n < start := by
  constructor
  · rintro ⟨high, ended, below⟩
    obtain ⟨⟨form, n⟩, ends, rfl⟩ := Option.map_eq_some_iff.1 ended
    obtain ⟨isAddress, lower⟩ := bound_lt.1 below
    exact ⟨n, ends.trans (by rw [isAddress]), lower⟩
  · rintro ⟨n, ends, below⟩
    exact ⟨_, by rw [end?, ends, Option.map_some], bound_lt.2 ⟨rfl, below⟩⟩

theorem exists_inverted_append {front back : List CodeRange} :
    (∃ r ∈ front ++ back, r.Inverted) ↔ (∃ r ∈ front, r.Inverted) ∨ ∃ r ∈ back, r.Inverted := by
  simp only [List.mem_append, or_and_right, exists_or]

/-- Whatever the base, the closed ranges have one that ends before it starts exactly if the marks
make one. -/
theorem exists_inverted_iff (base : Int) (marks : List RangeMark) :
    (∃ r ∈ closed base marks, r.Inverted) ↔ Inverts marks := by
  induction marks with
  | nil => exact iff_of_false (fun ⟨_, mem, _⟩ => nomatch mem) nofun
  | cons m rest ih =>
    cases m with
    | low start =>
      rw [closed, exists_inverted_append, ih, inverts_low, ← exists_inverted_low]
      refine or_congr_left ?_
      cases end? start rest with
      | none => simp
      | some high => simp [CodeRange.Inverted]
    | high form n => rw [closed, ih, inverts_high]
    | list pairs =>
      rw [closed, exists_inverted_append, ih, inverts_list]
      refine or_congr_left ?_
      constructor
      · rintro ⟨_, mem, below⟩
        obtain ⟨pair, listed, rfl⟩ := List.mem_map.1 mem
        exact ⟨pair, listed, inverted_shifted.1 below⟩
      · rintro ⟨pair, listed, below⟩
        exact ⟨_, List.mem_map_of_mem listed, inverted_shifted.2 below⟩

end RangeMark

/-! ### The ranges behind attributes -/

namespace Decode

variable {src : Source} {subject : Subject} {attributes : List (Nat × Nat)} {w w' : Work}

theorem openCount_decode {attr form : Int} (one : w.about.openCount ≤ 1)
    (run : decode src subject attr form w = .ok () w') : w'.about.openCount ≤ 1 := by
  have told := decode_told src subject attr form w
  unfold Changes at told
  rw [run] at told
  exact Told.openCount_le told one

theorem marks_cons_of_ok {attr form : Nat} {rest : List (Nat × Nat)}
    (run : decode src subject attr form w = .ok () w') :
    marks src subject ((attr, form) :: rest) w =
      (src.mark? attr form w.pos).toList ++ marks src subject rest w' := by
  rw [marks, run]

/-- The ranges behind attributes: those from before, of which one may be ended now, and those that
the attributes tell of. -/
theorem ranges_decodeAll (one : w.about.openCount ≤ 1)
    (run : decodeAll src subject attributes w = .ok () w') :
    w'.about.ranges = w.about.ranges.map (RangeMark.resumed (marks src subject attributes w)) ++
      RangeMark.ranges subject.base (marks src subject attributes w) := by
  induction attributes generalizing w with
  | nil =>
    cases run
    rw [marks, show RangeMark.resumed [] = id from funext RangeMark.resumed_nil, List.map_id,
      RangeMark.ranges, List.append_nil]
  | cons first rest ih =>
    obtain ⟨attr, form⟩ := first
    obtain ⟨_, between, ran, run⟩ := bind_eq_ok.1 run
    have behind := ih (openCount_decode one ran) run
    rw [marks_cons_of_ok ran, behind]
    by_cases marksCode : Dwarf.Attribute.MarksCode attr
    · obtain ⟨m, ranges, width, read, taken, -, rfl⟩ := (decode_eq_ok_of_marksCode marksCode).1 ran
      rw [read]
      exact RangeMark.map_resumed_added one taken _
    · rw [mark?_eq_none marksCode, ranges_decode marksCode ran]
      rfl

variable {pos slot tag : Int}

/-- The ranges that attributes tell of from the start, with one that nothing has ended. -/
theorem ranges_eq (run : decodeAll src subject attributes ⟨pos, slot, .tagged tag⟩ = .ok () w') :
    w'.about.ranges =
      RangeMark.ranges subject.base (marks src subject attributes ⟨pos, slot, .tagged tag⟩) :=
  ranges_decodeAll (w := ⟨pos, slot, .tagged tag⟩) (Nat.zero_le 1) run

/-- The ranges that an entry is left with. -/
theorem settled_eq (run : decodeAll src subject attributes ⟨pos, slot, .tagged tag⟩ = .ok () w') :
    w'.about.settled.ranges =
      RangeMark.closed subject.base (marks src subject attributes ⟨pos, slot, .tagged tag⟩) := by
  have one : w'.about.openCount ≤ 1 := by
    have counted := decodeAll_openCount src subject attributes (w := ⟨pos, slot, .tagged tag⟩)
      (Nat.zero_le 1)
    rw [run] at counted
    exact counted
  show w'.about.ranges.eraseP (·.isOpen) = _
  rw [eraseP_isOpen one, ranges_eq run, RangeMark.filter_ranges]

end Decode

end DebugScopes

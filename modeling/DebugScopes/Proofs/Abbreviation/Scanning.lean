import DebugScopes.Abbreviation.Reader
import DebugScopes.Proofs.Abbreviation.Keeping
import DebugScopes.Proofs.Bytes.Spelling

/-!
# What the scan of a table accepts

The scan does not know what a declaration says. To it a declaration is a code that is not zero, two
bytes of any value, and the shortest bytes behind them that end in two zeros; a table is a row of
declarations with a zero behind it. It accepts what begins with a table, and nothing else: where no
table begins, it runs to the end of the usable data and fails there.

* `Extent`, `tableText`: the grammar;
* `tableText_unique`: bytes begin with one table at most;
* `Index.Lists`: what an index says that lists the declarations of a table;
* `Index.scanHere_cases`: every scan lists the table that it stands in front of, or runs past the
  end.
-/

namespace DebugScopes

namespace Abbreviation

/-! ### The grammar -/

/-- A declaration as the scan sees it: a code that is not zero, two bytes of any value, and the
shortest bytes behind them that end in two zeros. -/
@[ext]
structure Extent where
  code : UInt8
  tag : UInt8
  children : UInt8
  body : List UInt8
  code_ne : code ≠ 0
  closed : [0, 0] <:+ body
  shortest : ∀ front, front <+: body → [0, 0] <:+ front → front = body

/-- The bytes of a declaration. -/
def Extent.bytes (e : Extent) : List UInt8 := e.code :: e.tag :: e.children :: e.body

/-- The bytes of a table. -/
def tableText (rows : List Extent) : List UInt8 := rows.flatMap Extent.bytes ++ [0]

theorem tableText_cons (e : Extent) (rest : List Extent) :
    tableText (e :: rest) = e.bytes ++ tableText rest := by
  rw [tableText, List.flatMap_cons, List.append_assoc]
  rfl

theorem Extent.length_bytes (e : Extent) : e.bytes.length = 3 + e.body.length := by
  rw [bytes, List.length_cons, List.length_cons, List.length_cons]
  omega

/-- What a declaration says of where the next one starts is the same in whatever stands behind. -/
theorem Extent.eq_of_append_eq {e e' : Extent} {back back' : List UInt8}
    (same : e.bytes ++ back = e'.bytes ++ back') : e = e' ∧ back = back' := by
  obtain ⟨codes, same⟩ := List.cons.inj same
  obtain ⟨tags, same⟩ := List.cons.inj same
  obtain ⟨children, same⟩ := List.cons.inj same
  have same : e.body ++ back = e'.body ++ back' := same
  have bodies : e.body = e'.body := by
    rcases List.prefix_or_prefix_of_prefix (List.prefix_append e.body back)
      (same ▸ List.prefix_append e'.body back') with shorter | longer
    · exact e'.shortest e.body shorter e.closed
    · exact (e.shortest e'.body longer e'.closed).symm
  exact ⟨Extent.ext codes tags children bodies, List.append_cancel_left (bodies ▸ same)⟩

/-- Bytes begin with one table at most. -/
theorem tableText_unique {rows rows' : List Extent} {text : List UInt8}
    (one : tableText rows <+: text) (other : tableText rows' <+: text) : rows = rows' := by
  induction rows generalizing rows' text with
  | nil =>
    cases rows' with
    | nil => rfl
    | cons e rest =>
      obtain ⟨back, rfl⟩ := one
      exact absurd (List.cons_prefix_cons.1 other).1 e.code_ne
  | cons e rest ih =>
    cases rows' with
    | nil =>
      obtain ⟨back, rfl⟩ := one
      exact absurd (List.cons_prefix_cons.1 other).1.symm e.code_ne
    | cons e' rest' =>
      rw [tableText_cons] at one other
      obtain ⟨back, rfl⟩ := one
      obtain ⟨back', same⟩ := other
      rw [List.append_assoc, List.append_assoc] at same
      obtain ⟨rfl, behind⟩ := Extent.eq_of_append_eq same
      rw [ih ⟨back, rfl⟩ ⟨back', behind⟩]

/-! ### Where a body ends -/

/-- What the scan still has to see of two zeros: a zero may have come just before. -/
def lead (afterZero : Bool) : List UInt8 := if afterZero then [0] else []

theorem not_closed_lead (afterZero : Bool) : ¬ [0, 0] <:+ lead afterZero := by
  cases afterZero <;> decide

/-- Another byte than a zero starts the look for two zeros anew. -/
theorem closed_behind {b : UInt8} {front back : List UInt8} (other : b ≠ 0)
    (closed : [0, 0] <:+ front ++ b :: back) : [0, 0] <:+ back := by
  rcases List.suffix_or_suffix_of_suffix closed (List.suffix_append front (b :: back)) with
    inside | reaching
  · rcases List.suffix_cons_iff.1 inside with same | behind
    · exact absurd (List.cons.inj same).1.symm other
    · exact behind
  · have zeros := reaching.subset List.mem_cons_self
    simp only [List.mem_cons, List.not_mem_nil, or_false, or_self] at zeros
    exact absurd zeros other

/-- Bytes that the scan passes over up to the next two zeros. -/
inductive Closing : Bool → List UInt8 → Prop
  | close : Closing true [0]
  | zero {back} : Closing true back → Closing false (0 :: back)
  | other {afterZero b back} : b ≠ 0 → Closing false back → Closing afterZero (b :: back)

theorem Closing.closed {afterZero : Bool} {body : List UInt8} (closing : Closing afterZero body) :
    [0, 0] <:+ lead afterZero ++ body := by
  induction closing with
  | close => exact List.suffix_refl _
  | zero _ ih => exact ih
  | @other afterZero b back _ _ ih =>
    exact ih.trans ((List.suffix_cons b back).trans (List.suffix_append _ _))

theorem Closing.shortest {afterZero : Bool} {body front : List UInt8}
    (closing : Closing afterZero body) (short : front <+: body)
    (closed : [0, 0] <:+ lead afterZero ++ front) : front = body := by
  induction closing generalizing front with
  | close =>
    cases front with
    | nil => exact absurd closed (not_closed_lead true)
    | cons b front =>
      obtain ⟨rfl, empty⟩ := List.cons_prefix_cons.1 short
      rw [List.prefix_nil.1 empty]
  | zero _ ih =>
    cases front with
    | nil => exact absurd closed (not_closed_lead false)
    | cons b front =>
      obtain ⟨rfl, inner⟩ := List.cons_prefix_cons.1 short
      rw [ih inner closed]
  | @other afterZero b back nonzero _ ih =>
    cases front with
    | nil => exact absurd closed (List.append_nil _ ▸ not_closed_lead afterZero)
    | cons b' front =>
      obtain ⟨rfl, inner⟩ := List.cons_prefix_cons.1 short
      rw [ih inner (closed_behind nonzero closed)]

/-- The scan passes over the shortest bytes that end in two zeros. -/
theorem closing_of_shortest {afterZero : Bool} {body : List UInt8}
    (closed : [0, 0] <:+ lead afterZero ++ body)
    (shortest : ∀ front, front <+: body → [0, 0] <:+ lead afterZero ++ front → front = body) :
    Closing afterZero body := by
  induction body generalizing afterZero with
  | nil => exact absurd closed (List.append_nil _ ▸ not_closed_lead afterZero)
  | cons b back ih =>
    have longer {front : List UInt8} (short : front <+: back)
        (closed : [0, 0] <:+ lead afterZero ++ b :: front) : front = back :=
      (List.cons.inj (shortest (b :: front) (List.cons_prefix_cons.2 ⟨rfl, short⟩) closed)).2
    by_cases zero : b = 0
    · subst zero
      cases afterZero with
      | true =>
        rw [← longer List.nil_prefix (List.suffix_refl _)]
        exact .close
      | false => exact .zero (ih closed fun front short closed => longer short closed)
    · refine .other zero (ih (closed_behind zero closed) fun front short closed => ?_)
      exact longer short (closed.trans ((List.suffix_cons b front).trans (List.suffix_append _ _)))

theorem Extent.closing (e : Extent) : Closing false e.body :=
  closing_of_shortest e.closed e.shortest

/-! ### The rows of a table -/

/-- The abbreviations of declarations that follow each other from a position on. -/
def recorded (start : Nat) : List Extent → List Abbreviation
  | [] => []
  | e :: rest => ⟨e.code.toNat, start, none⟩ :: recorded (start + e.bytes.length) rest

/-- The abbreviations of a table whose code stands in front of them. -/
def repeated (table : List Abbreviation) : List Abbreviation :=
  (table.zipIdx.filter fun (a, i) => (table.take i).any (·.code == a.code)).map Prod.fst

/-- An index lists declarations that follow each other from a position on: it records where each of
them starts and where the table ends, finds the first of each code, and knows which codes had been
declared before. -/
structure Index.Lists (index : Index) (start : Nat) (rows : List Extent) : Prop where
  table : index.table.toList = recorded start rows
  stop : index.stop = ((start + (tableText rows).length : Nat) : Int)
  lookup : ∀ code, (index.lookup code).map (fun place => index.table[place.val]?) =
    match (recorded start rows).find? fun a => (a.code : Int) == code with
    | some a => .ok (some a)
    | none => .error (.noAbbreviation code)
  duplicates : index.duplicates = repeated (recorded start rows)

end Abbreviation

namespace Abbreviation.Index

variable {s : Segment} {start : Nat} {afterZero : Bool} {pos after : Int} {e : Failure}

/-! ### One declaration -/

theorem skipBody_eq (s : Segment) (afterZero : Bool) (pos : Int) :
    skipBody s afterZero pos =
      match within .tableBody s.byte pos with
      | .error e after => .error e after
      | .ok b after => if b = 0 ∧ afterZero then .ok () after else skipBody s (b == 0) after := by
  rw [skipBody]
  split
  · next failed => rw [failed]
  · next read => rw [read]

theorem skipBody_of_byte {b : Nat} (read : s.byte pos = .ok b after) :
    skipBody s afterZero pos =
      if b = 0 ∧ afterZero then .ok () after else skipBody s (b == 0) after := by
  rw [skipBody_eq, within_eq_ok.2 read]

/-- Bytes up to two zeros are passed over. -/
theorem skipBody_of_holds {body : List UInt8} (closing : Closing afterZero body)
    (held : s.Holds start body) :
    skipBody s afterZero start = .ok () ((start + body.length : Nat) : Int) := by
  induction closing generalizing start with
  | close =>
    rw [skipBody_of_byte held.byte]
    exact if_pos ⟨rfl, rfl⟩
  | @zero back _ ih =>
    rw [skipBody_of_byte held.byte, if_neg (by decide)]
    show skipBody s true _ = _
    rw [ih held.tail, List.length_cons, Nat.add_assoc, Nat.add_comm 1]
  | @other afterZero b back nonzero _ ih =>
    have other : b.toNat ≠ 0 := fun zero => nonzero (UInt8.toNat_inj.1 zero)
    rw [skipBody_of_byte held.byte, if_neg fun zero => other zero.1, beq_eq_false_iff_ne.2 other,
      ih held.tail, List.length_cons, Nat.add_assoc, Nat.add_comm 1]

/-- What is passed over are bytes up to two zeros. -/
theorem exists_closing (read : skipBody s afterZero start = .ok () after) :
    ∃ body, Closing afterZero body ∧ s.Holds start body := by
  generalize at_start : (start : Int) = pos at read
  fun_induction skipBody s afterZero pos generalizing start with
  | case1 => cases read
  | case2 afterZero pos b between found closed =>
    subst at_start
    obtain ⟨x, rfl, held, -⟩ := Segment.exists_holds_of_byte (within_eq_ok.1 found)
    obtain rfl : x = 0 := UInt8.toNat_inj.1 closed.1
    rw [closed.2]
    exact ⟨[0], .close, held⟩
  | case3 afterZero pos b between found open_ ih =>
    subst at_start
    obtain ⟨x, rfl, held, rfl⟩ := Segment.exists_holds_of_byte (within_eq_ok.1 found)
    obtain ⟨back, closing, behind⟩ := ih rfl read
    refine ⟨x :: back, ?_, Segment.holds_append.2 ⟨held, behind⟩⟩
    by_cases zero : x = 0
    · subst zero
      cases afterZero with
      | true => exact absurd ⟨rfl, rfl⟩ open_
      | false => exact .zero closing
    · have other : x.toNat ≠ 0 := fun same => zero (UInt8.toNat_inj.1 same)
      rw [beq_eq_false_iff_ne.2 other] at closing
      exact .other zero closing

theorem overrun_of_skipBody (usable : s.length ≤ s.data.size) (positive : 0 ≤ pos)
    (failed : skipBody s afterZero pos = .error e after) : s.Overrun pos e := by
  fun_induction skipBody s afterZero pos generalizing e after with
  | case1 afterZero pos e' between ran =>
    cases failed
    obtain ⟨e', ran, same⟩ := within_eq_error ran
    exact (Segment.overrun_of_byte usable positive ran).within same
  | case2 => cases failed
  | case3 afterZero pos b between found open_ ih =>
    have moved := Segment.byte_ok (within_eq_ok.1 found)
    exact (ih (by omega) failed).earlier (by omega) (by omega)

/-- A declaration is scanned, and the position is behind it. -/
theorem scanOne_of_holds (e : Extent) (held : s.Holds start e.bytes) :
    scanOne s start = .ok e.code.toNat ((start + e.bytes.length : Nat) : Int) := by
  have code_ne : e.code.toNat ≠ 0 := fun zero => e.code_ne (UInt8.toNat_inj.1 zero)
  have body := skipBody_of_holds e.closing held.tail.tail.tail
  unfold scanOne
  rw [bind_of_ok (within_eq_ok.2 held.byte), if_neg code_ne, bind_of_ok held.tail.byte,
    bind_of_ok held.tail.tail.byte, bind_of_ok body, e.length_bytes, ← Nat.add_assoc]
  rfl

/-- A zero ends the table. -/
theorem scanOne_of_zero (held : s.Holds start [0]) :
    scanOne s start = .ok 0 ((start + 1 : Nat) : Int) := by
  unfold scanOne
  rw [bind_of_ok (within_eq_ok.2 held.byte)]
  rfl

/-- What is scanned is a declaration or the end of the table. -/
theorem exists_extent {code : Nat} (scanned : scanOne s start = .ok code after) :
    (code = 0 ∧ s.Holds start [0] ∧ after = ((start + 1 : Nat) : Int)) ∨
      ∃ e : Extent, e.code.toNat = code ∧ s.Holds start e.bytes ∧
        after = ((start + e.bytes.length : Nat) : Int) := by
  have ran := scanned
  unfold scanOne at scanned
  obtain ⟨found, between, first, scanned⟩ := bind_eq_ok.1 scanned
  obtain ⟨c, rfl, held, rfl⟩ := Segment.exists_holds_of_byte (within_eq_ok.1 first)
  by_cases zero : c.toNat = 0
  · rw [if_pos zero] at scanned
    cases scanned
    obtain rfl : c = 0 := UInt8.toNat_inj.1 zero
    exact .inl ⟨rfl, held, rfl⟩
  · rw [if_neg zero] at scanned
    obtain ⟨_, _, second, scanned⟩ := bind_eq_ok.1 scanned
    obtain ⟨tag, -, held', rfl⟩ := Segment.exists_holds_of_byte second
    obtain ⟨_, _, third, scanned⟩ := bind_eq_ok.1 scanned
    obtain ⟨children, -, held'', rfl⟩ := Segment.exists_holds_of_byte third
    obtain ⟨_, _, rest, scanned⟩ := bind_eq_ok.1 scanned
    obtain ⟨body, closing, behind⟩ := exists_closing rest
    cases scanned
    let extent : Extent := ⟨c, tag, children, body, fun same => zero (by rw [same]; rfl),
      closing.closed, fun front short closed => closing.shortest short closed⟩
    have whole : s.Holds start extent.bytes :=
      Segment.holds_append.2 ⟨held, Segment.holds_append.2 ⟨held', Segment.holds_append.2
        ⟨held'', behind⟩⟩⟩
    rw [scanOne_of_holds extent whole] at ran
    cases ran
    exact .inr ⟨extent, rfl, whole, rfl⟩

theorem overrun_of_scanOne (usable : s.length ≤ s.data.size) (positive : 0 ≤ pos)
    (failed : scanOne s pos = .error e after) : s.Overrun pos e := by
  unfold scanOne at failed
  rcases bind_eq_error failed with first | ⟨code, _, found, failed⟩
  · obtain ⟨e', first, same⟩ := within_eq_error first
    exact (Segment.overrun_of_byte usable positive first).within same
  have moved := Segment.byte_ok (within_eq_ok.1 found)
  by_cases zero : code = 0
  · rw [if_pos zero] at failed
    cases failed
  rw [if_neg zero] at failed
  rcases bind_eq_error failed with second | ⟨_, _, found, failed⟩
  · exact (Segment.overrun_of_byte usable (by omega) second).earlier (by omega) (by omega)
  have moved' := Segment.byte_ok found
  rcases bind_eq_error failed with third | ⟨_, _, found, failed⟩
  · exact (Segment.overrun_of_byte usable (by omega) third).earlier (by omega) (by omega)
  have moved'' := Segment.byte_ok found
  rcases bind_eq_error failed with body | ⟨_, _, _, failed⟩
  · exact (overrun_of_skipBody usable (by omega) body).earlier (by omega) (by omega)
  cases failed

/-! ### All declarations -/

theorem scanFrom_eq (s : Segment) (pos : Int) :
    scanFrom s pos =
      match scanOne s pos with
      | .error e after => .error e after
      | .ok code after =>
        if code = 0 then .ok [] after
        else
          match scanFrom s after with
          | .error e after => .error e after
          | .ok rest after => .ok (⟨code, pos, none⟩ :: rest) after := by
  rw [scanFrom]
  split
  · next failed => rw [failed]
  · next read => exact read.symm ▸ rfl

/-- The declarations of a table are scanned, and the position is behind the table. -/
theorem scanFrom_of_holds {rows : List Extent} (held : s.Holds start (tableText rows)) :
    scanFrom s start = .ok (recorded start rows) ((start + (tableText rows).length : Nat) : Int) := by
  induction rows generalizing start with
  | nil =>
    rw [scanFrom_eq, scanOne_of_zero held]
    rfl
  | cons e rest ih =>
    have code_ne : e.code.toNat ≠ 0 := fun zero => e.code_ne (UInt8.toNat_inj.1 zero)
    rw [tableText_cons] at held ⊢
    obtain ⟨first, others⟩ := Segment.holds_append.1 held
    rw [scanFrom_eq, scanOne_of_holds e first]
    show (if e.code.toNat = 0 then _ else _) = _
    rw [if_neg code_ne, ih others, List.length_append, ← Nat.add_assoc]
    rfl

/-- What is scanned is a table. -/
theorem exists_rows {table : List Abbreviation} (scanned : scanFrom s start = .ok table after) :
    ∃ rows, s.Holds start (tableText rows) := by
  generalize at_start : (start : Int) = pos at scanned
  fun_induction scanFrom s pos generalizing start table after with
  | case1 => cases scanned
  | case2 pos between ran =>
    subst at_start
    rcases exists_extent ran with ⟨-, held, -⟩ | ⟨e, zero, -, -⟩
    · exact ⟨[], held⟩
    · exact absurd (UInt8.toNat_inj.1 zero) e.code_ne
  | case3 => cases scanned
  | case4 pos code between ran code_ne rest last found ih =>
    subst at_start
    rcases exists_extent ran with ⟨zero, -, -⟩ | ⟨e, -, held, rfl⟩
    · exact absurd zero code_ne
    · obtain ⟨rows, others⟩ := ih rfl found
      refine ⟨e :: rows, ?_⟩
      rw [tableText_cons]
      exact Segment.holds_append.2 ⟨held, others⟩

theorem overrun_of_scanFrom (usable : s.length ≤ s.data.size)
    (failed : scanFrom s start = .error e after) : s.Overrun start e := by
  generalize at_start : (start : Int) = pos at failed ⊢
  fun_induction scanFrom s pos generalizing start e after with
  | case1 pos e' between ran =>
    subst at_start
    cases failed
    exact overrun_of_scanOne usable (Int.natCast_nonneg start) ran
  | case2 => cases failed
  | case3 pos code between ran code_ne e' last rest ih =>
    subst at_start
    cases failed
    rcases exists_extent ran with ⟨zero, -, -⟩ | ⟨extent, -, held, rfl⟩
    · exact absurd zero code_ne
    · exact (ih rfl rest).earlier (by omega) held.short
  | case4 => cases failed

/-! ### What the index says -/

theorem duplicatesAfter_eq {seen : List Nat} (front : List Abbreviation) {rest : List Abbreviation}
    (codes : ∀ code, code ∈ seen ↔ code ∈ front.map (·.code)) :
    duplicatesAfter seen rest =
      ((rest.zipIdx front.length).filter fun (a, i) =>
        ((front ++ rest).take i).any (·.code == a.code)).map Prod.fst := by
  induction rest generalizing seen front with
  | nil => rfl
  | cons a rest ih =>
    have known : seen.contains a.code = front.any (·.code == a.code) := by
      rw [Bool.eq_iff_iff, List.contains_iff_mem, codes, List.any_eq_true]
      simp
    have further := List.append_cons front a rest
    have step {seen' : List Nat}
        (codes' : ∀ code, code ∈ seen' ↔ code ∈ (front ++ [a]).map (·.code)) :=
      ih (front ++ [a]) codes'
    rw [List.length_append, List.length_singleton, ← further] at step
    rw [duplicatesAfter, List.zipIdx_cons, List.filter_cons]
    show _ = List.map _ (if ((front ++ a :: rest).take front.length).any (·.code == a.code) then _
      else _)
    rw [List.take_left, known]
    split
    · next again =>
      rw [List.map_cons, step]
      intro code
      rw [codes, List.map_append, List.mem_append, List.map_singleton, List.mem_singleton]
      refine ⟨.inl, fun either => either.elim id fun same => ?_⟩
      rw [List.any_eq_true] at again
      obtain ⟨b, mem, equal⟩ := again
      exact List.mem_map.2 ⟨b, mem, (eq_of_beq equal).trans same.symm⟩
    · rw [step]
      intro code
      rw [List.mem_cons, codes, List.map_append, List.mem_append, List.map_singleton,
        List.mem_singleton, or_comm]

/-- The duplicates are the abbreviations whose code stands in front of them. -/
theorem duplicates_eq (index : Index) : index.duplicates = repeated index.table.toList :=
  duplicatesAfter_eq [] fun _ => Iff.rfl

/-- A code is looked up as the first abbreviation that has it. -/
theorem lookup_eq (index : Index) (code : Int) :
    (index.lookup code).map (fun place => index.table[place.val]?) =
      match index.table.toList.find? fun a => (a.code : Int) == code with
      | some a => .ok (some a)
      | none => .error (.noAbbreviation code) := by
  rw [Array.find?_toList]
  unfold lookup find?
  rw [Array.find?_eq_map_findFinIdx?_getElem]
  cases index.table.findFinIdx? fun a => (a.code : Int) == code with
  | none => rfl
  | some place => simp [Except.map]

/-- Where a table stands, the scan lists it, and the position stays. -/
theorem exists_lists {rows : List Extent} (held : s.Holds start (tableText rows)) :
    ∃ index, scanHere s start = .ok index start ∧ index.Lists start rows := by
  refine ⟨⟨(recorded start rows).toArray, _⟩, ?_, rfl, rfl, lookup_eq _, duplicates_eq _⟩
  rw [scanHere, Segment.aside, scan, scanFrom_of_holds held]

/-- A scan stands in front of a table, which is the only one there, and lists it; or it stands in
front of none, and runs past the end of the usable data. In either case the position stays. -/
theorem scanHere_cases (s : Segment) (start : Nat) (usable : s.length ≤ s.data.size) :
    (∃ rows index, s.Holds start (tableText rows) ∧
      (∀ rows', s.Holds start (tableText rows') → rows' = rows) ∧
      scanHere s start = .ok index start ∧ index.Lists start rows) ∨
    ((¬ ∃ rows, s.Holds start (tableText rows)) ∧
      ∃ e, scanHere s start = .error e start ∧
        e.damage? = some (.readPastEnd 1 (max start s.length) s.length)) := by
  cases ran : scanFrom s start with
  | ok table stop =>
    obtain ⟨rows, held⟩ := exists_rows ran
    obtain ⟨index, scanned, lists⟩ := exists_lists held
    exact .inl ⟨rows, index, held, fun rows' held' => tableText_unique held'.stand held.stand,
      scanned, lists⟩
  | error e after =>
    refine .inr ⟨fun ⟨rows, held⟩ => ?_, e, ?_, ?_⟩
    · rw [scanFrom_of_holds held] at ran
      cases ran
    · rw [scanHere, Segment.aside, scan, ran]
    · rw [Failure.damage?, overrun_of_scanFrom usable ran]

/-- Two declarations of one code, with zeros that end nothing. -/
def again : List Extent :=
  have one : Closing false [5, 0, 0] := .other (by decide) (.zero .close)
  have other : Closing false [0, 8, 0, 0] := .zero (.other (by decide) (.zero .close))
  [⟨1, 0, 0, [5, 0, 0], by decide, one.closed, fun _ => one.shortest⟩,
    ⟨1, 17, 1, [0, 8, 0, 0], by decide, other.closed, fun _ => other.shortest⟩]

/-- Their table between other bytes. -/
def twice : Segment :=
  ⟨#[7, 1, 0, 0, 5, 0, 0, 1, 17, 1, 0, 8, 0, 0, 0, 9], 15, .ok .little⟩

theorem scanHere_twice :
    twice.length ≤ twice.data.size ∧ ∃ rows index, twice.Holds 1 (tableText rows) ∧
      (∀ rows', twice.Holds 1 (tableText rows') → rows' = rows) ∧
      scanHere twice 1 = .ok index 1 ∧ index.Lists 1 rows := by
  have held : twice.Holds 1 (tableText again) := ⟨by decide, by decide⟩
  exact ⟨by decide, (scanHere_cases twice 1 (by decide)).resolve_right fun none =>
    none.1 ⟨again, held⟩⟩

end Abbreviation.Index

end DebugScopes

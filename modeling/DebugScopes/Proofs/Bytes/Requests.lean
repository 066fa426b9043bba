import DebugScopes.Abbreviation.Reader
import DebugScopes.Proofs.Bytes.Spelling

/-!
# Rows of requests

A reader does what it is asked, one thing after the other, and goes on after a failure. What fails
has left the position where it was: bytes are claimed before the position moves, and the width of an
item is looked at before its bytes are claimed. So a row of requests is answered as if those that
fail had not been made.

* `Segment.Takes`: a read that takes so many bytes, or leaves the position;
* `Segment.serve_cases`: what comes of one request;
* `Segment.serveAll_granted`: leaving out what fails changes nothing else;
* `Segment.number_turned`: the two byte orders;
* `Segment.requests_lawful`: all of it.
-/

namespace DebugScopes

/-- What a reader can be asked. -/
inductive Request
  | byte
  | half
  | word
  | sized (size : Int)
  | skip (count : Int)
  | text (addr : Int)
deriving DecidableEq, Repr

/-- What a reader answers. -/
inductive Answer
  | number (n : Nat)
  | done
  | text (text : String)
deriving DecidableEq, Repr

namespace Request

/-- How many bytes are asked for at the position. A text is looked up elsewhere. -/
def count? : Request → Option Int
  | byte => some 1
  | half => some 2
  | word => some 4
  | sized size => some size
  | skip count => some count
  | text _ => none

/-- Whether items may be as wide as is asked for. -/
def IsWide : Request → Prop
  | sized size => size = 1 ∨ size = 2 ∨ size = 4
  | _ => True

end Request

namespace Segment

/-- Does what is asked. -/
def serve (s : Segment) : Request → Read Answer
  | .byte => Answer.number <$> s.byte
  | .half => Answer.number <$> s.half
  | .word => Answer.number <$> s.word
  | .sized size => Answer.number <$> s.sized size
  | .skip count => (fun _ => Answer.done) <$> s.skip count
  | .text addr => Answer.text <$> aside fun _ => (s.textAt addr).mapError .ofDamage

/-- Does one after the other what is asked, whatever fails: the answers, and where the reader is in
the end. -/
def serveAll (s : Segment) : List Request → Int → List (Except Failure Answer) × Int
  | [], pos => ([], pos)
  | r :: rest, pos =>
    match s.serve r pos with
    | .ok a after => (.ok a :: (s.serveAll rest after).1, (s.serveAll rest after).2)
    | .error e after => (.error e :: (s.serveAll rest after).1, (s.serveAll rest after).2)

/-- What is left of a row of requests without those that fail in it. -/
def granted (s : Segment) (requests : List Request) (pos : Int) : List Request :=
  ((requests.zip (s.serveAll requests pos).1).filter (·.2.isOk)).map (·.1)

/-! ### Reads that take bytes -/

/-- The bytes lie inside the usable data. -/
def Covers (s : Segment) (pos count : Int) : Prop :=
  0 ≤ pos ∧ 0 ≤ count ∧ pos + count ≤ s.length

/-- A read takes so many bytes: it succeeds exactly if they lie inside the usable data, and moves
the position behind them. If it fails, the position stays. -/
def Takes {α : Type} (s : Segment) (count : Int) (read : Read α) : Prop :=
  ∀ pos, (s.Covers pos count ∧ ∃ a, read pos = .ok a (pos + count)) ∨
    (¬ s.Covers pos count ∧ ∃ e, read pos = .error e pos)

section Taking

variable {s : Segment} {count : Int} {α β : Type} {read : Read α}

theorem takes_take (s : Segment) (count : Int) : s.Takes count (s.take count) := by
  intro pos
  by_cases covers : s.Covers pos count
  · obtain ⟨positive, counted, short⟩ := covers
    exact .inl ⟨⟨positive, counted, short⟩, pos, take_eq_ok.2 ⟨rfl, rfl, positive, counted, short⟩⟩
  · refine .inr ⟨covers, _, if_pos ?_⟩
    unfold Covers at covers
    omega

theorem Takes.within {step : Step} (takes : s.Takes count read) :
    s.Takes count (within step read) := by
  intro pos
  rcases takes pos with ⟨covers, a, ran⟩ | ⟨outside, e, ran⟩
  · exact .inl ⟨covers, a, within_eq_ok.2 ran⟩
  · exact .inr ⟨outside, _, within_of_error ran⟩

/-- What goes on behind the bytes and neither fails nor moves. -/
theorem Takes.bind {next : α → Read β} (takes : s.Takes count read)
    (goesOn : ∀ pos a, s.Covers pos count → read pos = .ok a (pos + count) →
      ∃ b, next a (pos + count) = .ok b (pos + count)) : s.Takes count (read >>= next) := by
  intro pos
  rcases takes pos with ⟨covers, a, ran⟩ | ⟨outside, e, ran⟩
  · obtain ⟨b, run⟩ := goesOn pos a covers ran
    exact .inl ⟨covers, b, (bind_of_ok ran).trans run⟩
  · exact .inr ⟨outside, e, bind_of_error ran⟩

theorem Takes.map {f : α → β} (takes : s.Takes count read) : s.Takes count (f <$> read) :=
  takes.bind fun _ a _ _ => ⟨f a, rfl⟩

theorem takes_skip (s : Segment) (count : Int) : s.Takes count (s.skip count) :=
  (takes_take s count).bind fun _ _ _ _ => ⟨(), rfl⟩

/-- Where the usable data has all its bytes, a byte is taken. -/
theorem takes_byte (usable : s.length ≤ s.data.size) : s.Takes 1 s.byte := by
  refine (takes_take s 1).within.bind fun pos start covers claimed => ?_
  obtain ⟨positive, -, short⟩ := covers
  obtain ⟨rfl, -⟩ := take_ok (within_ok claimed)
  rw [Array.getElem?_eq_getElem (show start.toNat < s.data.size by omega)]
  exact ⟨_, rfl⟩

/-- In a byte order that there is, a number is taken. -/
theorem takes_number {order : ByteOrder} (ordered : s.order = .ok order) (count : Nat) :
    s.Takes count (s.number count) := by
  refine (takes_take s count).within.bind fun pos start _ _ => ?_
  rw [ordered]
  exact ⟨_, rfl⟩

/-- An item of another width is refused before anything is claimed. -/
theorem sized_of_narrow {size : Int} (narrow : ¬ (size = 1 ∨ size = 2 ∨ size = 4)) (pos : Int) :
    s.sized size pos = .error (.ofDamage (.itemWidth pos size)) pos := by
  unfold sized
  rw [if_neg fun one => narrow (.inl one), if_neg fun two => narrow (.inr (.inl two)),
    if_neg fun four => narrow (.inr (.inr four))]
  rfl

/-- A text is looked up without moving. -/
theorem serve_text (s : Segment) (addr pos : Int) :
    (∃ text, s.serve (.text addr) pos = .ok (.text text) pos) ∨
      ∃ e, s.serve (.text addr) pos = .error e pos := by
  cases found : s.textAt addr with
  | ok text =>
    refine .inl ⟨text, bind_of_ok (a := text) ?_⟩
    simp only [aside, found]
    rfl
  | error damage =>
    refine .inr ⟨.ofDamage damage, bind_of_error ?_⟩
    simp only [aside, found]
    rfl

end Taking

/-! ### One request -/

section Requests

variable {s : Segment} {order : ByteOrder} {r : Request} {count pos : Int}

/-- A request for bytes succeeds exactly if items may be that wide and the bytes lie inside the
usable data. The position is then behind them, and otherwise where it was. -/
theorem serve_cases (usable : s.length ≤ s.data.size) (ordered : s.order = .ok order)
    (counted : r.count? = some count) (pos : Int) :
    ((r.IsWide ∧ s.Covers pos count) ∧ ∃ a, s.serve r pos = .ok a (pos + count)) ∨
      (¬ (r.IsWide ∧ s.Covers pos count) ∧ ∃ e, s.serve r pos = .error e pos) := by
  suffices r.IsWide ∧ s.Takes count (s.serve r) ∨
      ¬ r.IsWide ∧ ∀ pos, ∃ e, s.serve r pos = .error e pos by
    rcases this with ⟨wide, takes⟩ | ⟨narrow, fails⟩
    · rcases takes pos with ⟨covers, ran⟩ | ⟨outside, ran⟩
      · exact .inl ⟨⟨wide, covers⟩, ran⟩
      · exact .inr ⟨fun granted => outside granted.2, ran⟩
    · exact .inr ⟨fun granted => narrow granted.1, fails pos⟩
  cases r with
  | byte =>
    cases counted
    exact .inl ⟨trivial, (takes_byte usable).map⟩
  | half =>
    cases counted
    exact .inl ⟨trivial, (takes_number ordered 2).map⟩
  | word =>
    cases counted
    exact .inl ⟨trivial, (takes_number ordered 4).map⟩
  | sized size =>
    cases counted
    by_cases wide : count = 1 ∨ count = 2 ∨ count = 4
    · refine .inl ⟨wide, Takes.map ?_⟩
      unfold sized
      rcases wide with rfl | rfl | rfl
      · exact (takes_byte usable).within
      · exact (takes_number ordered 2).within
      · exact (takes_number ordered 4).within
    · exact .inr ⟨wide, fun pos => ⟨_, bind_of_error (sized_of_narrow wide pos)⟩⟩
  | skip count' =>
    cases counted
    exact .inl ⟨trivial, (takes_skip s count).map⟩
  | text => cases counted

/-- A request that fails leaves the position. -/
theorem stays_of_serve_error (usable : s.length ≤ s.data.size) (ordered : s.order = .ok order)
    {e : Failure} {after : Int} (failed : s.serve r pos = .error e after) : after = pos := by
  cases counted : r.count? with
  | some count =>
    rcases serve_cases usable ordered counted pos with ⟨-, a, ran⟩ | ⟨-, e', ran⟩
    · rw [ran] at failed
      cases failed
    · rw [ran] at failed
      cases failed
      rfl
  | none =>
    cases r with
    | text addr =>
      rcases s.serve_text addr pos with ⟨text, ran⟩ | ⟨e', ran⟩
      · rw [ran] at failed
        cases failed
      · rw [ran] at failed
        cases failed
        rfl
    | byte | half | word | sized | skip => cases counted

/-! ### Rows of requests -/

/-- Leaving out the requests that fail changes neither the answers to the others nor where the
reader is in the end. -/
theorem serveAll_granted (usable : s.length ≤ s.data.size) (ordered : s.order = .ok order)
    (requests : List Request) (pos : Int) :
    s.serveAll (s.granted requests pos) pos =
      ((s.serveAll requests pos).1.filter (·.isOk), (s.serveAll requests pos).2) := by
  induction requests generalizing pos with
  | nil => rfl
  | cons r rest ih =>
    cases ran : s.serve r pos with
    | ok a after =>
      have all : s.serveAll (r :: rest) pos =
          (.ok a :: (s.serveAll rest after).1, (s.serveAll rest after).2) := by
        rw [serveAll, ran]
      have others : s.granted (r :: rest) pos = r :: s.granted rest after := by
        unfold granted
        rw [all]
        rfl
      rw [all, others, serveAll, ran]
      simp only [ih]
      rfl
    | error e after =>
      obtain rfl := stays_of_serve_error usable ordered ran
      have all : s.serveAll (r :: rest) after =
          (.error e :: (s.serveAll rest after).1, (s.serveAll rest after).2) := by
        rw [serveAll, ran]
      have others : s.granted (r :: rest) after = s.granted rest after := by
        unfold granted
        rw [all]
        rfl
      rw [all, others, ih]
      rfl

end Requests

/-! ### The two byte orders -/

/-- The segment with so many bytes at a position reversed, in little order. -/
def turned (s : Segment) (pos : Int) (count : Nat) : Segment where
  data := (s.data.toList.take pos.toNat ++ ((s.data.toList.drop pos.toNat).take count).reverse ++
    s.data.toList.drop (pos.toNat + count)).toArray
  length := s.length
  order := .ok .little

/-- Where a stretch of a row is reversed, it is read backwards. -/
theorem take_drop_reversed {α : Type} (start count : Nat) (row : List α) :
    ((row.take start ++ ((row.drop start).take count).reverse ++ row.drop (start + count)).drop
      start).take count = ((row.drop start).take count).reverse := by
  rcases Nat.lt_or_ge row.length start with short | long
  · have behind : row.drop start = [] := List.drop_eq_nil_of_le short.le
    have further : row.drop (start + count) = [] := List.drop_eq_nil_of_le (by omega)
    rw [behind, further, List.take_of_length_le short.le]
    simpa using .inr short.le
  · have front : (row.take start).length = start := List.length_take_of_le long
    rw [List.append_assoc, List.drop_left' front]
    rcases Nat.lt_or_ge row.length (start + count) with near | far
    · have further : row.drop (start + count) = [] := List.drop_eq_nil_of_le near.le
      rw [further, List.append_nil]
      exact List.take_of_length_le (by simp)
    · exact List.take_left' (by simp; omega)

theorem extract_turned (s : Segment) (pos : Int) (count : Nat) :
    ((s.turned pos count).data.extract pos.toNat (pos.toNat + count)).toList =
      (s.data.extract pos.toNat (pos.toNat + count)).toList.reverse := by
  rw [Array.toList_extract, Array.toList_extract, List.extract_eq_drop_take',
    List.extract_eq_drop_take', List.drop_take, List.drop_take, Nat.add_sub_cancel_left]
  exact take_drop_reversed pos.toNat count s.data.toList

/-- A number in big order is the number of the reversed bytes in little order. -/
theorem number_turned (s : Segment) (pos : Int) (count : Nat) :
    { s with order := .ok .big }.number count pos = (s.turned pos count).number count pos := by
  cases claimed : within .taken (s.take count) pos with
  | error e after => exact (bind_of_error claimed).trans (bind_of_error claimed).symm
  | ok start after =>
    obtain ⟨rfl, -⟩ := take_ok (within_ok claimed)
    refine ((bind_of_ok claimed).trans ?_).trans (bind_of_ok claimed).symm
    show EStateM.Result.ok (ofBytes (s.data.extract _ _).toList.reverse) after =
      .ok (ofBytes ((s.turned start count).data.extract _ _).toList) after
    rw [extract_turned]

/-- **Failed reads are invisible.** Where the usable data has all its bytes and the byte order is
one, a request for bytes succeeds exactly if items may be that wide and the bytes lie inside the
usable data, and then moves the position by exactly their number. In a row of requests those that
fail can be left out: the others are answered alike, and the reader ends where it did. A number in
big order is the number of the reversed bytes in little order. -/
theorem requests_lawful {s : Segment} {order : ByteOrder} (usable : s.length ≤ s.data.size)
    (ordered : s.order = .ok order) :
    (∀ r count, r.count? = some count → ∀ pos,
      ((∃ a after, s.serve r pos = .ok a after) ↔ r.IsWide ∧ s.Covers pos count) ∧
      ∀ a after, s.serve r pos = .ok a after → after = pos + count) ∧
    (∀ requests pos, s.serveAll (s.granted requests pos) pos =
      ((s.serveAll requests pos).1.filter (·.isOk), (s.serveAll requests pos).2)) ∧
    ∀ pos, { s with order := .ok .big }.half pos = (s.turned pos 2).half pos ∧
      { s with order := .ok .big }.word pos = (s.turned pos 4).word pos := by
  refine ⟨fun r count counted pos => ?_, serveAll_granted usable ordered,
    fun pos => ⟨number_turned s pos 2, number_turned s pos 4⟩⟩
  rcases serve_cases usable ordered counted pos with ⟨granted, a, ran⟩ | ⟨refused, e, ran⟩
  · refine ⟨⟨fun _ => granted, fun _ => ⟨a, _, ran⟩⟩, fun a' after run => ?_⟩
    rw [ran] at run
    cases run
    rfl
  · constructor
    · refine ⟨fun ⟨a, after, run⟩ => ?_, fun granted => absurd granted refused⟩
      rw [ran] at run
      cases run
    · intro a after run
      rw [ran] at run
      cases run

/-- Five bytes, of which four are usable, read through six requests of which four fail. -/
theorem requests_lawful_overrun :
    let s : Segment := ⟨#[1, 2, 3, 4, 5], 4, .ok .big⟩
    let requests := [.half, .word, .sized 3, .skip (-1), .text 0, .byte]
    s.length ≤ s.data.size ∧ s.order = .ok .big ∧
      s.granted requests 0 = [.half, .byte] ∧
      s.serveAll [.half, .byte] 0 = ([.ok (.number 258), .ok (.number 3)], 3) ∧
      s.serveAll (s.granted requests 0) 0 =
        ((s.serveAll requests 0).1.filter (·.isOk), (s.serveAll requests 0).2) ∧
      s.half 1 = (s.turned 1 2).half 1 := by
  intro s requests
  have usable : s.length ≤ s.data.size := by decide
  have lawful := requests_lawful usable (show s.order = .ok .big from rfl)
  exact ⟨usable, rfl, rfl, rfl, lawful.2.1 requests 0, (lawful.2.2 1).1⟩

end Segment

end DebugScopes

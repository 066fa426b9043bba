import DebugScopes.Proofs.Abbreviation.Reading

/-!
# Rows of inquiries

An index is asked for declarations again and again, through readers of the same data that stand
anywhere and count bytes in any order. It reads a declaration when it is first asked for, and keeps
it; and still each answer is what reading anew would give, be it a declaration or a failure.

* `Abbreviation.reread`: reading a declaration anew;
* `Index.askAll`: a row of inquiries, and the index that is left;
* `Index.askAll_eq`: the answers are those of reading anew, and the index that is left keeps what
  could be read of the abbreviations that were asked for, and nothing else.
-/

namespace DebugScopes

namespace Abbreviation

/-- Reads the declaration of an abbreviation, whether it has been read before or not. -/
def reread (s : Segment) (a : Abbreviation) : Except Failure Declaration :=
  match Declaration.read s a.offset with
  | .ok d _ => .ok d
  | .error e _ => .error e

/-- The abbreviation with what can be read of its declaration. -/
def filled (s : Segment) (a : Abbreviation) : Abbreviation :=
  { a with declaration := (a.reread s).toOption }

namespace Index

/-- The abbreviation in a place of the table is asked for, through a reader in some byte order that
stands at a position. -/
structure Inquiry where
  order : Except OrderFault ByteOrder
  pos : Int
  place : Nat

/-- The reader through which is asked. -/
def Inquiry.reader (q : Inquiry) (s : Segment) : Segment := { s with order := q.order }

/-- What comes of an inquiry: a declaration or a failure, and where the reader stands then. There is
no answer where there is no abbreviation. -/
abbrev Reply := Option (EStateM.Result Failure Int Declaration)

/-- Asks the index, which is left as it is unless there is a declaration. -/
def ask (s : Segment) (index : Index) (q : Inquiry) : Reply × Index :=
  if inside : q.place < index.table.size then
    match index.declareHere (q.reader s) ⟨q.place, inside⟩ q.pos with
    | .ok (d, index') pos => (some (.ok d pos), index')
    | .error e pos => (some (.error e pos), index)
  else (none, index)

/-- Asks one after the other: the answers, and the index that is left. -/
def askAll (s : Segment) (index : Index) : List Inquiry → List Reply × Index
  | [] => ([], index)
  | q :: rest =>
    let (reply, next) := index.ask s q
    let (replies, last) := next.askAll s rest
    (reply :: replies, last)

/-- The answer of reading anew: the reader stays where it is. -/
def anew (s : Segment) (index : Index) (q : Inquiry) : Reply :=
  index.table[q.place]?.map fun a =>
    match a.reread (q.reader s) with
    | .ok d => .ok d q.pos
    | .error e => .error e q.pos

/-- The index that keeps what can be read of the abbreviations in some places. -/
def keepingAt (s : Segment) (index : Index) (places : List Nat) : Index :=
  { index with table := index.table.mapIdx fun i a => if i ∈ places then a.filled s else a }

/-! ### One inquiry -/

section Asking

variable {s : Segment} {index : Index} {places : List Nat}

/-- The byte order of a reader has no bearing on declarations. -/
theorem read_reader (q : Inquiry) : Declaration.read (q.reader s) = Declaration.read s :=
  Declaration.read_congr rfl

theorem reread_reader (q : Inquiry) (a : Abbreviation) :
    a.reread (q.reader s) = a.reread s := by
  unfold reread
  rw [read_reader]

theorem declare_reader (q : Inquiry) (index : Index) :
    index.declare (q.reader s) = index.declare s := by
  funext place
  unfold declare declareOne
  rw [read_reader]

/-- Which places there are is all that matters. -/
theorem keepingAt_congr {places' : List Nat} (same : ∀ i, i ∈ places ↔ i ∈ places') :
    index.keepingAt s places = index.keepingAt s places' := by
  unfold keepingAt
  simp only [same]

theorem getElem?_keepingAt (i : Nat) :
    (index.keepingAt s places).table[i]? =
      index.table[i]?.map fun a => if i ∈ places then a.filled s else a :=
  Array.getElem?_mapIdx ..

/-- An index is its rows and the end of its table. -/
theorem eq_of_rows {other : Index} (stop : index.stop = other.stop)
    (rows : ∀ i : Nat, index.table[i]? = other.table[i]?) : index = other := by
  obtain ⟨table, _⟩ := index
  obtain rfl : table = other.table := Array.ext_getElem? rows
  cases stop
  rfl

theorem keepingAt_nil : index.keepingAt s [] = index := by
  refine eq_of_rows rfl fun i => ?_
  rw [getElem?_keepingAt]
  simp

/-- Of a place where there is nothing to read, nothing is kept. -/
theorem keepingAt_cons_of_eq {place : Nat}
    (nothing : ∀ a, index.table[place]? = some a → a.filled s = a) :
    index.keepingAt s (place :: places) = index.keepingAt s places := by
  refine eq_of_rows rfl fun i => ?_
  rw [getElem?_keepingAt, getElem?_keepingAt]
  refine Option.map_congr fun a there => ?_
  by_cases same : i = place
  · subst same
    simp only [nothing a there, ite_self]
  · simp only [List.mem_cons, same, false_or]

/-- What is read in one more place is set there. -/
theorem keepingAt_cons {place : Nat} {a : Abbreviation} (there : index.table[place]? = some a)
    (inside : place < (index.keepingAt s places).table.size) :
    index.keepingAt s (place :: places) = { index.keepingAt s places with
      table := (index.keepingAt s places).table.set place (a.filled s) } := by
  refine eq_of_rows rfl fun i => ?_
  show _ = ((index.keepingAt s places).table.set place (a.filled s))[i]?
  rw [Array.getElem?_set, getElem?_keepingAt, getElem?_keepingAt]
  by_cases same : place = i
  · subst same
    simp [there]
  · simp only [List.mem_cons, Ne.symm same, false_or, if_neg same]

/-- What is kept where something could be read is what stands there. -/
theorem honest_filled (s : Segment) (a : Abbreviation) : Honest s (a.filled s) := by
  intro d kept
  have given : (a.reread s).toOption = some d := kept
  show ∃ after, Declaration.read s a.offset = .ok d after
  unfold reread at given
  cases read : Declaration.read s a.offset with
  | ok d' after =>
    rw [read] at given
    cases given
    exact ⟨after, rfl⟩
  | error e after =>
    rw [read] at given
    cases given

/-- Whether a declaration has been kept or not, the answer is what can be read. -/
theorem declareOne_filled {a b : Abbreviation} (fresh : a.declaration = none)
    (kept : b = a.filled s ∨ b = a) :
    declareOne s b = (a.reread s).map fun d => (d, a.filled s) := by
  have honest : Honest s b := by
    rcases kept with rfl | rfl
    · exact honest_filled s a
    · intro d there
      rw [fresh] at there
      cases there
  have offset : b.offset = a.offset := by rcases kept with rfl | rfl <;> rfl
  rw [declareOne_eq honest, offset]
  unfold filled reread
  cases Declaration.read s a.offset with
  | ok d after => rcases kept with rfl | rfl <;> rfl
  | error e after => rfl

/-- Where nothing can be read, nothing is kept. -/
theorem filled_of_error {a : Abbreviation} {e : Failure} (fresh : a.declaration = none)
    (failed : a.reread s = .error e) : a.filled s = a := by
  unfold filled
  rw [failed]
  show { a with declaration := none } = a
  rw [← fresh]

/-- What the index gives of an abbreviation is what can be read. -/
theorem declare_keepingAt {place : Nat} {a : Abbreviation} (fresh : a.declaration = none)
    (there : index.table[place]? = some a) (inside : place < (index.keepingAt s places).table.size) :
    (index.keepingAt s places).declare s ⟨place, inside⟩ =
      (a.reread s).map fun d => (d, index.keepingAt s (place :: places)) := by
  have row : (index.keepingAt s places).table[place]? =
      some (if place ∈ places then a.filled s else a) := by
    rw [getElem?_keepingAt, there]
    rfl
  obtain ⟨_, found⟩ := Array.getElem?_eq_some_iff.1 row
  have kept : (index.keepingAt s places).table[place] = a.filled s ∨
      (index.keepingAt s places).table[place] = a := by
    rw [found]
    split_ifs
    · exact .inl rfl
    · exact .inr rfl
  unfold declare
  rw [Fin.getElem_fin, declareOne_filled fresh kept, keepingAt_cons there inside]
  cases a.reread s <;> rfl

/-- One inquiry is answered as by reading anew, and its place is one of those of which the index
keeps what can be read. -/
theorem ask_keepingAt (fresh : index.Fresh) (q : Inquiry) :
    (index.keepingAt s places).ask s q =
      (index.anew s q, index.keepingAt s (q.place :: places)) := by
  unfold ask
  split
  · next inside =>
    obtain ⟨a, there⟩ : ∃ a, index.table[q.place]? = some a :=
      ⟨_, Array.getElem?_eq_getElem (by simpa [keepingAt] using inside)⟩
    have unread : a.declaration = none := fresh a (Array.mem_of_getElem? there)
    unfold declareHere Segment.aside anew
    rw [declare_reader, declare_keepingAt unread there inside, there, Option.map_some,
      reread_reader]
    cases read : a.reread s with
    | ok d => rfl
    | error e =>
      rw [keepingAt_cons_of_eq]
      · rfl
      · intro b other
        rw [there] at other
        cases other
        exact filled_of_error unread read
  · next outside =>
    have nothing : index.table[q.place]? = none := by
      simpa [keepingAt] using outside
    rw [keepingAt_cons_of_eq (by simp [nothing]), anew, nothing]
    rfl

/-- A row of inquiries is answered as by reading anew each time, and the index that is left keeps
what could be read of the abbreviations that were asked for. -/
theorem askAll_keepingAt (fresh : index.Fresh) (inquiries : List Inquiry) (places : List Nat) :
    (index.keepingAt s places).askAll s inquiries = (inquiries.map (index.anew s),
      index.keepingAt s ((inquiries.map (·.place)).reverse ++ places)) := by
  induction inquiries generalizing places with
  | nil => rfl
  | cons q rest ih =>
    simp only [askAll, ask_keepingAt fresh q, ih, List.map_cons, List.reverse_cons,
      List.append_assoc, List.singleton_append]

/-- A row of inquiries into an index that keeps nothing yet is answered as by reading anew each time,
and the index that is left keeps what can be read of the abbreviations that were asked for. -/
theorem askAll_eq (fresh : index.Fresh) (inquiries : List Inquiry) :
    index.askAll s inquiries =
      (inquiries.map (index.anew s), index.keepingAt s (inquiries.map (·.place))) := by
  have answered := askAll_keepingAt (s := s) fresh inquiries []
  rw [keepingAt_nil, List.append_nil] at answered
  rw [answered, keepingAt_congr fun i => List.mem_reverse]

end Asking

end Index

end Abbreviation

end DebugScopes

import DebugScopes.Proofs.Abbreviation.Scanning
import DebugScopes.Proofs.Bytes.LongNumbers

/-!
# Scanning and reading agree

A declaration that is written with its attributes and forms as long numbers, closed by two zeros, is
found by the scan and read by the decoder. The one looks for two zeros in a row, the other for a
pair of numbers that are zero; they stop at the same place because a long number other than zero has
no zero among its bytes.

* `Written`: a declaration as it is written, which is an `Extent` to the scan;
* `Written.read_of_holds`: reading it gives it back;
* `Index.Asked`: an index that has answered readers of the data, which `Faithful.of_asked` says is
  still faithful;
* `Index.exists_agrees`: the index of a written table records each declaration, and gives it to
  every reader of the data.
-/

namespace DebugScopes

/-! ### Readers of the same data -/

namespace Segment

/-- All of the data. -/
def whole (data : Array UInt8) : Segment := ⟨data, data.size, .ok .little⟩

variable {s : Segment} {pos after : Int} {n b : Nat}

theorem byte_whole (read : s.byte pos = .ok b after) : (whole s.data).byte pos = .ok b after := by
  obtain ⟨positive, -, found, moved⟩ := byte_eq_ok.1 read
  obtain ⟨x, there, -⟩ := Option.map_eq_some_iff.1 found
  obtain ⟨inside, -⟩ := Array.getElem?_eq_some_iff.1 there
  refine byte_eq_ok.2 ⟨positive, ?_, found, moved⟩
  show pos < (s.data.size : Int)
  omega

theorem uleb128_whole (read : s.uleb128 pos = .ok n after) :
    (whole s.data).uleb128 pos = .ok n after := by
  fun_induction uleb128 s pos generalizing n after with
  | case1 => cases read
  | case2 pos b between found small =>
    cases read
    exact uleb128_last (byte_whole (within_eq_ok.1 found)) small
  | case3 => cases read
  | case4 pos b between found large rest last more ih =>
    cases read
    exact uleb128_more (byte_whole (within_eq_ok.1 found)) (Nat.le_of_not_lt large) (ih more)

end Segment

namespace Declaration

variable {s : Segment} {pos after : Int}

theorem attributesAt_eq (s : Segment) (pos : Int) :
    attributesAt s pos =
      match pair s pos with
      | .error e after => .error e after
      | .ok (attr, form) after =>
        if attr = 0 ∧ form = 0 then .ok [] after
        else
          match attributesAt s after with
          | .error e after => .error e after
          | .ok rest after => .ok ((attr, form) :: rest) after := by
  rw [attributesAt]
  split
  · next failed => rw [failed]
  · next read => exact read.symm ▸ rfl

theorem attributesAt_congr {s s' : Segment} (bytes : s'.byte = s.byte) :
    attributesAt s' = attributesAt s := by
  have pairs : pair s' = pair s := by simp only [pair, Segment.uleb128_congr bytes]
  funext pos
  fun_induction attributesAt s pos with
  | case1 pos e after failed => rw [attributesAt_eq, pairs, failed]
  | case2 pos attr form after read zeros =>
    rw [attributesAt_eq, pairs, read]
    simp only [if_pos zeros]
  | case3 pos attr form between read more e after failed ih =>
    rw [attributesAt_eq, pairs, read]
    simp only [if_neg more, ih, failed]
  | case4 pos attr form between read more rest after others ih =>
    rw [attributesAt_eq, pairs, read]
    simp only [if_neg more, ih, others]

/-- Declarations are read byte by byte. -/
theorem read_congr {s s' : Segment} (bytes : s'.byte = s.byte) :
    Declaration.read s' = Declaration.read s := by
  simp only [Declaration.read, bytes, attributesAt_congr bytes]

theorem pair_whole {p : Nat × Nat} (read : pair s pos = .ok p after) :
    pair (Segment.whole s.data) pos = .ok p after := by
  obtain ⟨attr, between, first, read⟩ := bind_eq_ok.1 read
  obtain ⟨form, last, second, read⟩ := bind_eq_ok.1 read
  exact bind_eq_ok.2 ⟨attr, between, within_eq_ok.2 (Segment.uleb128_whole (within_eq_ok.1 first)),
    bind_eq_ok.2 ⟨form, last, within_eq_ok.2 (Segment.uleb128_whole (within_eq_ok.1 second)), read⟩⟩

theorem attributesAt_whole {attributes : List (Nat × Nat)}
    (read : attributesAt s pos = .ok attributes after) :
    attributesAt (Segment.whole s.data) pos = .ok attributes after := by
  fun_induction attributesAt s pos generalizing attributes after with
  | case1 => cases read
  | case2 pos attr form between found zeros =>
    rw [attributesAt_eq, pair_whole found]
    cases read
    exact if_pos zeros
  | case3 => cases read
  | case4 pos attr form between found more rest last others ih =>
    rw [attributesAt_eq, pair_whole found]
    show (if attr = 0 ∧ form = 0 then _ else _) = _
    rw [if_neg more, ih others]
    exact read

/-- What one reader reads of the data is what stands in it. -/
theorem read_whole {d : Declaration} (read : Declaration.read s pos = .ok d after) :
    Declaration.read (Segment.whole s.data) pos = .ok d after := by
  have byte {step : Step} {b : Nat} {pos after : Int} (read : within step s.byte pos = .ok b after) :
      within step (Segment.whole s.data).byte pos = .ok b after :=
    within_eq_ok.2 (Segment.byte_whole (within_eq_ok.1 read))
  obtain ⟨code, _, first, read⟩ := bind_eq_ok.1 read
  obtain ⟨tag, _, second, read⟩ := bind_eq_ok.1 read
  obtain ⟨children, _, third, read⟩ := bind_eq_ok.1 read
  obtain ⟨attributes, _, pairs, read⟩ := bind_eq_ok.1 read
  unfold Declaration.read
  rw [bind_of_ok (byte first), bind_of_ok (byte second), bind_of_ok (byte third),
    bind_of_ok (attributesAt_whole pairs)]
  exact read

end Declaration

/-! ### Declarations as they are written -/

namespace Declaration

variable {s : Segment} {pos : Nat}

/-- The bytes of attributes with their forms. -/
def spelled (attributes : List (Nat × Nat)) : List UInt8 :=
  attributes.flatMap fun p => septets p.1 ++ septets p.2

theorem spelled_ne_zero {attributes : List (Nat × Nat)}
    (nonzero : ∀ p ∈ attributes, p.1 ≠ 0 ∧ p.2 ≠ 0) : ∀ b ∈ spelled attributes, b ≠ 0 := by
  intro b mem
  obtain ⟨p, inside, mem⟩ := List.mem_flatMap.1 mem
  obtain ⟨attr, form⟩ := nonzero p inside
  rcases List.mem_append.1 mem with first | second
  · exact septets_ne_zero attr b first
  · exact septets_ne_zero form b second

/-- A pair of long numbers is read. -/
theorem pair_of_holds (attr form : Nat) (held : s.Holds pos (septets attr ++ septets form)) :
    pair s pos =
      .ok (attr, form) ((pos + (septets attr ++ septets form).length : Nat) : Int) := by
  obtain ⟨first, second⟩ := Segment.holds_append.1 held
  unfold pair
  rw [bind_of_ok (within_eq_ok.2 (first.uleb128 (spellsLong_septets attr))),
    bind_of_ok (within_eq_ok.2 (second.uleb128 (spellsLong_septets form))), List.length_append,
    ← Nat.add_assoc]
  rfl

/-- Attributes with their forms are read up to the pair of zeros, and the position is behind it. -/
theorem attributesAt_of_holds {attributes : List (Nat × Nat)}
    (nonzero : ∀ p ∈ attributes, p.1 ≠ 0 ∧ p.2 ≠ 0)
    (held : s.Holds pos (spelled attributes ++ [0, 0])) :
    attributesAt s pos =
      .ok attributes ((pos + (spelled attributes ++ [0, 0]).length : Nat) : Int) := by
  induction attributes generalizing pos with
  | nil =>
    have zeros : septets 0 ++ septets 0 = [0, 0] := by rw [septets]; rfl
    have read := pair_of_holds 0 0 (by rw [zeros]; exact held)
    rw [zeros] at read
    rw [attributesAt_eq, read]
    exact if_pos ⟨rfl, rfl⟩
  | cons p rest ih =>
    have split : spelled (p :: rest) ++ [0, 0] =
        (septets p.1 ++ septets p.2) ++ (spelled rest ++ [0, 0]) := by
      rw [spelled, List.flatMap_cons, List.append_assoc]
      rfl
    rw [split] at held ⊢
    obtain ⟨first, others⟩ := Segment.holds_append.1 held
    have more := (nonzero p List.mem_cons_self).1
    rw [attributesAt_eq, pair_of_holds p.1 p.2 first]
    show (if p.1 = 0 ∧ p.2 = 0 then _ else _) = _
    rw [if_neg fun zeros => more zeros.1,
      ih (fun q mem => nonzero q (List.mem_cons_of_mem _ mem)) others, Nat.add_assoc,
      ← List.length_append]

end Declaration

namespace Abbreviation

/-- Bytes other than zero and two zeros behind them end in the first two zeros in a row. -/
theorem Closing.of_ne_zero {body : List UInt8} (nonzero : ∀ b ∈ body, b ≠ 0) :
    Closing false (body ++ [0, 0]) := by
  induction body with
  | nil => exact .zero .close
  | cons b rest ih =>
    exact .other (nonzero b List.mem_cons_self)
      (ih fun c mem => nonzero c (List.mem_cons_of_mem _ mem))

/-- A declaration that can be written: its code is not zero, and no attribute or form is. -/
structure Written where
  code : UInt8
  tag : UInt8
  children : UInt8
  attributes : List (Nat × Nat)
  code_ne : code ≠ 0
  attributes_ne : ∀ p ∈ attributes, p.1 ≠ 0 ∧ p.2 ≠ 0

namespace Written

variable {s : Segment} {start : Nat}

/-- What is declared. -/
def declaration (w : Written) : Declaration := ⟨w.tag.toNat, w.children != 0, w.attributes⟩

/-- What the scan sees of a declaration that is closed by two zeros. -/
def extent (w : Written) : Extent where
  code := w.code
  tag := w.tag
  children := w.children
  body := Declaration.spelled w.attributes ++ [0, 0]
  code_ne := w.code_ne
  closed := List.suffix_append _ _
  shortest := fun _ =>
    (Closing.of_ne_zero (Declaration.spelled_ne_zero w.attributes_ne)).shortest

/-- The bytes of a declaration. -/
def bytes (w : Written) : List UInt8 := w.extent.bytes

/-- A declaration is read as it was written, and the position is behind it. -/
theorem read_of_holds (w : Written) (held : s.Holds start w.bytes) :
    Declaration.read s start =
      .ok w.declaration ((start + w.bytes.length : Nat) : Int) := by
  have code := held.byte
  have tag := held.tail.byte
  have children := held.tail.tail.byte
  have attributes := Declaration.attributesAt_of_holds w.attributes_ne held.tail.tail.tail
  have flag : (w.children.toNat != 0) = (w.children != 0) := by
    rw [Bool.eq_iff_iff, bne_iff_ne, bne_iff_ne, ne_eq, ne_eq, ← UInt8.toNat_inj]
    rfl
  unfold Declaration.read
  rw [bind_of_ok (within_eq_ok.2 code), bind_of_ok (within_eq_ok.2 tag),
    bind_of_ok (within_eq_ok.2 children), bind_of_ok attributes]
  show EStateM.Result.ok (Declaration.mk w.tag.toNat (w.children.toNat != 0) w.attributes) _ = _
  rw [flag, bytes, Extent.length_bytes, ← Nat.add_assoc]
  rfl

end Written

namespace Index

variable {s : Segment} {index index' : Index} {a : Abbreviation} {d : Declaration}

/-! ### Indices that have answered -/

/-- An index that has answered any readers of the data, wherever they were, since it was made. -/
inductive Asked (data : Array UInt8) (index : Index) : Index → Prop
  | scanned : Asked data index index
  | declared {reader : Segment} {index' index'' : Index} {place : Fin index'.table.size}
      {pos after : Int} {d : Declaration} : Asked data index index' → reader.data = data →
      declareHere index' reader place pos = .ok (d, index'') after → Asked data index index''

theorem declareHere_eq_ok {place : Fin index.table.size} {pos after : Int} :
    declareHere index s place pos = .ok (d, index') after ↔
      index.declare s place = .ok (d, index') ∧ after = pos := by
  unfold declareHere Segment.aside
  cases index.declare s place with
  | error e =>
    constructor
    · intro run
      cases run
    · rintro ⟨same, -⟩
      cases same
  | ok found =>
    constructor
    · intro run
      cases run
      exact ⟨rfl, rfl⟩
    · rintro ⟨same, rfl⟩
      cases same
      rfl

/-- What one reader is given is what all of the data gives. -/
theorem declare_whole {place : Fin index.table.size}
    (given : index.declare s place = .ok (d, index')) :
    index.declare (Segment.whole s.data) place = .ok (d, index') := by
  unfold declare declareOne at given ⊢
  cases kept : index.table[place].declaration with
  | some d' =>
    rw [kept] at given
    exact given
  | none =>
    rw [kept] at given
    cases read : Declaration.read s index.table[place].offset with
    | error e after =>
      simp only [read] at given
      cases given
    | ok d' after =>
      simp only [read] at given
      simp only [Declaration.read_whole read]
      exact given

/-- Answering the readers of the data leaves an index that stands for the same table. -/
theorem Faithful.of_asked {index₀ : Index}
    (faithful : Faithful (Segment.whole s.data) index₀ index) (asked : Asked s.data index index') :
    Faithful (Segment.whole s.data) index₀ index' := by
  induction asked with
  | scanned => exact faithful
  | @declared reader index' index'' place pos after d _ same given ih =>
    have given := declare_whole (declareHere_eq_ok.1 given).1
    rw [same] at given
    have row : index'.table[(place : Nat)]? = some index'.table[(place : Nat)] := by simp
    rw [ih.declare_eq row] at given
    cases read : Declaration.read (Segment.whole s.data) index'.table[(place : Nat)].offset with
    | error e after =>
      rw [read] at given
      cases given
    | ok d' after =>
      rw [read] at given
      cases given
      exact ih.keeping row read

/-- A reader that could read a declaration itself is given the same one. -/
theorem Faithful.declare_of_read {index₀ : Index} {after : Int}
    (faithful : Faithful (Segment.whole s.data) index₀ index) {place : Fin index.table.size}
    (row : index.table[(place : Nat)]? = some a) (read : Declaration.read s a.offset = .ok d after) :
    ∃ index', index.declare s place = .ok (d, index') := by
  obtain ⟨inside, rfl⟩ := Array.getElem?_eq_some_iff.1 row
  unfold declare declareOne
  cases kept : index.table[place].declaration with
  | some d' =>
    obtain ⟨after', read'⟩ := faithful.honest _ (Array.getElem_mem inside) d' kept
    rw [Declaration.read_whole read] at read'
    cases read'
    exact ⟨_, rfl⟩
  | none =>
    have read : Declaration.read s index.table[place].offset = .ok d after := read
    rw [read]
    exact ⟨_, rfl⟩

/-! ### The index of a written table -/

/-- Where the `i`-th of declarations starts that follow each other. -/
def startOf (start : Nat) (rows : List Extent) (i : Nat) : Nat :=
  start + ((rows.take i).flatMap Extent.bytes).length

theorem getElem?_recorded (start : Nat) (rows : List Extent) (i : Nat) :
    (recorded start rows)[i]? = rows[i]?.map fun e => ⟨e.code.toNat, startOf start rows i, none⟩ := by
  induction rows generalizing start i with
  | nil => rfl
  | cons e rest ih =>
    cases i with
    | zero => rfl
    | succ i =>
      rw [recorded, List.getElem?_cons_succ, ih, List.getElem?_cons_succ, startOf, startOf,
        List.take_succ_cons, List.flatMap_cons, List.length_append, Nat.add_assoc]

/-- What a table records has not been read. -/
theorem faithful_of_lists {start : Nat} {rows : List Extent} (lists : index.Lists start rows) :
    Faithful s index index := by
  refine ⟨rfl, fun a mem d kept => ?_⟩
  obtain ⟨i, row⟩ := List.mem_iff_getElem?.1 (lists.table ▸ Array.mem_toList_iff.2 mem)
  rw [getElem?_recorded] at row
  obtain ⟨e, -, rfl⟩ := Option.map_eq_some_iff.1 row
  cases kept

/-- Each declaration of a table stands where it starts. -/
theorem holds_bytes {start : Nat} {rows : List Extent} (held : s.Holds start (tableText rows))
    {i : Nat} {e : Extent} (there : rows[i]? = some e) :
    s.Holds (startOf start rows i) e.bytes := by
  have split : tableText rows = (rows.take i).flatMap Extent.bytes ++
      (e.bytes ++ tableText (rows.drop (i + 1))) := by
    obtain ⟨inside, rfl⟩ := List.getElem?_eq_some_iff.1 there
    rw [← tableText_cons, ← List.drop_eq_getElem_cons inside, tableText, tableText,
      ← List.append_assoc, ← List.flatMap_append, List.take_append_drop]
  rw [split] at held
  exact (Segment.holds_append.1 (Segment.holds_append.1 held).2).1

/-- A reader of the data of a segment, which may read up to a position at least. -/
structure Reaches (reader s : Segment) (stop : Nat) : Prop where
  data : reader.data = s.data
  stop : (stop : Int) ≤ reader.length

/-- An index agrees with a declaration that is the `i`-th of its table: the index records where it
starts, the scan and the decoder stop behind it, and every reader that reaches this far is given
what was written and stays where it is, whatever the index has been asked for before. -/
structure Agrees (s : Segment) (index : Index) (i pos : Nat) (w : Written) : Prop where
  recorded : index.table[i]? = some ⟨w.code.toNat, pos, none⟩
  scanned : scanOne s pos = .ok w.code.toNat ((pos + w.bytes.length : Nat) : Int)
  read : ∀ reader, Reaches reader s (pos + w.bytes.length) →
    Declaration.read reader pos = .ok w.declaration ((pos + w.bytes.length : Nat) : Int)
  given : ∀ reader, Reaches reader s (pos + w.bytes.length) → ∀ index', Asked s.data index index' →
    ∃ place : Fin index'.table.size, place = i ∧ ∀ here, ∃ index'',
      declareHere index' reader place here = .ok (w.declaration, index'') here

/-- Declarations that are written one after another from a position on, with a zero behind the last
and any bytes around them, are scanned, and the index agrees with each of them. -/
theorem exists_agrees {start : Nat} {rows : List Written}
    (held : s.Holds start (tableText (rows.map Written.extent))) :
    ∃ index, scanHere s start = .ok index start ∧
      index.Lists start (rows.map Written.extent) ∧
      ∀ i w, rows[i]? = some w → Agrees s index i (startOf start (rows.map Written.extent) i) w := by
  obtain ⟨index, scanned, lists⟩ := exists_lists held
  refine ⟨index, scanned, lists, fun i w there => ?_⟩
  have extent : (rows.map Written.extent)[i]? = some w.extent := by
    rw [List.getElem?_map, there]
    rfl
  generalize at_start : startOf start (rows.map Written.extent) i = pos
  have stands : s.Holds pos w.bytes := at_start ▸ holds_bytes held extent
  have row : index.table[i]? = some ⟨w.code.toNat, pos, none⟩ := by
    rw [← Array.getElem?_toList, lists.table, getElem?_recorded, extent, at_start]
    rfl
  have read (reader : Segment) (reaches : Reaches reader s (pos + w.bytes.length)) :
      Declaration.read reader pos = .ok w.declaration ((pos + w.bytes.length : Nat) : Int) :=
    w.read_of_holds ⟨reaches.data ▸ stands.stand, reaches.stop⟩
  refine ⟨row, scanOne_of_holds w.extent stands, read, fun reader reaches index' asked => ?_⟩
  rw [← reaches.data] at asked
  have faithful : Faithful (Segment.whole reader.data) index index' :=
    (faithful_of_lists lists).of_asked asked
  have row' := faithful.row i
  rw [row] at row'
  obtain ⟨a, there', same⟩ := Option.map_eq_some_iff.1 row'
  obtain ⟨inside, -⟩ := Array.getElem?_eq_some_iff.1 there'
  have offset : a.offset = pos := offset_eq_of_unread same
  let place : Fin index'.table.size := ⟨i, inside⟩
  have there'' : index'.table[(place : Nat)]? = some a := there'
  refine ⟨place, rfl, fun here => ?_⟩
  obtain ⟨index'', given⟩ := faithful.declare_of_read there'' (offset ▸ read reader reaches)
  exact ⟨index'', declareHere_eq_ok.2 ⟨given, rfl⟩⟩

/-- Two declarations, one of them without attributes, and the other with a form of two bytes. -/
def scribbled : List Written :=
  [⟨7, 0, 0, [], by decide, by decide⟩, ⟨7, 17, 1, [(3, 8), (0x11, 300)], by decide, by decide⟩]

/-- Their bytes between others. -/
def scribbledTable : Segment :=
  ⟨#[0, 9, 7, 0, 0, 0, 0, 7, 17, 1, 3, 8, 0x11, 0xac, 2, 0, 0, 0, 5], 19, .ok .big⟩

theorem exists_agrees_scribbled :
    scribbledTable.Holds 2 (tableText (scribbled.map Written.extent)) ∧
      ∃ index, scanHere scribbledTable 2 = .ok index 2 ∧
        index.Lists 2 (scribbled.map Written.extent) ∧ ∀ i w, scribbled[i]? = some w →
          Agrees scribbledTable index i (startOf 2 (scribbled.map Written.extent) i) w := by
  have short {n : Nat} (small : n < 0x80) : septets n = [UInt8.ofNat n] := by
    rw [septets, if_pos small]
  have long : septets 300 = [0xac, 2] := by
    rw [septets, if_neg (by decide), short (by decide)]
    rfl
  have text : tableText (scribbled.map Written.extent) =
      [7, 0, 0, 0, 0, 7, 17, 1, 3, 8, 0x11, 0xac, 2, 0, 0, 0] := by
    simp [scribbled, tableText, Written.extent, Extent.bytes, Declaration.spelled, short, long]
  have held : scribbledTable.Holds 2 (tableText (scribbled.map Written.extent)) :=
    text ▸ ⟨by decide, by decide⟩
  exact ⟨held, exists_agrees held⟩

end Index

end Abbreviation

end DebugScopes

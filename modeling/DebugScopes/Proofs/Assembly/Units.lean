import DebugScopes.Proofs.Assembly.Entries

/-!
# Decoding assembled units

Units that have been laid out are read one after the other. An entry is read only if there is an
item behind its code. Behind that of a bare unit comes the header of the next one; behind the last
unit comes the abbreviation table, which has no descriptors.

* `unit_read`: a unit behind which an item follows is read;
* `unit_bare`: a bare unit behind which none follows is refused;
* `units_read`: all units.
-/

namespace DebugScopes.Assembly

open Building

variable {src : Source} {plan : Plan} {texts : List String} {rows : List Row}
  {index₀ : Abbreviation.Index} {pos slot listAddr listSlot : Nat} {t : ScopeTree} {p : Progress}
  {u : CompileUnit} {after : List Piece}

/-! ### Headers -/

/-- The header of a unit is read. -/
theorem header_of_lies (lies : Lies src pos slot (u.header plan ++ after))
    (ordered : src.segment.order = .ok plan.order) (version : u.version ∈ UnitHeader.versions)
    (fits : 7 + u.bodySize < 2 ^ 32) :
    UnitHeader.read src.segment pos =
      .ok ⟨7 + u.bodySize, u.version, UnitHeader.width⟩ ((pos + 11 : Nat) : Int) := by
  obtain ⟨length, -, lies⟩ := lies
  obtain ⟨versioned, -, lies⟩ := lies
  obtain ⟨offset, -, lies⟩ := lies
  obtain ⟨wide, -, -⟩ := lies
  simp only [Piece.size, Piece.number, Piece.item, ByteOrder.length_spell] at *
  have small : ∀ version ∈ UnitHeader.versions, version < 256 ^ 2 := by decide
  have first : src.segment.word pos = _ := length.number ordered fits
  have second : src.segment.half ((pos + 4 : Nat) : Int) = _ :=
    versioned.number ordered (small _ version)
  have third : src.segment.word ((pos + 4 + 2 : Nat) : Int) = _ :=
    offset.number ordered (Nat.pow_pos (by decide))
  rw [ByteOrder.spell_one] at wide
  have fourth := wide.byte
  unfold UnitHeader.read
  rw [bind_of_ok (within_eq_ok.2 first), bind_of_ok (within_eq_ok.2 second),
    if_pos (by simpa using version), bind_of_ok (within_eq_ok.2 third),
    bind_of_ok (within_eq_ok.2 fourth)]
  rfl

theorem extent_header : extent (u.header plan) = 11 := by
  simp [CompileUnit.header, Piece.size, Piece.number, Piece.item]

theorem slotsOf_header : slotsOf (u.header plan) = 4 := rfl

theorem extent_unit (plan : Plan) (listAddr : Nat) (u : CompileUnit) :
    extent (u.pieces plan listAddr) = u.size := by
  rw [CompileUnit.pieces, extent_append, extent_header, CompileUnit.size, CompileUnit.body,
    CompileUnit.bodySize]
  cases u.entry with
  | none =>
    rw [extent_cons, extent_nil, Piece.size, Piece.number, Piece.item, ByteOrder.length_spell]
  | some entry =>
    exact congrArg (11 + ·) (extent_entry entry.1 entry.2)

/-! ### Bare units -/

theorem pieces_eq_nil {f : Field} : f.pieces plan listAddr = [] ↔ f.datum = .absent := by
  obtain ⟨attr, form, datum⟩ := f
  cases datum with
  | absent => exact ⟨fun _ => rfl, fun _ => rfl⟩
  | name | low | high | ranges | reference | item | block => exact ⟨nofun, nofun⟩

theorem fieldsPieces_eq_nil {fields : List Field} :
    fieldsPieces plan listAddr fields = [] ↔ fields.all (·.datum = .absent) := by
  induction fields generalizing listAddr with
  | nil => exact ⟨fun _ => rfl, fun _ => rfl⟩
  | cons f rest ih =>
    rw [fieldsPieces, List.append_eq_nil_iff, ih, pieces_eq_nil, List.all_cons, Bool.and_eq_true,
      decide_eq_true_iff]

theorem closingPieces_eq_nil {record : Record} :
    record.closingPieces plan = [] ↔ record.row.hasChildren = false := by
  unfold Record.closingPieces
  cases record.row.hasChildren with
  | true => exact ⟨nofun, nofun⟩
  | false => exact ⟨fun _ => rfl, fun _ => rfl⟩

/-- Behind the code of an entry come items, unless its unit is bare. -/
theorem items_of_not_bare {record : Record} {below : Forest}
    (entry : u.entry = some (record, below)) (clad : u.bare = false) :
    fieldsPieces plan listAddr record.fields ++
        (below.pieces plan (listAddr + listsSize record.lists) ++ record.closingPieces plan) ≠
      [] := by
  intro empty
  rw [List.append_eq_nil_iff, List.append_eq_nil_iff, fieldsPieces_eq_nil,
    closingPieces_eq_nil] at empty
  obtain ⟨absent, -, childless⟩ := empty
  rw [CompileUnit.bare, entry] at clad
  simp only [childless, absent, Bool.not_false, Bool.true_and, Bool.true_eq_false] at clad

/-- Of a bare unit's entry there is the code alone. -/
theorem body_of_bare {record : Record} {below : Forest} (entry : u.entry = some (record, below))
    (allows : record.Allows below) (bare : u.bare) :
    u.body plan listAddr = [.number plan.order 1 record.row.code] := by
  rw [CompileUnit.bare, entry, Bool.and_eq_true, Bool.not_eq_true'] at bare
  obtain ⟨childless, absent⟩ := bare
  have nil : below = .nil := allows childless
  rw [CompileUnit.body, entry]
  show Record.pieces plan listAddr record ++ (below.pieces plan _ ++ record.closingPieces plan) = _
  rw [closingPieces_eq_nil.2 childless, nil, Record.pieces, fieldsPieces_eq_nil.2 absent]
  rfl

theorem exists_entry_of_bare (bare : u.bare) : ∃ record below, u.entry = some (record, below) := by
  unfold CompileUnit.bare at bare
  cases entry : u.entry with
  | none =>
    rw [entry] at bare
    cases bare
  | some found => exact ⟨found.1, found.2, rfl⟩

theorem size_of_bare {record : Record} {below : Forest} (entry : u.entry = some (record, below))
    (allows : record.Allows below) (bare : u.bare) : u.size = 11 + 1 := by
  rw [← extent_unit ⟨.little, fun _ => 0⟩ 0, CompileUnit.pieces, extent_append,
    extent_header, body_of_bare entry allows bare, extent_cons, extent_nil, Piece.size,
    Piece.number, Piece.item, ByteOrder.length_spell]

/-! ### One unit -/

theorem bodySize_of_entry {record : Record} {below : Forest}
    (entry : u.entry = some (record, below)) :
    u.bodySize = record.size + below.size + record.closing := by
  rw [CompileUnit.bodySize, entry]

/-- Behind the code of a unit's entry there is an item, if one follows the unit when it is bare. -/
theorem followed_of_unit {record : Record} {below : Forest} (entry : u.entry = some (record, below))
    (allows : record.Allows below)
    (lies : Lies src (pos + 11) (slot + 4) (u.body plan listAddr))
    (followed : u.bare → src.items.slot? ((pos + u.size : Nat) : Int) =
      some (slot + slotsOf (u.pieces plan listAddr))) :
    src.items.slot? ((pos + 11 + 1 : Nat) : Int) = some (slot + 4 + 1) := by
  cases bare : u.bare with
  | false =>
    rw [CompileUnit.body, entry] at lies
    exact followed_of_items lies (items_of_not_bare entry bare)
      ((items_fields _).append ((items_forest _).append (items_closing _)))
  | true =>
    have next := followed bare
    rwa [size_of_bare entry allows bare, CompileUnit.pieces,
      slotsOf_append, slotsOf_header, body_of_bare entry allows bare] at next

/-- The entries of a unit are read into the tree. -/
theorem body_read (prepared : Prepared src plan texts rows index₀) (valid : u.Valid rows)
    (known : ∀ text ∈ u.texts, text ∈ texts) (reached : Reached src index₀ (pos + 11) t p)
    (inside : Inside src (pos + 11) u.bodySize)
    (lies : Lies src (pos + 11) (slot + 4) (u.body plan listAddr))
    (followed : u.bare →
      src.items.slot? ((pos + u.size : Nat) : Int) = some (slot + slotsOf (u.pieces plan listAddr)))
    (lists : Lies src listAddr listSlot (u.lists.flatMap (·.pieces plan.order))) :
    ∃ found last, UnitBody src pos p found last ∧
      Reached src index₀ (pos + u.size) (u.grow src.infoStart pos t) last := by
  cases entry : u.entry with
  | none =>
    rw [CompileUnit.body, entry] at lies
    rw [CompileUnit.bodySize, entry] at inside
    obtain ⟨p', read, reached'⟩ := head_closing .root reached inside lies
    refine ⟨false, p', .empty read, ?_⟩
    rw [CompileUnit.size, CompileUnit.bodySize, CompileUnit.grow, entry]
    exact reached'
  | some found =>
    obtain ⟨record, below⟩ := found
    obtain ⟨recordValid, allows, belowValid⟩ := valid.record record below entry
    have next := followed_of_unit entry allows lies followed
    rw [CompileUnit.body, entry] at lies
    rw [CompileUnit.texts, entry] at known
    rw [CompileUnit.lists, entry, List.flatMap_append] at lists
    rw [bodySize_of_entry entry] at inside
    rw [CompileUnit.size, bodySize_of_entry entry, CompileUnit.grow, entry]
    have listsBehind := lists.right
    rw [extent_lists] at listsBehind
    obtain ⟨p', read, reached'⟩ := entry_read prepared recordValid allows
      (fun text mem => known text (List.mem_append_left _ mem)) reached inside lies next lists.left
      fun reached inside lies => below_forest prepared below belowValid
        (fun text mem => known text (List.mem_append_right _ mem)) reached inside lies listsBehind
    refine ⟨true, p', read.unitBody, ?_⟩
    rw [← Nat.add_assoc]
    exact reached'

theorem quiet_unitNotices {start stop : Int} {header : UnitHeader} {found : Bool}
    (honest : stop = start + 4 + header.length) :
    ∀ n ∈ unitNotices start header found stop, n.level = .debug := by
  intro n mem
  rw [unitNotices, if_pos honest, List.append_nil] at mem
  cases found with
  | true => exact absurd mem List.not_mem_nil
  | false =>
    rw [if_neg Bool.false_ne_true] at mem
    rw [List.mem_singleton.1 mem]
    rfl

/-- A unit that has been laid out is read into the tree, if an item follows it when it is bare. -/
theorem unit_read (prepared : Prepared src plan texts rows index₀) (valid : u.Valid rows)
    (known : ∀ text ∈ u.texts, text ∈ texts) (reached : Reached src index₀ pos t p)
    (inside : Inside src pos u.size) (lies : Lies src pos slot (u.pieces plan listAddr))
    (followed : u.bare →
      src.items.slot? ((pos + u.size : Nat) : Int) = some (slot + slotsOf (u.pieces plan listAddr)))
    (lists : Lies src listAddr listSlot (u.lists.flatMap (·.pieces plan.order))) :
    ∃ p', unit src p = .ok () p' ∧
      Reached src index₀ (pos + u.size) (u.grow src.infoStart pos t) p' := by
  have size : u.size = 11 + u.bodySize := rfl
  have short := lies.short
  have small := prepared.small
  rw [extent_unit] at short
  have headed := header_of_lies lies prepared.order valid.version (by omega)
  have body := lies.right
  rw [extent_header, slotsOf_header] at body
  obtain ⟨q, index, tree, notices⟩ := p
  obtain ⟨rfl, rfl, faithful, quiet⟩ := reached
  obtain ⟨found, last, read, reached'⟩ := body_read
    (p := ⟨((pos + 11 : Nat) : Int), index, tree, notices⟩) prepared valid known
    ⟨rfl, rfl, faithful, quiet⟩ (inside.part (by omega) (by omega)) body followed lists
  refine ⟨_, unit_eq_ok.2 ⟨_, found, last, ⟨headed, read, rfl⟩⟩, ?_⟩
  obtain ⟨q', index', tree', notices'⟩ := last
  obtain ⟨rfl, rfl, faithful', quiet'⟩ := reached'
  refine ⟨rfl, rfl, faithful', fun n mem => ?_⟩
  rcases Array.mem_append.1 mem with before | new
  · exact quiet' n before
  · refine quiet_unitNotices ?_ n (by simpa using new)
    show ((pos + u.size : Nat) : Int) = pos + 4 + (7 + u.bodySize : Nat)
    omega

/-! ### A bare unit at the end -/

/-- An entry is refused when there is no item behind its code. -/
theorem head_unfollowed {unit : Int} {frame : Frame} {code : Nat}
    (inside : src.infoStart ≤ p.pos ∧ p.pos < src.abbrevStart)
    (coded : src.segment.byte p.pos = .ok code (p.pos + 1)) (code_ne : code ≠ 0)
    (lost : src.items.slot? (p.pos + 1) = none) :
    head src unit frame p =
      .error (.ofDamage (.noEntryDescriptor p.pos)) { p with pos := p.pos + 1 } := by
  have refused : firstSlot src p.pos { p with pos := p.pos + 1 } =
      .error (.ofDamage (.noEntryDescriptor p.pos)) { p with pos := p.pos + 1 } := by
    unfold firstSlot
    rw [bind_of_ok (show (get : Building Progress) _ = .ok _ _ from rfl)]
    dsimp only
    rw [lost]
    rfl
  unfold head headBy
  rw [bind_of_ok (show (get : Building Progress) p = .ok p p from rfl), if_neg (by omega),
    bind_of_ok (code_eq_ok.2 ⟨coded, rfl⟩), if_neg code_ne]
  exact bind_of_error refused

/-- The entry of a bare unit is refused when no item follows it. -/
theorem unitEntry_bare {start : Int} (prepared : Prepared src plan texts rows index₀)
    (valid : u.Valid rows) (bare : u.bare) (at_body : p.pos = (pos : Int))
    (inside : Inside src pos 1) (lies : Lies src pos slot (u.body plan listAddr))
    (last : src.items.slot? ((pos + 1 : Nat) : Int) = none) :
    unitEntry src start p =
      .error (.ofDamage (.noEntryDescriptor pos)) { p with pos := p.pos + 1 } := by
  obtain ⟨record, below, entry⟩ := exists_entry_of_bare bare
  obtain ⟨recordValid, allows, -⟩ := valid.record record below entry
  have row := prepared.valid record.row recordValid.row
  rw [body_of_bare entry allows bare] at lies
  have failed : head src start .root p = _ :=
    head_unfollowed (at_body ▸ inside.starts Nat.one_pos) (at_body ▸ lies.code row.code)
      row.positive (at_body ▸ last)
  rw [at_body] at failed
  rw [at_body]
  exact bind_of_error failed

/-- A unit whose header is read and whose entry is refused. -/
theorem unit_of_refused {header : UnitHeader} {start stop : Int} {e : Failure} {p' : Progress}
    (at_start : p.pos = start) (headed : UnitHeader.read src.segment start = .ok header stop)
    (refused : unitEntry src start { p with pos := stop } = .error e p') :
    unit src p = .error (e.through .unitEntry) p' := by
  have read : within .unitHeader (Building.reading (UnitHeader.read src.segment)) p =
      .ok header { p with pos := stop } :=
    within_eq_ok.2 (reading_eq_ok.2 ⟨stop, at_start ▸ headed, rfl⟩)
  unfold unit unitBy
  rw [bind_of_ok (show (get : Building Progress) p = .ok p p from rfl)]
  show (within .unitHeader (Building.reading (UnitHeader.read src.segment)) >>= _) p = _
  rw [bind_of_ok read, at_start]
  exact bind_of_error (within_of_error refused)

/-- A bare unit that no item follows is refused. -/
theorem unit_bare (prepared : Prepared src plan texts rows index₀) (valid : u.Valid rows)
    (bare : u.bare) (reached : Reached src index₀ pos t p) (inside : Inside src pos u.size)
    (lies : Lies src pos slot (u.pieces plan listAddr))
    (last : src.items.slot? ((pos + u.size : Nat) : Int) = none) :
    ∃ p', unit src p =
        .error ((Failure.ofDamage (.noEntryDescriptor (pos + 11 : Nat))).through .unitEntry) p' ∧
      ∀ n ∈ p'.notices, n.level = .debug := by
  obtain ⟨record, below, entry⟩ := exists_entry_of_bare bare
  have size := size_of_bare entry (valid.record record below entry).2.1 bare
  have whole : u.size = 11 + u.bodySize := rfl
  have short := lies.short
  have small := prepared.small
  rw [extent_unit] at short
  have headed := header_of_lies lies prepared.order valid.version (by omega)
  have body := lies.right
  rw [extent_header] at body
  rw [size] at inside last
  have refused : unitEntry src pos { p with pos := (pos + 11 : Nat) } = _ :=
    unitEntry_bare prepared valid bare rfl (inside.part (by omega) (by omega)) body last
  exact ⟨_, unit_of_refused reached.pos headed refused, reached.quiet⟩

/-! ### All units -/

/-- The number of bytes of units. -/
def unitsSize (us : List CompileUnit) : Nat := (us.map (·.size)).sum

/-- What has become of reading units: the tree that they describe, or the refusal of a bare unit at
the end. -/
def Outcome (src : Source) (index₀ : Abbreviation.Index) (pos : Nat) (us : List CompileUnit)
    (t : ScopeTree) (p : Progress) : Prop :=
  match bareEnd? pos us with
  | none => ∃ p', units src p = .ok () p' ∧
      Reached src index₀ (pos + unitsSize us) (unitsGrow src.infoStart pos us t) p'
  | some addr => ∃ p', units src p =
        .error ((Failure.ofDamage (.noEntryDescriptor addr)).through .unitEntry) p' ∧
      ∀ n ∈ p'.notices, n.level = .debug

/-- A unit that is read leaves the others to be read. -/
theorem units_of_unit {p₁ : Progress} (more : p.pos < src.abbrevStart)
    (read : unit src p = .ok () p₁) : units src p = units src p₁ := by
  rw [units_eq, if_pos more, read]

/-- Behind the units, nothing is left to read. -/
theorem units_ended (reached : Reached src index₀ pos t p) (ended : (pos : Int) = src.abbrevStart) :
    units src p = .ok () p := by
  rw [units_eq, if_neg]
  rw [reached.pos, ended]
  exact Int.lt_irrefl _

/-- The last unit is read, unless it is bare. -/
theorem units_last (prepared : Prepared src plan texts rows index₀) (valid : u.Valid rows)
    (known : ∀ text ∈ u.texts, text ∈ texts) (reached : Reached src index₀ pos t p)
    (starts : src.infoStart ≤ pos) (ends : ((pos + u.size : Nat) : Int) = src.abbrevStart)
    (lies : Lies src pos slot (u.pieces plan listAddr))
    (last : src.items.slot? ((pos + u.size : Nat) : Int) = none)
    (lists : Lies src listAddr listSlot (u.lists.flatMap (·.pieces plan.order))) :
    Outcome src index₀ pos [u] t p := by
  have inside : Inside src pos u.size := ⟨starts, Int.le_of_eq ends⟩
  have positive : u.size = 11 + u.bodySize := rfl
  have more : p.pos < src.abbrevStart := by rw [reached.pos]; omega
  unfold Outcome bareEnd?
  cases bare : u.bare with
  | true =>
    obtain ⟨p', refused, quiet⟩ := unit_bare prepared valid bare reached inside lies last
    refine ⟨p', ?_, quiet⟩
    rw [units_eq, if_pos more, refused]
  | false =>
    obtain ⟨p₁, read, reached₁⟩ := unit_read prepared valid known reached inside lies
      (fun naked => by rw [bare] at naked; cases naked) lists
    refine ⟨p₁, ?_, reached₁⟩
    rw [units_of_unit more read, units_ended reached₁ ends]

/-- Units are read one after the other. -/
theorem units_read {us : List CompileUnit} (prepared : Prepared src plan texts rows index₀)
    (valid : ∀ u ∈ us, u.Valid rows) (known : ∀ text ∈ us.flatMap (·.texts), text ∈ texts)
    (reached : Reached src index₀ pos t p) (starts : src.infoStart ≤ pos)
    (ends : ((pos + unitsSize us : Nat) : Int) = src.abbrevStart)
    (lies : Lies src pos slot (unitsPieces plan listAddr us))
    (last : src.items.slot? ((pos + unitsSize us : Nat) : Int) = none)
    (lists : Lies src listAddr listSlot ((us.flatMap (·.lists)).flatMap (·.pieces plan.order))) :
    Outcome src index₀ pos us t p := by
  induction us generalizing pos slot listAddr listSlot t p with
  | nil => exact ⟨p, units_ended reached ends, reached⟩
  | cons u rest ih =>
    have size : unitsSize (u :: rest) = u.size + unitsSize rest := rfl
    have positive : u.size = 11 + u.bodySize := rfl
    have inside : Inside src pos u.size := ⟨starts, by omega⟩
    have more : p.pos < src.abbrevStart := by rw [reached.pos]; omega
    rw [List.flatMap_cons] at known lists
    rw [List.flatMap_append] at lists
    rw [unitsPieces] at lies
    have uValid := valid u List.mem_cons_self
    have uKnown : ∀ text ∈ u.texts, text ∈ texts := fun text mem =>
      known text (List.mem_append_left _ mem)
    have behind := lies.right
    have listsBehind := lists.right
    rw [extent_unit] at behind
    rw [extent_lists] at listsBehind
    rw [size, ← Nat.add_assoc] at ends last
    cases rest with
    | nil => exact units_last prepared uValid uKnown reached starts ends lies.left last lists.left
    | cons next others =>
      have followed : src.items.slot? ((pos + u.size : Nat) : Int) =
          some (slot + slotsOf (u.pieces plan listAddr)) := (behind.2.1 rfl).found
      obtain ⟨p₁, read, reached₁⟩ := unit_read prepared uValid uKnown reached inside lies.left
        (fun _ => followed) lists.left
      have outcome := ih (fun v mem => valid v (List.mem_cons_of_mem _ mem))
        (fun text mem => known text (List.mem_append_right _ mem)) reached₁ (by omega) ends behind
        last listsBehind
      unfold Outcome at outcome ⊢
      rw [bareEnd?, units_of_unit more read, size, ← Nat.add_assoc]
      exact outcome

end DebugScopes.Assembly

import DebugScopes.Proofs.Decoding.ClassNames
import DebugScopes.Proofs.Image.Respelling
import DebugScopes.Proofs.Session.History

/-!
# The entry point only marks the start

What is decoded does not depend on the entry point that is set: either the decoding fails alike for
every one, or there is one tree, and the entry point only marks where the program starts in it. That
is the first entry in the listing with this name, as names were read and not yet handed on, that has
code. Where there is none, the entry point is told to be missing, unless it cannot be put into
words.

* `ScopeTree.MayStart` and `ScopeTree.Starts`: where a program may start, and where it does;
* `ScopeTree.complete_startingAt`: handing names on does not look at the start;
* `build_anchored`: one tree for all entry points.
-/

namespace DebugScopes

open Building
open Abbreviation (Index)

namespace ScopeTree

variable {t t' : ScopeTree} {entryPoint : Value} {i : Nat}

/-! ### Where a program starts -/

/-- A program may start at an entry that has the wanted name when it has been read, before names are
handed on, and that has code. -/
structure MayStart (before t : ScopeTree) (entryPoint : Value) (i : Nat) : Prop where
  listed : i ∈ t.listing
  called : (Value.ofName (before.nameOf i)).same entryPoint = true
  code : ∃ e, t.get? i = some e ∧ e.ranges ≠ []

/-- It starts at the first such entry in the listing. -/
structure Starts (before t : ScopeTree) (entryPoint : Value) (i : Nat) : Prop where
  may : MayStart before t entryPoint i
  first : ∃ front back, t.listing = front ++ i :: back ∧
    ∀ j ∈ front, ¬ MayStart before t entryPoint j

theorem isStart_iff (renamed : Renamed t t') (listed : i ∈ t.listing) :
    t.isStart entryPoint i = true ↔ MayStart t t' entryPoint i := by
  have ranges : (∃ e, t'.get? i = some e ∧ e.ranges ≠ []) ↔
      ∃ e, t.get? i = some e ∧ e.ranges ≠ [] := by
    obtain ⟨name, same⟩ := renamed.get? i
    rw [same]
    cases t.get? i with
    | none => simp
    | some e => simp [named]
  unfold isStart
  constructor
  · intro start
    cases found : t.get? i with
    | none =>
      rw [found] at start
      cases start
    | some e =>
      rw [found, Bool.and_eq_true] at start
      refine ⟨renamed.listing ▸ listed, ?_, ranges.2 ⟨e, found, ?_⟩⟩
      · rw [nameOf, found]
        exact start.1
      · simpa using start.2
  · rintro ⟨-, called, code⟩
    obtain ⟨e, found, some_range⟩ := ranges.1 code
    rw [nameOf, found] at called
    rw [found, Bool.and_eq_true]
    exact ⟨called, by simpa using some_range⟩

/-- The start that is looked for is the first entry where the program may start. -/
theorem start?_eq_some_iff (renamed : Renamed t t') :
    t.start? entryPoint = some i ↔ Starts t t' entryPoint i := by
  have agree (j : Nat) (listed : j ∈ t.listing) :
      t.isStart entryPoint j = true ↔ MayStart t t' entryPoint j := isStart_iff renamed listed
  unfold start?
  rw [List.find?_eq_some_iff_append]
  constructor
  · rintro ⟨start, front, back, parts, others⟩
    refine ⟨(agree i (by simp [parts])).1 start, front, back, renamed.listing.trans parts,
      fun j mem may => ?_⟩
    have start := (agree j (by simp [parts, mem])).2 may
    simpa [start] using others j mem
  · rintro ⟨may, front, back, parts, others⟩
    rw [renamed.listing] at parts
    refine ⟨(agree i (by simp [parts])).2 may, front, back, parts, fun j mem => ?_⟩
    have no := mt (agree j (by simp [parts, mem])).1 (others j mem)
    simpa using no

/-- If the program may start nowhere, no start is found. -/
theorem start?_eq_none_iff (renamed : Renamed t t') :
    t.start? entryPoint = none ↔ ∀ i, ¬ MayStart t t' entryPoint i := by
  unfold start?
  rw [List.find?_eq_none]
  constructor
  · intro none_starts i may
    have listed : i ∈ t.listing := renamed.listing ▸ may.listed
    exact none_starts i listed ((isStart_iff renamed listed).2 may)
  · intro none_may i listed start
    exact none_may i ((isStart_iff renamed listed).1 start)

/-! ### Handing names on -/

theorem completeOne_startingAt (t : ScopeTree) (start i : Nat) :
    (t.startingAt start).completeOne i =
      ((t.completeOne i).1.startingAt start, (t.completeOne i).2) := by
  unfold completeOne
  rw [show (t.startingAt start).referenceOf i = t.referenceOf i from rfl]
  cases t.referenceOf i with
  | none => rfl
  | some reference =>
    dsimp only
    rw [show (t.startingAt start).entryAt? reference.2 = t.entryAt? reference.2 from rfl]
    cases t.entryAt? reference.2 <;> rfl

theorem completeIn_startingAt (t : ScopeTree) (start : Nat) (row : List Nat) :
    (t.startingAt start).completeIn row =
      ((t.completeIn row).1.startingAt start, (t.completeIn row).2) := by
  induction row generalizing t with
  | nil => rfl
  | cons i row ih =>
    simp only [completeIn, completeOne_startingAt, ih]

/-- Handing names on does not look at the start. -/
theorem complete_startingAt (t : ScopeTree) (start : Nat) :
    (t.startingAt start).complete = (t.complete.1.startingAt start, t.complete.2) := by
  unfold complete
  rw [(renamed_startingAt t start).listing]
  exact completeIn_startingAt t start t.listing

end ScopeTree

/-! ### One tree for all entry points -/

theorem Session.build_iff_decoder {decoder : Decoder} {s : Session} {t : ScopeTree}
    (graphless : s.settings.graphFile = .null) :
    (∃ s', Session.build decoder s = .ok t s') ↔
      (decoder s.settings.order s.settings.entryPoint).1 = .ok t :=
  ⟨fun ⟨_, built⟩ => (decode_of_build built).1,
    fun decoded => build_of_ok (Prod.ext decoded rfl) graphless⟩

theorem Session.build_error_of_decoder {decoder : Decoder} {s : Session} {e : Failure}
    (failed : (decoder s.settings.order s.settings.entryPoint).1 = .error e) :
    ∃ s', Session.build decoder s = .error (.decoding e) s' := by
  obtain ⟨s', run, -⟩ := build_of_error (Prod.ext failed rfl)
  exact ⟨s', run⟩

/-- Before the entry point is looked for, the decoding has failed or all entries have been read. -/
theorem decode_cases (src : Source) :
    (∃ e, ∀ entryPoint, (ScopeTree.decode src entryPoint).1 = .error e) ∨
      ∃ index p, Index.scan src.segment src.abbrevStart = .ok index ∧
        units src (indexed src index) = .ok () p := by
  cases scanned : Index.scan src.segment src.abbrevStart with
  | error e =>
    refine .inl ⟨e.through .abbreviationTable, fun entryPoint => ?_⟩
    unfold ScopeTree.decode outcome program programBy
    rw [bind_of_error (table_of_scan_error scanned)]
  | ok index =>
    cases read : units src (indexed src index) with
    | error e p =>
      refine .inl ⟨e, fun entryPoint => ?_⟩
      rw [decode_of_units_error scanned read]
    | ok u p => exact .inr ⟨index, p, rfl, read⟩

/-- Every range of an entry that has been read is closed. -/
theorem Recorded.isOpen_eq {src : Source} {index : Index} {t : ScopeTree}
    {record : Nat → Description} (recorded : Recorded src index t record) {i : Nat} {e : Entry}
    (found : t.get? i = some e) : ∀ r ∈ e.ranges, r.isOpen = false := by
  intro r mem
  by_cases root : i = 0
  · subst root
    have bare : e.ranges = [] := congrArg Description.ranges (recorded.root_blank e found)
    simp [bare] at mem
  · obtain ⟨parent, place, d, slot, -, -, reading, same⟩ :=
      recorded.entry (Nat.pos_of_ne_zero root) found
    have ranges : e.ranges = (record i).settled.ranges := by
      rw [same]
      rfl
    rw [ranges, reading.settled_eq] at mem
    exact RangeMark.isOpen_closed mem

/-- Handing names on hands them on along the references. -/
theorem Sound.completed_complete {src : Source} {index : Index} {p : Progress}
    (sound : Sound src index p) (listed : p.tree.listing = List.range' 1 p.tree.size) :
    ScopeTree.Completed p.tree p.tree.complete.1 := by
  refine ScopeTree.completed_complete ?_ (fun i mem => ?_) ?_
  · rw [listed]
    exact List.nodup_range'
  · obtain ⟨positive, inside⟩ := (mem_listing_iff listed).1 mem
    exact sound.isSome_addrOf positive inside
  · intro addr i
    rw [mem_listing_iff listed]
    exact sound.entryAt?_iff_addrOf

/-- What is decoded of the entries that have been read: the same tree for every entry point, and the
start marked in it, if there is one. -/
theorem decode_of_read {src : Source} {index : Index} {p : Progress}
    (scanned : Index.scan src.segment src.abbrevStart = .ok index)
    (read : units src (indexed src index) = .ok () p) (entryPoint : Value) :
    (ScopeTree.decode src entryPoint).1 =
      match p.tree.start? entryPoint, entryPoint.shown? with
      | some i, _ => .ok (p.tree.complete.1.startingAt i)
      | none, some name => .error (.ofDamage (.noEntryPoint name))
      | none, none => .error (.ofCause .illegible) := by
  rw [decode_of_units_ok scanned read, outcome_finish]
  unfold ScopeTree.started
  cases p.tree.start? entryPoint with
  | some i => exact congrArg Except.ok (congrArg Prod.fst (p.tree.complete_startingAt i))
  | none => cases entryPoint.shown? <;> rfl

/-- Whatever an image holds, and in whatever order its bytes are read: either the decoding fails
alike for every entry point, or there is one tree, with nothing but closed ranges, and for every
entry point a tree is built exactly if the program may start somewhere, and is that tree with the
first such entry marked. If it may start nowhere, the entry point is told to be missing, unless it
cannot be put into words. -/
theorem build_anchored (image : Image) (order : Except OrderFault ByteOrder) :
    (∃ e, ∀ s : Session, s.settings.order = order →
      ∃ s', Session.build image.decoder s = .error (.decoding e) s') ∨
    ∃ p t, (do
        table (.of image order)
        units (.of image order)) (.start (.of image order)) = .ok () p ∧
      ScopeTree.Completed p.tree t ∧
      (∀ i e, t.get? i = some e → ∀ r ∈ e.ranges, r.isOpen = false) ∧
      ∀ s : Session, s.settings.order = order → s.settings.graphFile = .null →
        (∀ built, (∃ s', Session.build image.decoder s = .ok built s') ↔
          ∃ i, ScopeTree.Starts p.tree t s.settings.entryPoint i ∧ built = t.startingAt i) ∧
        ((∀ i, ¬ ScopeTree.MayStart p.tree t s.settings.entryPoint i) →
          ∃ e s', Session.build image.decoder s = .error (.decoding e) s' ∧
            e.cause = match s.settings.entryPoint.shown? with
              | some name => .damage (.noEntryPoint name)
              | none => .illegible) := by
  rcases decode_cases (.of image order) with ⟨e, failed⟩ | ⟨index, p, scanned, read⟩
  · refine .inl ⟨e, fun s ordered => Session.build_error_of_decoder ?_⟩
    rw [ordered]
    exact failed s.settings.entryPoint
  · have units := units_eq_ok.1 read
    obtain ⟨sound, grown⟩ := (sound_indexed scanned).units units
    obtain ⟨record, recorded, -, -⟩ :=
      (recorded_indexed _ index).units (Index.faithful_scan scanned) units
    have completed := sound.completed_complete grown.listing_eq
    have renamed := completed.renamed
    refine .inr ⟨p, p.tree.complete.1, bind_eq_ok.2 ⟨(), _, table_eq_ok.2 ⟨index, scanned, rfl⟩,
      read⟩, completed, fun i e found => ?_, fun s ordered graphless => ?_⟩
    · obtain ⟨old, there, same⟩ := renamed.get?_inv found
      have closed := recorded.isOpen_eq there
      rw [same]
      exact closed
    · have decoded : (image.decoder s.settings.order s.settings.entryPoint).1 = _ :=
        ordered ▸ decode_of_read scanned read s.settings.entryPoint
      refine ⟨fun built => ?_, fun nowhere => ?_⟩
      · rw [Session.build_iff_decoder graphless, decoded]
        simp only [← ScopeTree.start?_eq_some_iff renamed]
        cases p.tree.start? s.settings.entryPoint with
        | some i => simp [eq_comm]
        | none => cases s.settings.entryPoint.shown? <;> simp
      · rw [(ScopeTree.start?_eq_none_iff renamed).2 nowhere] at decoded
        cases shown : s.settings.entryPoint.shown? with
        | some name =>
          rw [shown] at decoded
          obtain ⟨s', run⟩ := Session.build_error_of_decoder decoded
          exact ⟨_, s', run, rfl⟩
        | none =>
          rw [shown] at decoded
          obtain ⟨s', run⟩ := Session.build_error_of_decoder decoded
          exact ⟨_, s', run, rfl⟩

/-- A session with an entry point of its own. -/
def Session.startingAt (entryPoint : Value) : Session :=
  { blank true .empty with
    settings := (blank true .empty).settings.set .entryPoint entryPoint }

/-- With the entry point of the defaults a tree is built of the image with nested classes. -/
theorem exists_build_main : ∃ t s',
    Session.build nestedClassesImage.decoder (.startingAt (.text "main")) = .ok t s' ∧
      t.runtimeRoot = some 5 := by
  refine exists_ok_of ?_
  decide +kernel

/-- Of the two methods `main` of this image the entry point marks the one in no class, unless it
names the class. -/
theorem build_anchored_nested : ∃ p t,
    (do table (.of nestedClassesImage (.ok .little))
        units (.of nestedClassesImage (.ok .little)))
      (.start (.of nestedClassesImage (.ok .little))) = .ok () p ∧
      ScopeTree.Completed p.tree t ∧
      (∃ s', Session.build nestedClassesImage.decoder (.startingAt (.text "main")) =
        .ok (t.startingAt 5) s') ∧
      ScopeTree.Starts p.tree t (.text "main") 5 ∧
      (∃ s', Session.build nestedClassesImage.decoder (.startingAt (.text "B::main")) =
        .ok (t.startingAt 4) s') ∧
      ScopeTree.Starts p.tree t (.text "B::main") 4 := by
  have qualified : ∃ t s', Session.build nestedClassesImage.decoder
      (.startingAt (.text "B::main")) = .ok t s' ∧ t.runtimeRoot = some 4 := by
    refine exists_ok_of ?_
    decide +kernel
  obtain ⟨t₁, s₁, built₁, root₁⟩ := exists_build_main
  obtain ⟨t₂, s₂, built₂, root₂⟩ := qualified
  rcases build_anchored nestedClassesImage (.ok .little) with
    ⟨e, failed⟩ | ⟨p, t, ran, completed, -, anchored⟩
  · obtain ⟨s', run⟩ := failed (.startingAt (.text "main")) rfl
    rw [built₁] at run
    cases run
  · obtain ⟨i, starts₁, rfl⟩ :=
      ((anchored (.startingAt (.text "main")) rfl rfl).1 t₁).1 ⟨s₁, built₁⟩
    obtain ⟨j, starts₂, rfl⟩ :=
      ((anchored (.startingAt (.text "B::main")) rfl rfl).1 t₂).1 ⟨s₂, built₂⟩
    cases root₁
    cases root₂
    exact ⟨p, t, ran, completed, ⟨s₁, built₁⟩, starts₁, ⟨s₂, built₂⟩, starts₂⟩

/-- An entry point that is missing is not always told to be. -/
theorem wordless_entryPoint_not_missing :
    ¬ ∀ (image : Image) (order : Except OrderFault ByteOrder),
      (∃ e, ∀ s : Session, s.settings.order = order →
        ∃ s', Session.build image.decoder s = .error (.decoding e) s') ∨
      ∀ s : Session, s.settings.order = order → s.settings.graphFile = .null →
        (∃ t s', Session.build image.decoder s = .ok t s') ∨
        ∃ e s' name, Session.build image.decoder s = .error (.decoding e) s' ∧
          e.damage? = some (.noEntryPoint name) := by
  have wordless : buildCause? (Session.build nestedClassesImage.decoder
      (.startingAt (.int (10 ^ Numeral.longestDecimal)))) = some .illegible := by decide +kernel
  intro missing
  rcases missing nestedClassesImage (.ok .little) with ⟨e, failed⟩ | ends
  · obtain ⟨t, s, built, -⟩ := exists_build_main
    obtain ⟨s', run⟩ := failed (.startingAt (.text "main")) rfl
    rw [built] at run
    cases run
  · rcases ends (.startingAt (.int (10 ^ Numeral.longestDecimal))) rfl rfl with
      ⟨t, s', run⟩ | ⟨e, s', name, run, told⟩
    · rw [run] at wordless
      cases wordless
    · rw [run] at wordless
      have wordless : some e.cause = some .illegible := wordless
      rw [Failure.damage?, Option.some.inj wordless] at told
      cases told

end DebugScopes

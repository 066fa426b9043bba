import DebugScopes.Proofs.Abbreviation.Scanning
import DebugScopes.Proofs.Session.History

/-!
# What a build warns of

The length in a unit's header is not used to find the next unit: that starts where the entries of
the unit end. It is only compared with that end, and a unit whose entries end elsewhere is warned
of, as are declarations of codes that had been declared. So a build that warns of no unit has read
the units from where the lengths alone would have led.

* `Building.spans`: where the units start and end that are read;
* `Building.Units.warned_eq`: reading units warns of those that stray;
* `Building.starts_eq_headersFrom`: units that do not stray start where the lengths lead;
* `Session.warnings_of_build`: what is posted as a warning by a build.
-/

namespace DebugScopes

open Abbreviation Building Console

/-! ### Units and their lengths -/

/-- A unit that is read: where its header starts, the length that the header declares, and where
its entries end. -/
structure UnitSpan where
  start : Int
  length : Nat
  stop : Int
deriving DecidableEq, Repr

namespace UnitSpan

/-- The entries end elsewhere than the header says, whose length does not count itself. -/
def Strays (u : UnitSpan) : Prop := u.stop ≠ u.start + 4 + u.length

instance (u : UnitSpan) : Decidable u.Strays := inferInstanceAs (Decidable (_ ≠ _))

/-- The notice of a unit that strays. -/
def notice (u : UnitSpan) : Notice := .unitLength u.start u.length u.stop

end UnitSpan

namespace Segment

/-- The length that is declared at a position. -/
def lengthAt (s : Segment) (pos : Int) : Nat :=
  match s.word pos with
  | .ok length _ => length
  | .error _ _ => 0

/-- The positions in front of `stop` to which lengths lead, each of which stands at a position and
counts the bytes behind itself. -/
def headersFrom (s : Segment) (stop pos : Int) : List Int :=
  if pos < stop then pos :: headersFrom s stop (pos + 4 + s.lengthAt pos) else []
termination_by (stop - pos).toNat

end Segment

namespace Building

variable {src : Source} {unit start : Int} {frame : Frame} {p p' last : Progress}
  {header : UnitHeader} {found : Bool}

/-- The units that are read from a position on, up to a failure. -/
def spans (src : Source) (p : Progress) : List UnitSpan :=
  if p.pos < src.abbrevStart then
    match _read : Building.unit src p with
    | .ok () after => ⟨p.pos, src.segment.lengthAt p.pos, after.pos⟩ :: spans src after
    | .error _ _ => []
  else []
termination_by (src.abbrevStart - p.pos).toNat
decreasing_by
  have moved := unit_ok _read
  omega

theorem spans_eq (src : Source) (p : Progress) :
    spans src p =
      if p.pos < src.abbrevStart then
        match Building.unit src p with
        | .ok () after => ⟨p.pos, src.segment.lengthAt p.pos, after.pos⟩ :: spans src after
        | .error _ _ => []
      else [] := by
  rw [spans]
  split
  · split <;> simp_all
  · rfl

end Building

/-- The units of an image that are read. -/
def Image.unitSpans (image : Image) (order : Except OrderFault ByteOrder) : List UnitSpan :=
  let src := Source.of image order
  match Index.scan src.segment src.abbrevStart with
  | .ok index => spans src (indexed src index)
  | .error _ => []

namespace Building

variable {src : Source} {unit start : Int} {frame : Frame} {p p' last : Progress}
  {header : UnitHeader} {found : Bool}

theorem UnitRead.span_eq (read : UnitRead src p header found last p') :
    (⟨p.pos, src.segment.lengthAt p.pos, p'.pos⟩ : UnitSpan) = ⟨p.pos, header.length, last.pos⟩ := by
  obtain ⟨length, after, word, run⟩ := bind_eq_ok.1 read.headed
  have declared : header.length = length := by
    obtain ⟨version, _, -, run⟩ := bind_eq_ok.1 run
    by_cases known : UnitHeader.versions.contains version
    · rw [if_pos known] at run
      obtain ⟨_, _, -, run⟩ := bind_eq_ok.1 run
      obtain ⟨width, _, -, run⟩ := bind_eq_ok.1 run
      by_cases wide : width = UnitHeader.width
      · rw [if_pos wide] at run
        cases run
        rfl
      · rw [if_neg wide] at run
        cases run
    · rw [if_neg known] at run
      cases run
  rw [Segment.lengthAt, within_eq_ok.1 word, declared, read.noted]

/-- If no unit strays, the units start where the lengths lead. -/
theorem starts_eq_headersFrom (all : Units src p p') (tiled : ∀ u ∈ spans src p, ¬ u.Strays) :
    (spans src p).map (·.start) = src.segment.headersFrom src.abbrevStart p.pos := by
  induction all with
  | done ended =>
    rw [spans_eq, if_neg (by omega), Segment.headersFrom, if_neg (by omega)]
    rfl
  | @next p last p₁ p' header found more read rest ih =>
    rw [spans_eq, if_pos more, unit_eq_ok.2 ⟨_, _, _, read⟩] at tiled ⊢
    obtain ⟨straight, tiled⟩ := List.forall_mem_cons.1 tiled
    have next : p₁.pos = p.pos + 4 + src.segment.lengthAt p.pos := not_not.1 straight
    rw [Segment.headersFrom, if_pos more, ← next, ← ih tiled]
    rfl

end Building

/-! ### Notices that are warnings -/

/-- The notices that are warnings. -/
def Notice.warnings (notices : List Notice) : List Notice :=
  notices.filter fun n => n.level != .debug

theorem Notice.warnings_append (first more : Array Notice) :
    warnings (first ++ more).toList = warnings first.toList ++ warnings more.toList := by
  rw [Array.toList_append, warnings, List.filter_append]
  rfl

namespace Building

open Notice

variable {src : Source} {unit start : Int} {frame : Frame} {p p' last : Progress}
  {header : UnitHeader} {found : Bool}

/-- What is noted of an entry is no warning. -/
theorem warnings_of_head {opened : Option Opened} (read : head src unit frame p = .ok opened p') :
    warnings p'.notices.toList = warnings p.notices.toList := by
  cases opened with
  | none =>
    obtain ⟨-, -, rfl⟩ := head_eq_none.1 read
    rfl
  | some opened =>
    obtain ⟨_, _, _, about, entered, -⟩ := head_eq_some.1 read
    have quiet : warnings (about.openNotices p.pos) = [] := by
      unfold Description.openNotices
      cases about.pending? <;> rfl
    rw [entered.notices, warnings_append, quiet, List.append_nil]

theorem Below.warnings_eq (all : Below src unit frame p p') :
    warnings p'.notices.toList = warnings p.notices.toList := by
  induction all with
  | close ended => exact warnings_of_head ended
  | leaf read _ _ ih => exact ih.trans (warnings_of_head read)
  | nest read _ _ _ ihInner ihRest => exact ihRest.trans (ihInner.trans (warnings_of_head read))

theorem UnitBody.warnings_eq (body : UnitBody src start p found p') :
    warnings p'.notices.toList = warnings p.notices.toList := by
  cases body with
  | empty ended => exact warnings_of_head ended
  | leaf read => exact warnings_of_head read
  | nest read _ inner => exact inner.warnings_eq.trans (warnings_of_head read)

/-- A unit is warned of exactly if it strays. -/
theorem UnitRead.warnings_eq (read : UnitRead src p header found last p') :
    let u : UnitSpan := ⟨p.pos, src.segment.lengthAt p.pos, p'.pos⟩
    warnings p'.notices.toList =
      warnings p.notices.toList ++ if u.Strays then [u.notice] else [] := by
  intro u
  have same : u = ⟨p.pos, header.length, last.pos⟩ := read.span_eq
  have noted : warnings (unitNotices p.pos header found last.pos) =
      if u.Strays then [u.notice] else [] := by
    have ends : u.Strays ↔ ¬ last.pos = p.pos + 4 + header.length := by
      rw [same]
      rfl
    have told : u.notice = .unitLength p.pos header.length last.pos := by
      rw [same]
      rfl
    rw [unitNotices, told]
    by_cases strays : u.Strays
    · rw [if_pos strays, if_neg (ends.1 strays)]
      cases found <;> rfl
    · rw [if_neg strays, if_pos (not_not.1 fun other => strays (ends.2 other))]
      cases found <;> rfl
  rw [read.noted, warnings_append, noted, read.body.warnings_eq]

/-- Reading units warns of those that stray, in their order. -/
theorem Units.warnings_eq (all : Units src p p') :
    warnings p'.notices.toList =
      warnings p.notices.toList ++
        ((spans src p).filter (·.Strays)).map UnitSpan.notice := by
  induction all with
  | done ended =>
    rw [spans_eq, if_neg (by omega)]
    exact (List.append_nil _).symm
  | @next p last p₁ p' header found more read rest ih =>
    rw [spans_eq, if_pos more, unit_eq_ok.2 ⟨_, _, _, read⟩, ih, read.warnings_eq,
      List.append_assoc]
    congr 1
    let u : UnitSpan := ⟨p.pos, src.segment.lengthAt p.pos, p₁.pos⟩
    show (if u.Strays then [u.notice] else []) ++ _ = ((u :: spans src p₁).filter _).map _
    by_cases strays : u.Strays <;> simp [strays]

theorem warnings_indexed (src : Source) (index : Index) :
    warnings (indexed src index).notices.toList =
      (repeated index.table.toList).map fun a => .redeclared a.code a.offset := by
  rw [← Index.duplicates_eq]
  show warnings (tableNotices (some src.abbrevStart) index) = _
  rw [tableNotices, warnings, List.filter_cons_of_neg Bool.false_ne_true, List.filter_eq_self]
  intro n mem
  obtain ⟨a, -, rfl⟩ := List.mem_map.1 mem
  rfl

/-- What is noted of references is no warning. -/
theorem warnings_completeIn (t : ScopeTree) (entries : List Nat) :
    warnings (t.completeIn entries).2 = [] := by
  induction entries generalizing t with
  | nil => rfl
  | cons i rest ih =>
    have first : warnings (t.completeOne i).2 = [] := by
      unfold ScopeTree.completeOne
      split
      · rfl
      · split <;> rfl
    show warnings ((t.completeOne i).2 ++ ((t.completeOne i).1.completeIn rest).2) = []
    rw [warnings, List.filter_append]
    exact List.append_eq_nil_iff.2 ⟨first, ih _⟩

theorem warnings_completed (p : Progress) (start : Nat) :
    warnings (completed p start).notices.toList = warnings p.notices.toList := by
  have noted : (completed p start).notices =
      p.notices.push (.decoded p.tree.units.length p.tree.size) ++
        (p.tree.startingAt start).complete.2.toArray := rfl
  rw [noted, warnings_append, ScopeTree.complete, warnings_completeIn, List.append_nil,
    Array.push_eq_append, warnings_append]
  exact List.append_nil _

end Building

/-! ### What a build posts -/

/-- Whether a message is a warning. -/
def Console.Message.isWarning (m : Message) : Bool := m.level.same Level.warn.value

namespace Session

variable {s s' : Session} {t : ScopeTree}

/-- The decoder has posted a warning or a note, so what is not the one is the other. -/
theorem isWarning_of_mem_heard {notices : List Notice} {m : Message}
    (mem : m ∈ s.heard notices) : m.isWarning = !m.isNote := by
  unfold heard at mem
  split at mem
  · obtain ⟨n, -, rfl⟩ := List.mem_map.1 mem
    cases n <;> rfl
  · cases mem

theorem filter_isWarning_postedBy (s : Session) (t : ScopeTree) (notices : List Notice) :
    (s.postedBy (.ok t) notices).filter (·.isWarning) =
      if s.attached then (Notice.warnings notices).map (·.message) else [] := by
  have quiet : (s.said timed).filter (·.isWarning) = [] := by
    unfold said
    split <;> rfl
  rw [postedBy, List.filter_append, quiet, List.append_nil,
    List.filter_congr fun m mem => isWarning_of_mem_heard mem]
  exact filter_heard s notices

/-- A build that draws no graph posts these warnings, in this order: one for every declaration of a
code that had been declared, and one for every unit whose entries end elsewhere than its header
says. If it posts none for a unit, the units start where the lengths in their headers lead. -/
theorem warnings_of_build (image : Image) (graphless : s.settings.graphFile = .null)
    (built : Session.build image.decoder s = .ok t s') :
    let src := Source.of image s.settings.order
    let units := image.unitSpans s.settings.order
    ∃ (index : Index) (posted : List Message),
      Index.scan src.segment image.abbrevStart = .ok index ∧
      s'.messages = s.messages ++ posted.toArray ∧
      posted.filter (·.isWarning) =
        (if s.attached then
          (repeated index.table.toList).map (fun a => (Notice.redeclared a.code a.offset).message) ++
            (units.filter (·.Strays)).map (·.notice.message)
        else []) ∧
      (s.attached = true → (∀ u ∈ units, u.notice.message ∉ posted) →
        units.map (·.start) = src.segment.headersFrom image.abbrevStart image.infoStart) := by
  intro src units
  have decoded := (decode_of_build built).1
  change (outcome (program src s.settings.entryPoint) (.start src)).1 = .ok t at decoded
  cases ran : program src s.settings.entryPoint (.start src) with
  | error e p' =>
    rw [outcome, ran] at decoded
    cases decoded
  | ok _ p' =>
    obtain ⟨index, p, i, scanned, all, -, rfl⟩ := program_eq_ok.1 ran
    have spanned : units = spans src (indexed src index) := by
      show (match Index.scan src.segment src.abbrevStart with
        | .ok index => spans src (indexed src index)
        | .error _ => []) = _
      rw [scanned]
    let notices := (completed p i).notices.toList
    have warned : Notice.warnings notices =
        (repeated index.table.toList).map (fun a => Notice.redeclared a.code a.offset) ++
          (units.filter (·.Strays)).map UnitSpan.notice := by
      rw [warnings_completed, all.warnings_eq, warnings_indexed, spanned]
    have decoded : image.decoder s.settings.order s.settings.entryPoint = (.ok t, notices) := by
      show outcome (program src s.settings.entryPoint) (.start src) = _
      rw [outcome, ran] at decoded ⊢
      rw [← decoded]
    rw [build_eq_built decoded graphless] at built
    cases built
    have posts : (s.postedBy (.ok t) notices).filter (·.isWarning) =
        if s.attached then
          (repeated index.table.toList).map (fun a => (Notice.redeclared a.code a.offset).message) ++
            (units.filter (·.Strays)).map (·.notice.message)
        else [] := by
      rw [filter_isWarning_postedBy, warned, List.map_append, List.map_map, List.map_map]
      rfl
    refine ⟨index, s.postedBy (.ok t) notices, scanned, rfl, posts, fun attached untold => ?_⟩
    rw [if_pos attached] at posts
    have straight : ∀ u ∈ units, ¬ u.Strays := by
      intro u mem strays
      refine untold u mem (List.mem_of_mem_filter (posts ▸ List.mem_append_right _ ?_))
      exact List.mem_map_of_mem (List.mem_filter.2 ⟨mem, decide_eq_true strays⟩)
    rw [spanned] at straight ⊢
    exact starts_eq_headersFrom all straight

/-- An image with a method, behind which stands an empty unit that declares a length beyond the end
of the section. The table declares the code of units twice. -/
def strayImage : Image :=
  .ofParts
    #[0x13, 0, 0, 0, 2, 0, 0, 0, 0, 0, 4,
      1, 2, 57, 0, 0, 0, 0x10, 0, 0, 0, 8, 0,
      0xff, 0, 0, 0, 2, 0, 0, 0, 0, 0, 4, 0,
      1, 0x11, 1, 0, 0, 2, 0x2e, 0, 3, 0xe, 0x11, 1, 0x12, 0xb, 0, 0, 1, 0x11, 0, 0, 0, 0,
      0x6d, 0x61, 0x69, 0x6e, 0]
    (.ofList [⟨12, 1⟩, ⟨13, 4⟩, ⟨17, 4⟩, ⟨21, 1⟩]) 0 35 none

/-- Building its tree warns of the code and of the empty unit. -/
theorem warnings_of_build_stray :
    let s := Session.blank true .empty
    s.settings.graphFile = .null ∧ ∃ (t : ScopeTree) (s' : Session) (posted : List Message),
      Session.build strayImage.decoder s = .ok t s' ∧ s'.messages = s.messages ++ posted.toArray ∧
        posted.filter (·.isWarning) =
          [(Notice.redeclared 1 51).message, (Notice.unitLength 23 255 35).message] := by
  intro s
  have spanned : strayImage.unitSpans s.settings.order = [⟨0, 19, 23⟩, ⟨23, 255, 35⟩] := by
    decide +kernel
  have again : (match Index.scan (strayImage.segment s.settings.order) 35 with
    | .ok index => repeated index.table.toList
    | .error _ => []) = [⟨1, 51, none⟩] := by decide +kernel
  have size : (match Session.build strayImage.decoder s with
    | .ok t _ => t.size
    | .error _ _ => 0) = 2 := by decide +kernel
  cases built : Session.build strayImage.decoder s with
  | error fault s' =>
    rw [built] at size
    cases size
  | ok t s' =>
    obtain ⟨index, posted, scanned, messages, warned, -⟩ := warnings_of_build strayImage rfl built
    have scanned : Index.scan (strayImage.segment s.settings.order) 35 = .ok index := scanned
    rw [scanned] at again
    have repeats : repeated index.table.toList = [⟨1, 51, none⟩] := again
    rw [repeats, spanned] at warned
    exact ⟨rfl, t, s', posted, rfl, messages, warned⟩

end Session

end DebugScopes

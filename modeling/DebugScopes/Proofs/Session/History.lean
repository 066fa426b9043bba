import DebugScopes.Proofs.Decoding.WellFormed
import DebugScopes.Proofs.Session.Building

/-!
# Building after anything else

What a session did before has no bearing on the trees that it builds, except through its settings:
neither a tree that was built last, nor the declarations that were read for it, nor what a failed
build has left. The settings of the console have none either, but for the notes that are shown.

* `Session.afterAll`: the session that a row of commands leaves, be they done or failed;
* `Image.decoderAfter_eq`: an index that is left from another image is not looked at;
* `Session.build_eq_built`: what a build does to a session, and what it posts;
* `Session.build_independent`: two sessions with the same byte order and entry point build the same
  tree of an image, or fail alike, and post the same messages but for the notes.
-/

namespace DebugScopes

open Console Building

/-! ### Commands -/

/-- What can be done with a session, again and again. -/
inductive Command
  /-- Build a tree. -/
  | build (decoder : Decoder)
  /-- Build a tree, and report if that fails. -/
  | attempt (decoder : Decoder)
  /-- Change a setting. -/
  | set (name : String) (v : Value)
  /-- Change a setting for this session only. -/
  | override (name : String) (v : Value)

namespace Session

/-- The session that an action leaves, be it done or failed. -/
def left {α : Type} : EStateM.Result Fault Session α → Session
  | .ok _ s => s
  | .error _ s => s

/-- The session after a command. -/
def after (s : Session) : Command → Session
  | .build decoder => left (Session.build decoder s)
  | .attempt decoder => left (Session.attempt decoder s)
  | .set name v => left (Session.set name v s)
  | .override name v => left (Session.override name v s)

/-- The session after a row of commands. -/
def afterAll (s : Session) (past : List Command) : Session := past.foldl after s

end Session

/-! ### An index that is left -/

/-- Decodes an image while an index is left from what was decoded before. -/
def Image.decoderAfter (image : Image) (left : Abbreviation.Index) : Decoder :=
  fun order entryPoint =>
    outcome (program (.of image order) entryPoint)
      { Progress.start (.of image order) with index := left }

namespace Building

variable {src : Source} {index : Abbreviation.Index} {p : Progress}

/-- Indexing the table replaces the index that there was. -/
theorem table_of_scan
    (scanned : Abbreviation.Index.scan src.segment src.abbrevStart = .ok index) :
    table src p = .ok () { p with
      index := index
      notices := p.notices.append (tableNotices (some src.abbrevStart) index).toArray } := by
  unfold table tableNoting
  refine bind_eq_ok.2 ⟨index, p, within_eq_ok.2 ?_, bind_eq_ok.2 ⟨(), _, rfl, rfl⟩⟩
  rw [scanned]

theorem table_of_scan_error {e : Failure}
    (failed : Abbreviation.Index.scan src.segment src.abbrevStart = .error e) :
    table src p = .error (e.through .abbreviationTable) p := by
  refine bind_of_error (within_of_error ?_)
  rw [failed]

end Building

/-- The table is indexed anew, so the index that is left is not looked at, nor are the declarations
that it keeps. -/
theorem Image.decoderAfter_eq (image : Image) (left : Abbreviation.Index) :
    image.decoderAfter left = image.decoder := by
  funext order entryPoint
  unfold Image.decoderAfter Image.decoder ScopeTree.decode outcome program programBy
  cases scanned : Abbreviation.Index.scan (Source.of image order).segment
      (Source.of image order).abbrevStart with
  | ok index => rw [bind_of_ok (table_of_scan scanned), bind_of_ok (table_of_scan scanned)]
  | error e =>
    rw [bind_of_error (table_of_scan_error scanned), bind_of_error (table_of_scan_error scanned)]

/-! ### What is posted -/

/-- Whether a message is a note, which is shown on request only. -/
def Console.Message.isNote (m : Message) : Bool := m.level.same Level.debug.value

namespace Session

variable {decoder : Decoder} {s : Session}

/-- The session with further messages. -/
def adding (s : Session) (messages : List Message) : Session :=
  { s with messages := s.messages ++ messages.toArray }

@[simp] theorem adding_nil (s : Session) : s.adding [] = s := by
  cases s
  simp [adding]

@[simp] theorem adding_adding (s : Session) (first more : List Message) :
    (s.adding first).adding more = s.adding (first ++ more) := by
  simp [adding]

/-- What a session posts of the notices of the decoder. -/
def heard (s : Session) (notices : List Notice) : List Message :=
  if s.attached then
    (notices.filter fun n => n.level != .debug || s.voiced).map (·.message)
  else []

/-- What a session posts as a note. -/
def said (s : Session) (parts : List Value) : List Message :=
  if s.attached && s.voiced then [.ofWords .debug (phrase parts)] else []

/-- What is posted of the notices in any case. -/
def warnings (notices : List Notice) : List Message :=
  (notices.filter fun n => n.level != .debug).map (·.message)

theorem post_eq_adding (s : Session) (m : Message) :
    s.post m = s.adding (if s.attached then [m] else []) := by
  unfold post
  split
  · simp [adding]
  · simp

theorem say_eq_adding (s : Session) (parts : List Value) :
    s.say parts = s.adding (s.said parts) := by
  unfold say said
  rw [post_eq_adding]
  by_cases verbose : s.voiced <;> simp [verbose]

theorem heard_cons (s : Session) (first : Notice) (rest : List Notice) :
    s.heard (first :: rest) = s.heard [first] ++ s.heard rest := by
  unfold heard
  split
  · rw [← List.map_append, ← List.filter_append]
    rfl
  · rfl

theorem report_eq_adding (s : Session) (n : Notice) : s.report n = s.adding (s.heard [n]) := by
  unfold report heard
  rw [post_eq_adding]
  by_cases verbose : s.voiced <;> by_cases note : n.level = .debug <;>
    simp [verbose, note]

theorem reportAll_eq_adding (s : Session) (notices : List Notice) :
    s.reportAll notices = s.adding (s.heard notices) := by
  induction notices generalizing s with
  | nil => simp [reportAll, heard]
  | cons first rest ih =>
    rw [reportAll, List.foldl_cons, report_eq_adding, heard_cons s first rest,
      ← adding_adding]
    exact ih (s.adding (s.heard [first]))

/-- Of the notices, those are posted without notes that are warnings. -/
theorem filter_heard (s : Session) (notices : List Notice) :
    (s.heard notices).filter (!·.isNote) = if s.attached then warnings notices else [] := by
  have level (n : Notice) : n.message.isNote = (n.level == .debug) := by
    cases n <;> rfl
  unfold heard warnings
  split
  · rw [List.filter_map, List.filter_filter]
    congr 1
    refine List.filter_congr fun n _ => ?_
    simp only [Function.comp, level]
    cases n.level <;> cases s.voiced <;> rfl
  · rfl

theorem filter_said (s : Session) (parts : List Value) :
    (s.said parts).filter (!·.isNote) = [] := by
  unfold said
  split <;> rfl

/-! ### What a build does -/

/-- The note that tells how long building took. -/
def timed : List Value := [.text ("Built source tree in " ++ unmeasured ++ "ms.")]

/-- What a session posts when it builds a tree. -/
def postedBy (s : Session) (result : Except Failure ScopeTree) (notices : List Notice) :
    List Message :=
  match result with
  | .ok _ => s.heard notices ++ s.said timed
  | .error _ => s.heard notices

/-- How a build ends: the tree is the session's, or it has none, and there are further messages. -/
def built (s : Session) (result : Except Failure ScopeTree) (posted : List Message) :
    EStateM.Result Fault Session ScopeTree :=
  match result with
  | .ok t => .ok t { s.adding posted with tree := some t }
  | .error e => .error (.decoding e) { s.adding posted with tree := none }

/-- If no graph is to be drawn, a build takes the settings of the session and what is decoded, and
changes the tree and the messages. -/
theorem build_eq_built {result : Except Failure ScopeTree} {notices : List Notice}
    (decoded : decoder s.settings.order s.settings.entryPoint = (result, notices))
    (graphless : s.settings.graphFile = .null) :
    Session.build decoder s = s.built result (s.postedBy result notices) := by
  rw [build_eq]
  cases result with
  | error e =>
    have failed : decode decoder { s with tree := none } =
        .error (.decoding e) (({ s with tree := none } : Session).adding (s.heard notices)) := by
      simp only [decode, decoded]
      rw [reportAll_eq_adding]
      rfl
    rw [bind_of_error failed]
    rfl
  | ok t =>
    have ran : decode decoder { s with tree := none } =
        .ok t (({ s with tree := none } : Session).adding (s.heard notices)) := by
      simp only [decode, decoded]
      rw [reportAll_eq_adding]
      rfl
    have undrawn : drawAsSet t (({ s with tree := none } : Session).adding (s.heard notices)) =
        .ok () (({ s with tree := none } : Session).adding (s.heard notices)) :=
      drawAsSet_of_graphless graphless
    rw [bind_of_ok ran, bind_of_ok undrawn]
    show EStateM.Result.ok t
      (Session.say { s.adding (s.heard notices) with tree := some t } timed) = _
    rw [say_eq_adding]
    show _ = EStateM.Result.ok t { s.adding (s.heard notices ++ s.said timed) with tree := some t }
    rw [← adding_adding]
    rfl

/-- Without a console nothing is posted, and with one the warnings and whatever notes are shown. -/
theorem filter_postedBy (s : Session) (result : Except Failure ScopeTree) (notices : List Notice) :
    (s.postedBy result notices).filter (!·.isNote) =
      if s.attached then warnings notices else [] := by
  cases result with
  | ok t =>
    rw [postedBy, List.filter_append, filter_said, List.append_nil]
    exact filter_heard s notices
  | error e => exact filter_heard s notices

/-- Whatever two sessions have done, and whatever index is left from it: with the same byte order
and the same entry point they build the same tree of an image, or fail with the same failure.
Nothing else of them changes but the messages, and those that are posted are the same, notes apart,
for all sessions that have a console. -/
theorem build_independent (image : Image) (index index' : Abbreviation.Index)
    (s s' : Session) (past past' : List Command)
    (byteOrder : (s.afterAll past).settings.byteOrder = (s'.afterAll past').settings.byteOrder)
    (entryPoint : (s.afterAll past).settings.entryPoint = (s'.afterAll past').settings.entryPoint)
    (graphless : (s.afterAll past).settings.graphFile = .null)
    (graphless' : (s'.afterAll past').settings.graphFile = .null) :
    ∃ result posted posted' warnings,
      Session.build (image.decoderAfter index) (s.afterAll past) =
        (s.afterAll past).built result posted ∧
      Session.build (image.decoderAfter index') (s'.afterAll past') =
        (s'.afterAll past').built result posted' ∧
      posted.filter (!·.isNote) = (if (s.afterAll past).attached then warnings else []) ∧
      posted'.filter (!·.isNote) = if (s'.afterAll past').attached then warnings else [] := by
  rw [image.decoderAfter_eq, image.decoderAfter_eq]
  cases decoded : image.decoder (s.afterAll past).settings.order
      (s.afterAll past).settings.entryPoint with
  | mk result notices =>
    have decoded' : image.decoder (s'.afterAll past').settings.order
        (s'.afterAll past').settings.entryPoint = (result, notices) := by
      rw [← decoded, Settings.order, Settings.order, byteOrder, entryPoint]
    exact ⟨result, _, _, warnings notices, build_eq_built decoded graphless,
      build_eq_built decoded' graphless', filter_postedBy .., filter_postedBy ..⟩

/-- Building leaves the settings, and whether there is a console. -/
theorem exists_after_build (graphless : s.settings.graphFile = .null) :
    ∃ tree messages, s.after (.build decoder) = { s with tree := tree, messages := messages } := by
  cases decoded : decoder s.settings.order s.settings.entryPoint with
  | mk result notices =>
    rw [after, build_eq_built decoded graphless]
    cases result with
    | ok t => exact ⟨some t, _, rfl⟩
    | error e => exact ⟨none, _, rfl⟩

/-- A session that wants notes and has failed to build a tree, and one that does not and has had
another entry point, build the tree of the method alike. -/
theorem build_independent_method :
    let kept : Abbreviation.Index := ⟨#[⟨1, 5, some ⟨0x2e, false, []⟩⟩], 9⟩
    let past : List Command := [.set "srctree.entry.point" (.text "start"),
      .build methodImage.decoder, .set "dbg.verbose" (.bool true),
      .set "srctree.endian" (.text "middle"), .set "srctree.entry.point" (.text "main")]
    let s := Session.blank true .empty
    (s.afterAll past).settings.byteOrder = (s.afterAll []).settings.byteOrder ∧
      (s.afterAll past).settings.entryPoint = (s.afterAll []).settings.entryPoint ∧
      (s.afterAll past).settings.graphFile = .null ∧ (s.afterAll []).settings.graphFile = .null ∧
      ∃ result posted posted' warnings,
        Session.build (methodImage.decoderAfter kept) (s.afterAll past) =
          (s.afterAll past).built result posted ∧
        Session.build (methodImage.decoderAfter kept) (s.afterAll []) =
          (s.afterAll []).built result posted' ∧
        posted.filter (!·.isNote) = (if (s.afterAll past).attached then warnings else []) ∧
        posted'.filter (!·.isNote) = if (s.afterAll []).attached then warnings else [] := by
  intro kept past s
  obtain ⟨tree, messages, done⟩ := @exists_after_build methodImage.decoder
    (s.after (.set "srctree.entry.point" (.text "start"))) rfl
  have settings : (s.afterAll past).settings = s.settings.set .verbose (.bool true) := by
    show ((((s.after (.set "srctree.entry.point" (.text "start"))).after
      (.build methodImage.decoder)).afterAll [.set "dbg.verbose" (.bool true),
        .set "srctree.endian" (.text "middle"),
        .set "srctree.entry.point" (.text "main")])).settings = _
    rw [done]
    rfl
  have byteOrder := congrArg Settings.byteOrder settings
  have entryPoint := congrArg Settings.entryPoint settings
  have graphless := congrArg Settings.graphFile settings
  exact ⟨byteOrder, entryPoint, graphless, rfl,
    build_independent methodImage kept kept s s past [] byteOrder entryPoint graphless rfl⟩

end Session

end DebugScopes

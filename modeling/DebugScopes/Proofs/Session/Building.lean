import DebugScopes.Proofs.Decoding.Step
import DebugScopes.Session.Build

/-!
# Building a tree in a session

A session builds a tree by decoding as its settings say. The tree that was there before is gone
first, so a build that fails leaves none.

* `Session.decode_of_build`: a tree that is built has been decoded, and is the session's tree;
* `Session.build_of_error`: if decoding fails, so does the build;
* `Session.build_of_ok`: if it does not, and no graph is to be drawn, the tree is built.
-/

namespace DebugScopes.Session

variable {decoder : Decoder} {s s' : Session} {t : ScopeTree}

/-! ### Messages -/

/-- Posting a message changes nothing but the messages. -/
theorem post_eq (s : Session) (m : Console.Message) :
    ∃ messages, s.post m = { s with messages := messages } := by
  unfold post
  split
  · exact ⟨_, rfl⟩
  · exact ⟨s.messages, rfl⟩

theorem say_eq (s : Session) (parts : List Value) :
    ∃ messages, s.say parts = { s with messages := messages } := by
  unfold say
  split
  · exact post_eq ..
  · exact ⟨s.messages, rfl⟩

theorem reportAll_eq (s : Session) (notices : List Notice) :
    ∃ messages, s.reportAll notices = { s with messages := messages } := by
  induction notices generalizing s with
  | nil => exact ⟨s.messages, rfl⟩
  | cons first rest ih =>
    obtain ⟨messages, reported⟩ : ∃ messages, s.report first = { s with messages := messages } := by
      unfold report
      split
      · exact ⟨s.messages, rfl⟩
      · exact post_eq ..
    obtain ⟨messages', others⟩ := ih (s.report first)
    rw [reported] at others
    refine ⟨messages', ?_⟩
    rw [reportAll, List.foldl_cons, reported]
    exact others

/-! ### Drawing -/

/-- A graph is drawn if the settings name a file for it. -/
theorem drawAsSet_eq (t : ScopeTree) (s : Session) :
    drawAsSet t s =
      if s.settings.graphFile.isTrue then
        (drawTo s.settings.graphFile t >>= fun _ => pure ()) s
      else .ok () s := by
  show (if s.settings.graphFile.isTrue then (do let _ ← drawTo s.settings.graphFile t)
    else (pure () : Action Unit)) s = _
  split_ifs <;> rfl

theorem drawAsSet_of_graphless (graphless : s.settings.graphFile = .null) :
    drawAsSet t s = .ok () s := by
  rw [drawAsSet_eq, graphless]
  rfl

/-! ### Building -/

/-- The steps of building a tree, once the old one is gone. -/
theorem build_eq (decoder : Decoder) (s : Session) :
    build decoder s =
      (decode decoder >>= fun t => drawAsSet t >>= fun _ => modify (fun s =>
        { s with tree := some t }.say [.text ("Built source tree in " ++ unmeasured ++ "ms.")]) >>=
          fun _ => pure t) { s with tree := none } := rfl

/-- A tree that is built has been decoded, and is the session's tree. -/
theorem decode_of_build (built : build decoder s = .ok t s') :
    (decoder s.settings.order s.settings.entryPoint).1 = .ok t ∧ s'.tree = some t := by
  rw [build_eq] at built
  obtain ⟨decoded, between, ran, run⟩ := bind_eq_ok.1 built
  obtain ⟨_, drawn, _, run⟩ := bind_eq_ok.1 run
  obtain ⟨_, _, kept, done⟩ := bind_eq_ok.1 run
  cases kept
  cases done
  simp only [decode] at ran
  split at ran
  · next found =>
    cases ran
    obtain ⟨messages, said⟩ := say_eq { drawn with tree := some t }
      [.text ("Built source tree in " ++ unmeasured ++ "ms.")]
    exact ⟨found, congrArg Session.tree said⟩
  · cases ran

/-- If decoding fails, so does the build, and there is no tree. -/
theorem build_of_error {e : Failure} {notices : List Notice}
    (failed : decoder s.settings.order s.settings.entryPoint = (.error e, notices)) :
    ∃ s', build decoder s = .error (.decoding e) s' ∧ s'.tree = none := by
  have ran : decode decoder { s with tree := none } =
      .error (.decoding e) (({ s with tree := none } : Session).reportAll notices) := by
    simp only [decode, failed]
  obtain ⟨messages, reported⟩ := reportAll_eq { s with tree := none } notices
  exact ⟨_, (build_eq decoder s).trans (bind_of_error ran), by rw [reported]⟩

/-- If decoding succeeds and no graph is to be drawn, the tree is built. -/
theorem build_of_ok {notices : List Notice}
    (decoded : decoder s.settings.order s.settings.entryPoint = (.ok t, notices))
    (graphless : s.settings.graphFile = .null) : ∃ s', build decoder s = .ok t s' := by
  have ran : decode decoder { s with tree := none } =
      .ok t (({ s with tree := none } : Session).reportAll notices) := by
    simp only [decode, decoded]
  obtain ⟨messages, reported⟩ := reportAll_eq { s with tree := none } notices
  have undrawn : drawAsSet t (({ s with tree := none } : Session).reportAll notices) =
      .ok () (({ s with tree := none } : Session).reportAll notices) := by
    rw [reported]
    exact drawAsSet_of_graphless graphless
  rw [build_eq, bind_of_ok ran, bind_of_ok undrawn]
  exact ⟨_, rfl⟩

end DebugScopes.Session

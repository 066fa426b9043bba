import DebugScopes.Proofs.Session.InStep

/-!
# Changes that fail

A change whose setting is not known or does not take the value fails before anything happens. A
change can also fail while it is written, because of a value that no file can hold. By then the
setting has the value and the console follows, and the settings file ends where that value starts,
whichever setting it belongs to.

* `Session.Unchanged`: the settings, the file and the console are what they were;
* `Session.failed_cases`: when a change fails, and what it leaves;
* `Session.unchanged_of_failed_iff`: all failed changes, and which of them leave all as it was.
-/

namespace DebugScopes

open MapFile

namespace Session

variable {s t : Session} {c : Change} {fault : Fault} {attached : Bool} {d : Directory}
  {origin : Origin}

/-- Whether the value of every setting, the text of the settings file, the colour switch and the
showing of notes are what they were. -/
structure Unchanged (s t : Session) : Prop where
  settings : ∀ key, t.settings.get key = s.settings.get key
  saved : t.saved = s.saved
  colors : t.colors = s.colors
  voiced : t.voiced = s.voiced

/-- A change fails when it is checked, and nothing has happened, or when it is written. -/
theorem failed_cases (inStep : InStep s) (failed : c.run s = .error fault t) :
    (∃ reason, c.target = .error reason ∧ fault = .setting reason ∧ t = s) ∨
    ∃ key refusal, c.target = .ok key ∧ (c.isSet && s.persists) = true ∧
      (filed s.settings key c.value).page.refused = some refusal ∧
      fault = .unwritable refusal ∧ t = (s.giving key c.value).written := by
  cases accepted : c.target with
  | error reason =>
    rw [c.run_eq, accepted] at failed
    cases failed
    exact .inl ⟨reason, rfl, rfl, rfl⟩
  | ok key =>
    cases saves : c.isSet && s.persists with
    | false =>
      rw [c.run_eq, accepted, saves] at failed
      cases failed
    | true =>
      rw [run_of_saved (inStep.free (Bool.and_eq_true_iff.1 saves).2) accepted saves] at failed
      split at failed
      · next refusal refused =>
        cases failed
        exact .inr ⟨key, refusal, rfl, rfl, refused, rfl, rfl⟩
      · cases failed

/-- A change that fails while it is written leaves nothing as it was but what had the same value
before. -/
theorem unchanged_written_iff (inStep : InStep s) (persists : s.persists) (key : Settings.Key)
    (v : Value) :
    Unchanged s (s.giving key v).written ↔
      filed s.settings key v = s.settings ∧ s.saved = some s.settings.page.text := by
  have complete := complete_filed inStep key v
  have inStep' := (inStep.giving key v).written
  have saved : (s.giving key v).written.saved = some (filed s.settings key v).page.text :=
    saved_saving complete (inStep.free persists) rfl
  constructor
  · intro unchanged
    have same : filed s.settings key v = s.settings :=
      complete.ext inStep.complete unchanged.settings
    refine ⟨same, ?_⟩
    rw [← unchanged.saved, saved, same]
  · rintro ⟨same, text⟩
    have settings : (s.giving key v).written.settings = s.settings := same
    refine ⟨fun other => by rw [settings], ?_, ?_, ?_⟩
    · rw [saved, same, text]
    · exact inStep'.switch.trans ((congrArg Settings.colors settings).trans inStep.switch.symm)
    · exact inStep'.voiced.trans ((congrArg Settings.isVerbose settings).trans inStep.voiced.symm)

/-- However a session has started, and whatever has been changed since: if a change fails since its
setting is not known or does not take the value, the session is what it was. If it fails otherwise,
it is a change for later sessions in a session that persists, some setting has a value by now that
no file can hold, and the change has been made for all that: the setting has its value, the console
follows, and the settings file has been written up to the value that stopped it. The session is
unchanged then only if all this was so before. -/
theorem unchanged_of_failed_iff (started : start origin (blank attached d) = .ok () s)
    (changes : List Change) (failed : c.run (s.changedAll changes) = .error fault t) :
    let before := s.changedAll changes
    (∃ reason, c.target = .error reason ∧ fault = .setting reason ∧ t = before) ∨
    ∃ key refusal, c.target = .ok key ∧ c.isSet ∧ origin.isFile ∧
      (filed before.settings key c.value).page.refused = some refusal ∧
      fault = .unwritable refusal ∧
      t.settings = filed before.settings key c.value ∧
      t.saved = some (filed before.settings key c.value).page.text ∧
      t.colors = t.settings.colors ∧ t.voiced = t.settings.isVerbose ∧
      (Unchanged before t ↔ filed before.settings key c.value = before.settings ∧
        before.saved = some before.settings.page.text) := by
  obtain ⟨inStep, persists, -, -⟩ := inStep_of_start started
  obtain ⟨inStep, frame⟩ := inStep.changedAll changes
  rcases failed_cases inStep failed with
    refused | ⟨key, refusal, accepted, saves, refused, rfl, rfl⟩
  · exact .inl refused
  · obtain ⟨isSet, persists'⟩ := Bool.and_eq_true_iff.1 saves
    have inStep' := (inStep.giving key c.value).written
    refine .inr ⟨key, refusal, accepted, isSet, ?_, refused, rfl, rfl, ?_, inStep'.switch,
      inStep'.voiced, unchanged_written_iff inStep persists' key c.value⟩
    · rw [← persists, ← frame.persists, persists']
    · exact saved_saving (complete_filed inStep key c.value) (inStep.free persists') rfl

/-- An unknown setting leaves a session unchanged whose console has been changed before. -/
theorem unchanged_of_failed_unknown :
    ∃ s t, start .file (blank true .empty) = .ok () s ∧
      (Change.set "dbg.level" (.int 1)).run
        (s.changedAll [.override "dbg.colors" (.foreign "object")]) =
        .error (.setting (.unknownName "dbg.level")) t ∧
      t = s.changedAll [.override "dbg.colors" (.foreign "object")] := by
  obtain ⟨s, started⟩ : ∃ s, start .file (blank true .empty) = .ok () s := ⟨_, rfl⟩
  have failed : (Change.set "dbg.level" (.int 1)).run
      (s.changedAll [.override "dbg.colors" (.foreign "object")]) =
        .error (.setting (.unknownName "dbg.level"))
          (s.changedAll [.override "dbg.colors" (.foreign "object")]) := by
    cases started
    rfl
  rcases unchanged_of_failed_iff started _ failed with ⟨_, -, -, same⟩ | ⟨_, _, accepted, -⟩
  · exact ⟨s, _, started, failed, same⟩
  · cases accepted

/-- A value that no file can hold is refused, and yet the setting has it. -/
theorem refused_value_given :
    ∃ s t, start .file (blank true .empty) = .ok () s ∧
      (Change.set "dbg.colors" (.list [.int 1, .foreign "object"])).run s =
        .error (.unwritable (.kind "object")) t ∧
      ¬ Unchanged s t := by
  obtain ⟨s, started⟩ : ∃ s, start .file (blank true .empty) = .ok () s := ⟨_, rfl⟩
  cases started
  exact ⟨_, _, rfl, rfl, fun unchanged => nomatch unchanged.colors⟩

end Session

end DebugScopes

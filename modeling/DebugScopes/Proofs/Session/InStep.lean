import DebugScopes.Proofs.MapFile.Rows
import DebugScopes.Proofs.Session.Changes
import DebugScopes.Proofs.Session.Starting

/-!
# The console in step with the settings

The colour switch, the notes and the settings are states of their own, and a change may fail after
any part of it. Yet the console is in step with the settings as soon as a session has started, and
stays so, whatever is changed and whether or not that fails. Whether changes are for later sessions
is decided by the start alone.

* `Session.InStep`: all settings are there, and the console follows them;
* `Session.InStep.changedAll`: a row of changes keeps it;
* `Session.Frame`: what no change touches;
* `Session.inStep_after_start`: what this says of a session that has started.
-/

namespace DebugScopes

open Console

/-- A folder in the place of the settings file keeps a session from starting. -/
theorem Directory.free_of_saves {d : Directory} {settings : Settings} {messages : List Message}
    (saved : d.saves = .ok (settings, messages)) : d.isBlocked = false := by
  rw [Bool.eq_false_iff]
  intro blocked
  rw [saves, read_settingsFile, if_pos blocked] at saved
  cases saved

/-- No control character but the line feed is written to the settings file. -/
theorem Settings.Complete.clean_page {settings : Settings} (complete : settings.Complete) :
    Reader.Clean settings.page.text.toList :=
  MapFile.clean_draft (by decide) (MapFile.clean_draftRows fun row among => by
    obtain ⟨key, -, name⟩ := List.mem_map.1 (complete ▸ List.mem_map_of_mem among)
    rw [← name]
    exact ⟨rfl, rfl⟩)

/-- The settings file is read as it was written. -/
theorem Settings.Complete.read_saving {settings : Settings} {d : Directory}
    (complete : settings.Complete) (free : d.isBlocked = false) :
    (d.saving settings.page.text).read Session.settingsFile = .ok settings.page.text := by
  rw [Directory.read_saving free, Reader.unifyLineEnds_of_clean complete.clean_page,
    String.ofList_toList]

namespace Session

variable {s t : Session} {c : Change} {key : Settings.Key} {attached : Bool} {d : Directory}
  {origin : Origin}

/-! ### Each change -/

/-- What holds of a session and of what a change can make of it holds after the change. -/
theorem changed_cases {P : Session → Prop} (c : Change)
    (free : s.persists → s.directory.isBlocked = false) (refused : P s)
    (kept : ∀ key, c.target = .ok key → P (s.giving key c.value))
    (saved : ∀ key, c.target = .ok key → (c.isSet && s.persists) = true →
      P (s.giving key c.value).written) : P (s.changed c) := by
  cases accepted : c.target with
  | error fault =>
    rw [changed_of_refused accepted]
    exact refused
  | ok key =>
    cases saves : c.isSet && s.persists with
    | false =>
      rw [changed_of_kept accepted saves]
      exact kept key accepted
    | true =>
      rw [changed_of_saved (free (Bool.and_eq_true_iff.1 saves).2) accepted saves]
      exact saved key accepted saves

/-- What no change touches. -/
structure Frame (s t : Session) : Prop where
  persists : t.persists = s.persists
  attached : t.attached = s.attached
  tree : t.tree = s.tree
  messages : t.messages = s.messages
  isBlocked : t.directory.isBlocked = s.directory.isBlocked

theorem Frame.refl (s : Session) : Frame s s := ⟨rfl, rfl, rfl, rfl, rfl⟩

theorem Frame.trans {u : Session} (first : Frame s t) (second : Frame t u) : Frame s u :=
  ⟨second.persists.trans first.persists, second.attached.trans first.attached,
    second.tree.trans first.tree, second.messages.trans first.messages,
    second.isBlocked.trans first.isBlocked⟩

theorem frame_changed (c : Change) (free : s.persists → s.directory.isBlocked = false) :
    Frame s (s.changed c) :=
  changed_cases c free (.refl s) (fun _ _ => ⟨rfl, rfl, rfl, rfl, rfl⟩)
    fun _ _ _ => ⟨rfl, rfl, rfl, rfl, rfl⟩

/-! ### The invariant -/

/-- All settings are there, the console follows them, and they can be saved if they are to be. -/
structure InStep (s : Session) : Prop where
  complete : s.settings.Complete
  switch : s.switch = s.settings.colors
  voiced : s.voiced = s.settings.isVerbose
  free : s.persists → s.directory.isBlocked = false

namespace InStep

theorem giving (inStep : InStep s) (key : Settings.Key) (v : Value) : InStep (s.giving key v) where
  complete := inStep.complete.set key v
  switch := by
    show (if key = .verbose ∨ key = .colors then (s.settings.set key v).colors else s.switch) =
      (s.settings.set key v).colors
    split_ifs with own
    · rfl
    · exact inStep.switch.trans
        (s.settings.get_set_other (fun same => own (.inr same.symm)) v).symm
  voiced := by
    show (if key = .verbose ∨ key = .colors then (s.settings.set key v).isVerbose else s.voiced) =
      (s.settings.set key v).isVerbose
    split_ifs with own
    · rfl
    · exact inStep.voiced.trans (congrArg Value.isTrue
        (s.settings.get_set_other (fun same => own (.inl same.symm)) v).symm)
  free := inStep.free

/-- The version of the settings file is no setting of the console. -/
theorem written (inStep : InStep s) : InStep s.written where
  complete := inStep.complete.set ..
  switch := inStep.switch.trans (s.settings.get_set_other (by decide) _).symm
  voiced := inStep.voiced.trans
    (congrArg Value.isTrue (s.settings.get_set_other (by decide) _).symm)
  free := inStep.free

theorem changed (inStep : InStep s) (c : Change) : InStep (s.changed c) :=
  changed_cases c inStep.free inStep (fun key _ => inStep.giving key c.value)
    fun key _ _ => (inStep.giving key c.value).written

theorem changedAll (inStep : InStep s) (changes : List Change) :
    InStep (s.changedAll changes) ∧ Frame s (s.changedAll changes) := by
  induction changes generalizing s with
  | nil => exact ⟨inStep, .refl s⟩
  | cons c rest ih =>
    obtain ⟨inStep', frame⟩ := ih (inStep.changed c)
    exact ⟨inStep', (frame_changed c inStep.free).trans frame⟩

end InStep

/-- A session that has started is in step, and persists if its settings come from the file. -/
theorem inStep_of_start (started : start origin (blank attached d) = .ok () s) :
    InStep s ∧ s.persists = origin.isFile ∧ s.attached = attached ∧ s.directory = d := by
  obtain ⟨settings, posted, complete, rfl⟩ := exists_of_start started
  refine ⟨⟨complete, rfl, rfl, fun persists => ?_⟩, rfl, rfl, rfl⟩
  cases origin with
  | file =>
    obtain ⟨settings', messages, saved, -⟩ := of_start_file started
    exact Directory.free_of_saves saved
  | given values => cases persists

/-! ### What the settings file is -/

theorem complete_filed (inStep : InStep s) (key : Settings.Key) (v : Value) :
    (filed s.settings key v).Complete :=
  (inStep.complete.set key v).set ..

/-- Of all changes those are written that are for later sessions and are accepted. -/
theorem directory_changed (c : Change) (free : s.persists → s.directory.isBlocked = false) :
    (s.changed c).directory =
      match c.target with
      | .error _ => s.directory
      | .ok key =>
        if c.isSet && s.persists then s.directory.saving (filed s.settings key c.value).page.text
        else s.directory := by
  cases accepted : c.target with
  | error fault => rw [changed_of_refused accepted]
  | ok key =>
    cases saves : c.isSet && s.persists with
    | false =>
      rw [changed_of_kept accepted saves]
      rfl
    | true =>
      rw [changed_of_saved (free (Bool.and_eq_true_iff.1 saves).2) accepted saves]
      rfl

theorem saved_saving {settings : Settings} (complete : settings.Complete)
    (free : d.isBlocked = false) (directory : s.directory = d.saving settings.page.text) :
    s.saved = some settings.page.text := by
  rw [saved, directory, complete.read_saving free]
  rfl

/-- The text of the settings file after a change. -/
theorem saved_changed (inStep : InStep s) (c : Change) :
    (s.changed c).saved =
      match c.target with
      | .error _ => s.saved
      | .ok key =>
        if c.isSet && s.persists then some (filed s.settings key c.value).page.text
        else s.saved := by
  rw [saved, directory_changed c inStep.free]
  cases c.target with
  | error fault => rfl
  | ok key =>
    dsimp only
    split_ifs with saves
    · rw [(complete_filed inStep key c.value).read_saving
        (inStep.free (Bool.and_eq_true_iff.1 saves).2)]
      rfl
    · rfl

/-- However a session with a console has started, and whatever has been changed since, be it done or
failed: all settings are there and no others; a note is posted if notes are wanted by now, unless it
cannot be put into words, and none is if they are not; the colour switch is what the settings say;
and the settings are saved with a change that is for later sessions if they come from the settings
file. -/
theorem inStep_after_start (started : start origin (blank true d) = .ok () s)
    (changes : List Change) :
    let t := s.changedAll changes
    t.settings.entries.map (·.1) = Settings.names ∧
    (∀ parts, note parts t =
      if t.settings.verbose.isTrue then
        if phrasable parts then
          .ok () { t with messages := t.messages.push (.ofWords .debug (phrase parts)) }
        else .error .illegible t
      else .ok () t) ∧
    t.colors = t.settings.colors ∧
    t.persists = origin.isFile ∧
    ∀ c : Change, (t.changed c).directory =
      match c.target with
      | .error _ => t.directory
      | .ok key =>
        if c.isSet && origin.isFile then t.directory.saving (filed t.settings key c.value).page.text
        else t.directory := by
  obtain ⟨inStep, persists, attached, -⟩ := inStep_of_start started
  obtain ⟨inStep, frame⟩ := inStep.changedAll changes
  refine ⟨inStep.complete, fun parts => ?_, inStep.switch, frame.persists.trans persists,
    fun c => ?_⟩
  · rw [note, say, post, frame.attached.trans attached, inStep.voiced, Settings.isVerbose]
    cases (s.changedAll changes).settings.verbose.isTrue <;> cases phrasable parts <;> rfl
  · rw [← persists, ← frame.persists]
    exact directory_changed c inStep.free

/-- Notes are asked for and colours overridden, and then a change is refused. -/
theorem inStep_after_start_defaults : ∃ s, start .file (blank true .empty) = .ok () s ∧
    let t := s.changedAll [.set "dbg.verbose" (.int 1), .override "dbg.colors" .null,
      .set "srctree.endian" (.text "middle")]
    t.settings.entries.map (·.1) = Settings.names ∧
    note [.text "shown"] t = .ok () { t with messages := t.messages.push ⟨"shown", .int 3⟩ } ∧
    t.colors = .null ∧ t.persists ∧
    (t.changed (.set "dbg.colors" (.bool false))).directory =
      t.directory.saving (filed t.settings .colors (.bool false)).page.text ∧
    (t.changed (.override "dbg.colors" (.bool false))).directory = t.directory := by
  obtain ⟨s, started⟩ : ∃ s, start .file (blank true .empty) = .ok () s := ⟨_, rfl⟩
  refine ⟨s, started, ?_⟩
  intro t
  obtain ⟨keys, notes, colors, persists, files⟩ := inStep_after_start started
    [.set "dbg.verbose" (.int 1), .override "dbg.colors" .null,
      .set "srctree.endian" (.text "middle")]
  cases started
  exact ⟨keys, notes [.text "shown"], colors, persists, files (.set "dbg.colors" (.bool false)),
    files (.override "dbg.colors" (.bool false))⟩

end Session

end DebugScopes

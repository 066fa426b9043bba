import DebugScopes.Proofs.Session.Refusals
import DebugScopes.Proofs.Session.Saving
import DebugScopes.Proofs.Value.Sound

/-!
# Starting again from the settings file

A session that starts from the file that another one has left has the settings that were saved last,
as a file keeps them. There are two exceptions, and then it has the defaults and says that the file
cannot be read: a setting whose brackets are nested too deep, and a change after the last one that
was saved whose writing was stopped.

* `Directory.sound_of_saves`: whatever the file holds, the settings that are read can come up;
* `Session.exists_restart`: what starting from settings gives that have been written;
* `Session.saved_of_done` and `Session.directory_unsaved`: what changes leave that are saved, and
  what those leave of the file that are not;
* `Session.restart_after_changes`: starting again after a row of changes.
-/

namespace DebugScopes

open MapFile Console

/-- Whatever a settings file holds, the settings that are loaded of it can come up. -/
theorem Directory.sound_of_saves {d : Directory} {settings : Settings} {messages : List Message}
    (saved : d.saves = .ok (settings, messages)) (key : Settings.Key) :
    (settings.get key).sound := by
  have initial : ∀ row ∈ Settings.defaults.entries, True ∧ row.2.sound := by
    intro row among
    obtain ⟨key, -, rfl⟩ := List.mem_map.1 among
    cases key <;> exact ⟨trivial, rfl⟩
  refine Settings.get_of_forall (P := fun v => v.sound) ?_ rfl key
  rw [Directory.saves] at saved
  split at saved
  · cases saved
    exact fun row among => (initial row among).2
  · cases saved
  · split at saved
    · cases saved
    · cases saved
    · next loaded =>
      obtain ⟨above, given, rfl⟩ := loadOn_eq_ok_iff.1 loaded
      cases saved
      have others : ∀ row ∈ above, True ∧ row.2.sound := by
        have sound := sound_found given
        rw [Value.sound, Bool.and_eq_true] at sound
        exact fun row among => ⟨trivial, (Value.sound_of_mem sound.2 among).2.2⟩
      exact fun row among => (Entries.forall_overlay (K := fun _ => True) (V := fun v => v.sound)
        initial others row (List.mem_of_mem_filter among)).2

namespace Session

variable {s t : Session} {c : Change} {changes later : List Change} {f : Settings.Key → Value}
  {attached attached' : Bool} {d : Directory}

/-! ### Starting from what was written -/

theorem saves_saving (setting : ∀ key, (f key).IsSetting) (free : d.isBlocked = false) :
    (d.saving (Settings.ofValues f).page.text).saves =
      if Settings.Key.all.all fun key => (f key).lasts then
        .ok (Settings.ofValues fun key => (f key).kept, [])
      else .ok (.defaults, [unread settingsFile]) := by
  rw [Directory.saves, (Settings.complete_ofValues f).read_saving free]
  dsimp only
  rw [Settings.load_page setting]
  split_ifs <;> rfl

/-- All messages but the notes that a session has posted. -/
def posted (s : Session) : List Message := s.messages.toList.filter (!·.isNote)

theorem posted_adding (s : Session) (messages : List Message) :
    (s.adding messages).posted = s.posted ++ messages.filter (!·.isNote) := by
  rw [posted, adding]
  simp [posted]

/-- Starting posts what loading reports, and notes. It fails only if the settings cannot be put into
words although notes are wanted. -/
theorem start_file_of_saves {settings : Settings} {messages : List Message}
    (saved : d.saves = .ok (settings, messages))
    (legible : settings.isVerbose → (Value.dict settings.entries).legible) :
    ∃ s, start .file (blank attached d) = .ok () s ∧ s.settings = settings ∧
      s.posted = (if attached then messages else []).filter (!·.isNote) := by
  have quiet : (((fresh settings true attached d).adding
      (if attached then messages else [])).voiced &&
        !(Value.dict settings.entries).legible) = false := by
    cases verbose : settings.isVerbose with
    | false => exact Bool.and_eq_false_imp.2 fun voiced => nomatch verbose.symm.trans voiced
    | true => rw [legible verbose, Bool.not_true, Bool.and_false]
  rw [start_file, saved]
  dsimp only
  rw [announce_eq, if_neg (by rw [Bool.not_eq_true]; exact quiet)]
  refine ⟨_, rfl, rfl, ?_⟩
  rw [posted_adding, posted_adding, announced, List.filter_append, filter_said, filter_said]
  simp [posted, fresh]

/-- What starting from a settings file gives that has been written with these values. -/
theorem exists_restart (setting : ∀ key, (f key).IsSetting) (free : d.isBlocked = false)
    (attached : Bool) :
    ∃ s, start .file (blank attached (d.saving (Settings.ofValues f).page.text)) = .ok () s ∧
      if Settings.Key.all.all fun key => (f key).lasts then
        (∀ key, s.settings.get key = (f key).kept) ∧ s.posted = []
      else
        (∀ key, s.settings.get key = Settings.initial key) ∧
          s.posted = if attached then [unread settingsFile] else [] := by
  have saved := saves_saving setting free
  cases lasts : Settings.Key.all.all fun key => (f key).lasts with
  | true =>
    rw [lasts, if_pos rfl] at saved
    have legible : ∀ key, (f key).kept.legible := fun key => by
      rw [Value.legible_kept]
      exact (Bool.and_eq_true_iff.1 (Settings.Key.all_all.1 lasts key)).1
    obtain ⟨s, started, settings, posted⟩ := @start_file_of_saves attached _ _ _ saved
      fun _ => Settings.legible_ofValues.2 legible
    refine ⟨s, started, ?_⟩
    rw [if_pos rfl]
    refine ⟨fun key => ?_, posted.trans (by split_ifs <;> rfl)⟩
    rw [settings, Settings.get_ofValues]
  | false =>
    rw [lasts, if_neg Bool.false_ne_true] at saved
    obtain ⟨s, started, settings, posted⟩ := @start_file_of_saves attached _ _ _ saved nofun
    refine ⟨s, started, ?_⟩
    rw [if_neg Bool.false_ne_true]
    refine ⟨fun key => ?_, posted.trans (by split_ifs <;> rfl)⟩
    rw [settings]
    cases key <;> rfl

/-! ### Changes -/

theorem forall_get_set {P : Value → Prop} {settings : Settings} {key : Settings.Key} {v : Value}
    (initial : ∀ key, P (settings.get key)) (val : P v) (other : Settings.Key) :
    P ((settings.set key v).get other) := by
  by_cases same : other = key
  · rw [same, Settings.get_set_self]
    exact val
  · rw [Settings.get_set_other _ same]
    exact initial other

theorem forall_get_filed {P : Value → Prop} {settings : Settings} {key : Settings.Key} {v : Value}
    (initial : ∀ key, P (settings.get key)) (val : P v) (version : P (.int formatVersion)) :
    ∀ other, P ((filed settings key v).get other) :=
  forall_get_set (forall_get_set initial val) version

/-- Plain values stay plain. -/
theorem isSetting_changedAll (inStep : InStep s) (setting : ∀ key, (s.settings.get key).IsSetting)
    (values : ∀ c ∈ changes, c.value.IsSetting) :
    ∀ key, ((s.changedAll changes).settings.get key).IsSetting := by
  induction changes generalizing s with
  | nil => exact setting
  | cons c rest ih =>
    obtain ⟨val, values⟩ := List.forall_mem_cons.1 values
    refine ih (inStep.changed c) ?_ values
    exact changed_cases (P := fun t => ∀ key, (t.settings.get key).IsSetting) c inStep.free setting
      (fun key _ => forall_get_set setting val)
      fun key _ _ => forall_get_filed setting val ⟨rfl, rfl⟩

/-- A change for later sessions that is done has been written as a whole. -/
theorem of_done (inStep : InStep s) (persists : s.persists) (isSet : c.isSet)
    (done : c.run s = .ok () t) :
    ∃ key, c.target = .ok key ∧ (filed s.settings key c.value).page.refused = none ∧
      t = (s.giving key c.value).written := by
  cases accepted : c.target with
  | error reason =>
    rw [c.run_eq, accepted] at done
    cases done
  | ok key =>
    rw [run_of_saved (inStep.free persists) accepted (Bool.and_eq_true_iff.2 ⟨isSet, persists⟩)]
      at done
    split at done
    · cases done
    · next whole =>
      cases done
      exact ⟨key, rfl, whole, rfl⟩

/-- What a change for later sessions leaves that is done: plain settings, and all of them in the
file. -/
theorem saved_of_done (inStep : InStep s) (persists : s.persists)
    (setting : ∀ key, (s.settings.get key).IsSetting) (val : c.value.IsSetting) (isSet : c.isSet)
    (done : c.run s = .ok () t) :
    InStep t ∧ (∀ key, (t.settings.get key).IsSetting) ∧
      (∀ key, (t.settings.get key).legible) ∧
      t.directory = s.directory.saving (Settings.ofValues t.settings.get).page.text := by
  obtain ⟨key, -, whole, rfl⟩ := of_done inStep persists isSet done
  have inStep' := (inStep.giving key c.value).written
  have setting' : ∀ other, ((s.giving key c.value).written.settings.get other).IsSetting :=
    forall_get_filed setting val ⟨rfl, rfl⟩
  refine ⟨inStep', setting', ?_, ?_⟩
  · rw [← Settings.refused_page setting', ← inStep'.complete.eq_ofValues]
    exact whole
  · rw [← inStep'.complete.eq_ofValues]
    rfl

/-- A change that is refused, or for the session only, is not written. -/
theorem directory_changed_of_unwritten (inStep : InStep s)
    (unwritten : (c.isSet && c.isAccepted) = false) : (s.changed c).directory = s.directory := by
  rw [directory_changed c inStep.free]
  cases accepted : c.target with
  | error reason => rfl
  | ok key =>
    rw [Change.isAccepted, accepted, Bool.and_true] at unwritten
    simp [unwritten]

/-- Changes that are not saved leave the settings file as it is, unless the writing of one of them
was stopped. -/
theorem directory_unsaved (inStep : InStep s) (setting : ∀ key, (s.settings.get key).IsSetting)
    (values : ∀ c ∈ changes, c.value.IsSetting)
    (unsaved : ∀ between c after, changes = between ++ c :: after → c.isSet →
      ∃ fault t, c.run (s.changedAll between) = .error fault t) :
    if changes.any fun c => c.isSet && c.isAccepted then
      ∃ (f : Settings.Key → Value) (d : Directory), (∀ key, (f key).IsSetting) ∧
        (Settings.ofValues f).page.refused ≠ none ∧ d.isBlocked = false ∧
        (s.changedAll changes).directory = d.saving (Settings.ofValues f).page.text
    else (s.changedAll changes).directory = s.directory := by
  -- From the end, since the last change that was stopped tells what the file is.
  induction changes using List.reverseRecOn with
  | nil => rfl
  | append_singleton past c ih =>
    have values' : ∀ c ∈ past, c.value.IsSetting := fun c among =>
      values c (List.mem_append_left _ among)
    have before := ih values' fun between c' after split isSet =>
      unsaved between c' (after ++ [c]) (by rw [split]; simp) isSet
    obtain ⟨inStep', -⟩ := inStep.changedAll past
    rw [changedAll_concat, List.any_append, List.any_cons, List.any_nil, Bool.or_false]
    cases writes : c.isSet && c.isAccepted with
    | false =>
      rw [directory_changed_of_unwritten inStep' writes, Bool.or_false]
      exact before
    | true =>
      obtain ⟨isSet, accepted⟩ := Bool.and_eq_true_iff.1 writes
      obtain ⟨fault, t, failed⟩ := unsaved past c [] rfl isSet
      have stopped : (s.changedAll past).changed c = t := by rw [changed, failed]; rfl
      rw [Bool.or_true, if_pos rfl, stopped]
      rcases failed_cases inStep' failed with ⟨reason, refused, -⟩ |
        ⟨key, refusal, -, saves, refused, -, rfl⟩
      · rw [Change.isAccepted, refused] at accepted
        cases accepted
      · have complete := complete_filed inStep' key c.value
        refine ⟨(filed (s.changedAll past).settings key c.value).get,
          (s.changedAll past).directory,
          forall_get_filed (isSetting_changedAll inStep setting values') (values c (by simp))
            ⟨rfl, rfl⟩,
          ?_, inStep'.free (Bool.and_eq_true_iff.1 saves).2, ?_⟩
        · rw [← complete.eq_ofValues, refused]
          exact Option.some_ne_none refusal
        · rw [← complete.eq_ofValues]
          rfl

/-- Plain settings that come from a settings file can come up. -/
theorem isSetting_of_start (started : start .file (blank attached d) = .ok () s)
    (plain : ∀ key, (s.settings.get key).isPlain) :
    ∀ key, (s.settings.get key).IsSetting := by
  intro key
  obtain ⟨settings, messages, saved, posted, rfl⟩ := of_start_file started
  exact ⟨plain key, Directory.sound_of_saves saved key⟩

end Session

end DebugScopes

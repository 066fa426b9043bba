import DebugScopes.Proofs.MapFile.Names
import DebugScopes.Proofs.Session.History
import DebugScopes.Proofs.Settings.Complete

/-!
# Starting a session

A session that has started has the settings that it was given, or those that are loaded from the
settings file; the console follows them, and only the messages tell anything more of the start.

* `Directory.saves`: the settings in the settings file, and what loading them reports;
* `Session.start_file` and `Session.start_given`: all that a start can do;
* `Session.exists_of_start`: what a session is that has started.
-/

namespace DebugScopes

open Console

/-- The settings that the settings file has for a session, and what loading them reports. -/
def Directory.saves (d : Directory) : Except Session.Fault (Settings × List Message) :=
  match d.read Session.settingsFile with
  | .error .missing => .ok (.defaults, [])
  | .error fault => .error (.file (.text Session.settingsFile) fault)
  | .ok text =>
    match MapFile.load Session.settingsFile Session.mapName Settings.defaults.entries text with
    | .error .illegibleVersion => .error .illegible
    | .error (.stopped stop) => .error (.stopped stop)
    | .ok (map, messages) => .ok (.ofEntries map, messages)

/-- Whatever the settings file holds, all settings come of it, and no others. -/
theorem Directory.complete_of_saves {d : Directory} {settings : Settings} {messages : List Message}
    (saved : d.saves = .ok (settings, messages)) : settings.Complete := by
  rw [Directory.saves] at saved
  split at saved
  · cases saved
    exact Settings.complete_defaults
  · cases saved
  · split at saved
    · cases saved
    · cases saved
    · next loaded =>
      obtain ⟨above, -, rfl⟩ := MapFile.loadOn_eq_ok_iff.1 loaded
      cases saved
      exact Settings.complete_ofEntries above

namespace Session

variable {s : Session} {attached : Bool} {d : Directory}

/-! ### What is posted -/

theorem postAll_eq_adding (s : Session) (messages : List Message) :
    s.postAll messages = s.adding (if s.attached then messages else []) := by
  induction messages generalizing s with
  | nil => simp [postAll]
  | cons first rest ih =>
    rw [postAll, List.foldl_cons, post_eq_adding]
    refine (ih _).trans ?_
    have kept : (s.adding (if s.attached then [first] else [])).attached = s.attached := rfl
    rw [kept]
    cases attached : s.attached <;> simp

/-- The notes about the settings that a session starts with. -/
def announced (s : Session) (source : String) : List Message :=
  s.said [.text source] ++ s.said [.text "Loaded configuration: ", .dict s.settings.entries]

/-- A note that can be put into words is posted if notes are wanted. -/
theorem note_eq (parts : List Value) (s : Session) :
    note parts s =
      if s.voiced && !phrasable parts then .error .illegible s
      else .ok () (s.adding (s.said parts)) := by
  rw [note, say_eq_adding]

/-- If notes are wanted, the settings have to be such that they can be put into words. -/
theorem announce_eq (source : String) (s : Session) :
    announce source s =
      if s.voiced && !(Value.dict s.settings.entries).legible then
        .error .illegible (s.adding (s.said [.text source]))
      else .ok () (s.adding (s.announced source)) := by
  have first : note [.text source] s = .ok () (s.adding (s.said [.text source])) := by
    rw [note_eq, if_neg (by simp [phrasable, phrasableFrom, Value.legible])]
  have worded : phrasable [.text "Loaded configuration: ", .dict s.settings.entries] =
      (Value.dict s.settings.entries).legible := by
    simp [phrasable, phrasableFrom, Value.legible]
  show (note [.text source] >>= fun _ => get >>= fun s' =>
    note [.text "Loaded configuration: ", .dict s'.settings.entries]) s = _
  rw [bind_of_ok first]
  show note [.text "Loaded configuration: ", .dict s.settings.entries]
    (s.adding (s.said [.text source])) = _
  rw [note_eq, worded, announced, ← adding_adding]
  rfl

/-! ### Starting -/

/-- A session with these settings whose console follows them. -/
def fresh (settings : Settings) (persists attached : Bool) (d : Directory) : Session :=
  ⟨settings, settings.colors, settings.isVerbose, persists, attached, none, d, #[]⟩

/-- All that a start from the settings file can do. -/
theorem start_file (attached : Bool) (d : Directory) :
    start .file (blank attached d) =
      match d.saves with
      | .error fault => .error fault (blank attached d)
      | .ok (settings, messages) =>
        announce ("Loaded config from file: " ++ settingsFile)
          ((fresh settings true attached d).adding (if attached then messages else [])) := by
  have adopted : adoptSaved .plain (blank attached d) =
      match d.saves with
      | .error fault => .error fault (blank attached d)
      | .ok (settings, messages) => .ok ()
          (({ blank attached d with settings := settings, persists := true } : Session).postAll
            messages) := by
    rw [Directory.saves]
    show (match d.read settingsFile with
      | .error .missing => adopt .defaults true
      | .error fault => throw (.file (.text settingsFile) fault)
      | .ok text =>
        match MapFile.load settingsFile mapName Settings.defaults.entries text with
        | .error .illegibleVersion => throw .illegible
        | .error (.stopped stop) => throw (.stopped stop)
        | .ok (map, messages) => do
          adopt (.ofEntries map) true
          modify fun s => s.postAll messages : Action Unit) (blank attached d) = _
    cases d.read settingsFile with
    | error fault => cases fault <;> rfl
    | ok text =>
      dsimp only
      cases MapFile.load settingsFile mapName Settings.defaults.entries text with
      | error fault => cases fault <;> rfl
      | ok loaded => rfl
  show (adoptSaved .plain >>= fun _ => modify tuned >>= fun _ => announce _) (blank attached d) = _
  cases saved : d.saves with
  | error fault =>
    rw [saved] at adopted
    exact bind_of_error adopted
  | ok loaded =>
    rw [saved] at adopted
    rw [bind_of_ok adopted, postAll_eq_adding]
    rfl

/-- All that a start with given settings can do. -/
theorem start_given (values : List (String × Value)) (attached : Bool) (d : Directory) :
    start (.given values) (blank attached d) =
      match Settings.defaults.overlay values with
      | .error fault => .error (.setting fault) (blank attached d)
      | .ok settings =>
        announce "Used programmatic configuration" (fresh settings false attached d) := by
  have taken : ofSettings (Settings.defaults.overlay values) (blank attached d) =
      match Settings.defaults.overlay values with
      | .error fault => .error (.setting fault) (blank attached d)
      | .ok settings => .ok settings (blank attached d) := by
    cases Settings.defaults.overlay values <;> rfl
  show (ofSettings (Settings.defaults.overlay values) >>= _) (blank attached d) = _
  cases given : Settings.defaults.overlay values with
  | error fault =>
    rw [given] at taken
    exact bind_of_error taken
  | ok settings =>
    rw [given] at taken
    rw [bind_of_ok taken]
    rfl

/-- Whether the settings come from the settings file. -/
def Origin.isFile : Origin → Bool
  | file => true
  | given _ => false

theorem of_announce {source : String} {s' : Session} (announced' : announce source s = .ok () s') :
    s' = s.adding (s.announced source) := by
  rw [announce_eq] at announced'
  split at announced'
  · cases announced'
  · cases announced'
    rfl

/-- A session that has started from the settings file has what is saved there. -/
theorem of_start_file (started : start .file (blank attached d) = .ok () s) :
    ∃ settings messages, d.saves = .ok (settings, messages) ∧
      ∃ posted, s = (fresh settings true attached d).adding posted := by
  rw [start_file] at started
  cases saved : d.saves with
  | error fault =>
    rw [saved] at started
    cases started
  | ok loaded =>
    rw [saved] at started
    exact ⟨_, _, rfl, _, (of_announce started).trans (adding_adding ..)⟩

/-- A session that has started from values that are given has the defaults with these above. -/
theorem of_start_given {values : List (String × Value)}
    (started : start (.given values) (blank attached d) = .ok () s) :
    ∃ settings, Settings.defaults.overlay values = .ok settings ∧
      ∃ posted, s = (fresh settings false attached d).adding posted := by
  rw [start_given] at started
  cases given : Settings.defaults.overlay values with
  | error fault =>
    rw [given] at started
    cases started
  | ok settings =>
    rw [given] at started
    exact ⟨settings, rfl, _, of_announce started⟩

/-- A session that has started has all settings, and its console follows them. -/
theorem exists_of_start {origin : Origin} (started : start origin (blank attached d) = .ok () s) :
    ∃ settings posted, settings.Complete ∧
      s = (fresh settings origin.isFile attached d).adding posted := by
  cases origin with
  | file =>
    obtain ⟨settings, messages, saved, posted, rfl⟩ := of_start_file started
    exact ⟨settings, posted, Directory.complete_of_saves saved, rfl⟩
  | given values =>
    obtain ⟨settings, given, posted, rfl⟩ := of_start_given started
    exact ⟨settings, posted, Settings.complete_defaults.overlay given, rfl⟩

end Session

end DebugScopes

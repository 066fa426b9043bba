import DebugScopes.Proofs.Session.History

/-!
# Changing settings

A change names a setting and a value for it. Both are checked before anything happens, so a change
that is refused leaves the session as it is. Otherwise the setting has its value from then on, and
the console follows. A session that persists writes all settings to the settings file then, if the
change is not for that session only.

* `Change.target`: the setting that a change is about, or why it is refused;
* `Change.run_eq`: all that a change can do;
* `Session.persist_eq`: all that writing the settings can do;
* `Session.changedAll`: the session after a row of changes;
* `Session.saved`: the text of the settings file.
-/

namespace DebugScopes

/-! ### The settings file -/

namespace Directory

variable {d : Directory}

/-- Where the settings file stands. -/
def settingsPath : Path := [".dwarf_srctree.conf"]

/-- Whether a folder stands in the place of the settings file. -/
def isBlocked (d : Directory) : Bool := d.isFolder settingsPath

theorem locate_settingsFile (d : Directory) : d.locate Session.settingsFile =
    .ok (if d.isBlocked then .folder else .file settingsPath) := by
  have steps : stepsOf Session.settingsFile = [".", ".dwarf_srctree.conf"] := by decide
  rw [locate, if_neg (by decide), if_neg (by decide), if_neg (by decide), steps]
  show d.walk [] [".", ".dwarf_srctree.conf"] = _
  rw [walk, if_pos (by decide), walk, if_neg (by decide), if_neg (by decide), if_neg (by decide)]
  show (if d.isBlocked then d.walk settingsPath []
    else if ([] : List String) = [] then .ok (.file settingsPath) else _) = _
  split_ifs <;> first | rfl | contradiction

/-- A folder in the place of the settings file cannot be read. -/
theorem read_settingsFile (d : Directory) : d.read Session.settingsFile =
    if d.isBlocked then .error .folder
    else
      match d.find? settingsPath with
      | some text => .ok (String.ofList (Reader.unifyLineEnds text.toList))
      | none => .error .missing := by
  rw [read, locate_settingsFile]
  split_ifs
  · rfl
  · show (match d.find? settingsPath with
      | some text => Except.ok (String.ofList (Reader.unifyLineEnds text.toList))
      | none => if settingsPath = void then .ok "" else .error Fault.missing) = _
    rw [if_neg (by decide)]

/-- The directory with a text in the settings file. -/
def saving (d : Directory) (text : String) : Directory :=
  { d with files := putIn settingsPath text d.files }

theorem write_settingsFile (free : d.isBlocked = false) (text : String) :
    d.write Session.settingsFile text = .ok (d.saving text) := by
  rw [write, locate_settingsFile, free]
  show (if settingsPath = void then Except.ok d
    else if settingsPath = full ∧ text ≠ "" then .error Fault.noSpace else .ok _) = _
  rw [if_neg (by decide), if_neg fun both => absurd both.1 (by decide)]
  rfl

@[simp] theorem isBlocked_saving (text : String) : (d.saving text).isBlocked = d.isBlocked := rfl

theorem read_saving (free : d.isBlocked = false) (text : String) :
    (d.saving text).read Session.settingsFile =
      .ok (String.ofList (Reader.unifyLineEnds text.toList)) := by
  have found : (d.saving text).find? settingsPath = some text :=
    find?_putIn settingsPath text d.files
  rw [read_settingsFile, isBlocked_saving, free, found]
  rfl

end Directory

/-! ### Changes -/

/-- A change of a setting. -/
inductive Change
  /-- For later sessions, too. -/
  | set (name : String) (v : Value)
  /-- For this session only. -/
  | override (name : String) (v : Value)

namespace Change

/-- The name of the setting. -/
def name : Change → String
  | set name _ | override name _ => name

/-- The value for the setting. -/
def value : Change → Value
  | set _ v | override _ v => v

/-- Whether a change is for later sessions, too. -/
def isSet : Change → Bool
  | set .. => true
  | override .. => false

/-- The setting that a change is about, or why it is refused. -/
def target (c : Change) : Except Settings.Fault Settings.Key :=
  match Settings.Key.ofName? c.name with
  | none => .error (.unknownName c.name)
  | some key => if Settings.takes key c.value then .ok key else .error (.noByteOrder c.value)

/-- Whether a change is accepted. -/
def isAccepted (c : Change) : Bool :=
  match c.target with
  | .ok _ => true
  | .error _ => false

/-- Makes a change. -/
def run : Change → Session.Action Unit
  | set name v => Session.set name v
  | override name v => Session.override name v

end Change

namespace Settings

/-- What is written to the settings file. -/
def page (settings : Settings) : MapFile.Draft :=
  MapFile.draft Session.mapName settings.entries

theorem change_eq (settings : Settings) (c : Change) :
    settings.change c.name c.value = c.target.map (settings.set · c.value) := by
  rw [change, key, Change.target]
  cases Key.ofName? c.name with
  | none => rfl
  | some key =>
    dsimp only
    show (if takes key c.value then _ else _) = _
    split_ifs <;> rfl

end Settings

namespace Session

variable {s : Session}

/-- The session with a value for a setting. The console follows if the setting is one of its own. -/
def giving (s : Session) (key : Settings.Key) (v : Value) : Session :=
  let settings := s.settings.set key v
  let own := key = .verbose ∨ key = .colors
  { s with
    settings := settings
    switch := if own then settings.colors else s.switch
    voiced := if own then settings.isVerbose else s.voiced }

/-- The session with the version of the settings file as its setting. -/
def stamped (s : Session) : Session :=
  { s with settings := s.settings.set .formatVersion (.int MapFile.formatVersion) }

/-- The session with its settings in the settings file. -/
def written (s : Session) : Session :=
  { s.stamped with directory := s.directory.saving s.stamped.settings.page.text }

/-- Writing the settings ends with all of them in the file, or with what could be written until
there was a value that no file can hold. -/
theorem persist_eq (free : s.directory.isBlocked = false) :
    persist s =
      match s.stamped.settings.page.refused with
      | some refusal => .error (.unwritable refusal) s.written
      | none => .ok () s.written := by
  have wrote : writeFile (.text settingsFile) settingsFile s.stamped.settings.page.text s.stamped =
      .ok () s.written := by
    rw [writeFile, show s.stamped.directory = s.directory from rfl,
      Directory.write_settingsFile free]
    rfl
  show (writeFile (.text settingsFile) settingsFile s.stamped.settings.page.text >>= fun _ =>
    match s.stamped.settings.page.refused with
    | some refusal => throw (.unwritable refusal)
    | none => pure ()) s.stamped = _
  rw [bind_of_ok wrote]
  cases s.stamped.settings.page.refused <;> rfl

/-- Be they written or not, the settings are the same but for the version. -/
theorem settings_persist (s : Session) : (left (persist s)).settings = s.stamped.settings := by
  show (left ((writeFile (.text settingsFile) settingsFile s.stamped.settings.page.text >>= fun _ =>
    match s.stamped.settings.page.refused with
    | some refusal => throw (.unwritable refusal)
    | none => pure ()) s.stamped)).settings = _
  cases wrote : s.stamped.directory.write settingsFile s.stamped.settings.page.text with
  | error fault =>
    have failed : writeFile (.text settingsFile) settingsFile s.stamped.settings.page.text s.stamped =
        .error (.file (.text settingsFile) fault) s.stamped := by
      rw [writeFile, wrote]
    rw [bind_of_error failed]
    rfl
  | ok directory =>
    have done : writeFile (.text settingsFile) settingsFile s.stamped.settings.page.text s.stamped =
        .ok () { s.stamped with directory := directory } := by
      rw [writeFile, wrote]
    rw [bind_of_ok done]
    cases s.stamped.settings.page.refused <;> rfl

end Session

namespace Change

open Session

variable {c : Change} {s : Session} {key : Settings.Key} {name : String} {v : Value}

theorem name_of_target (accepted : c.target = .ok key) : key.name = c.name := by
  unfold target at accepted
  split at accepted
  · cases accepted
  · next found =>
    split_ifs at accepted
    cases accepted
    exact Settings.Key.name_of_ofName? found

/-- What a change that is for later sessions does, and what an override does while the session does
not persist. -/
theorem set_eq (c : Change) (s : Session) :
    Session.set c.name c.value s =
      match c.target with
      | .error fault => .error (.setting fault) s
      | .ok key =>
        if s.persists then persist (s.giving key c.value) else .ok () (s.giving key c.value) := by
  have checked : ofSettings (s.settings.change c.name c.value) s =
      match c.target with
      | .error fault => .error (.setting fault) s
      | .ok key => .ok (s.settings.set key c.value) s := by
    rw [Settings.change_eq]
    cases c.target <;> rfl
  show (ofSettings (s.settings.change c.name c.value) >>= _) s = _
  cases accepted : c.target with
  | error fault =>
    rw [accepted] at checked
    exact bind_of_error checked
  | ok key =>
    rw [accepted] at checked
    have own : (c.name = Settings.Key.verbose.name ∨ c.name = Settings.Key.colors.name) ↔
        key = .verbose ∨ key = .colors := by
      rw [← name_of_target accepted, Settings.Key.name_inj, Settings.Key.name_inj]
    rw [bind_of_ok checked]
    simp only [own, giving]
    split_ifs with console saves saves
    · exact congrFun (if_pos saves) _
    · exact congrFun (if_neg saves) _
    · exact congrFun (if_pos saves) _
    · exact congrFun (if_neg saves) _

/-- What is to be done in the end is done after a failure, too. -/
theorem tryFinally_modify (action : Action Unit) (f : Session → Session) (s : Session) :
    tryFinally action (modify f) s =
      match action s with
      | .ok a s' => .ok a (f s')
      | .error e s' => .error e (f s') := by
  cases ran : action s <;>
    simp [tryFinally, tryFinally', ran, Functor.map, EStateM.map, EStateM.modifyGet, modify,
      modifyGet, MonadStateOf.modifyGet]

theorem override_eq (c : Change) (s : Session) :
    Session.override c.name c.value s =
      match c.target with
      | .error fault => .error (.setting fault) s
      | .ok key => .ok () (s.giving key c.value) := by
  show tryFinally (Session.set c.name c.value) (modify fun s' => { s' with persists := s.persists })
    { s with persists := false } = _
  rw [tryFinally_modify, set_eq]
  cases c.target <;> rfl

/-- All that a change can do. -/
theorem run_eq (c : Change) (s : Session) :
    c.run s =
      match c.target with
      | .error fault => .error (.setting fault) s
      | .ok key =>
        if c.isSet && s.persists then persist (s.giving key c.value)
        else .ok () (s.giving key c.value) := by
  cases c with
  | set name v => exact set_eq (.set name v) s
  | override name v => exact override_eq (.override name v) s

end Change

/-! ### Rows of changes -/

namespace Session

variable {c : Change} {s : Session} {key : Settings.Key}

/-- The session after a change, be it done or failed. -/
def changed (s : Session) (c : Change) : Session := left (c.run s)

/-- The session after a row of changes. -/
def changedAll (s : Session) (changes : List Change) : Session := changes.foldl changed s

/-- The text of the settings file, if there is one. -/
def saved (s : Session) : Option String := (s.directory.read settingsFile).toOption

theorem changed_of_refused {fault : Settings.Fault} (refused : c.target = .error fault) :
    s.changed c = s := by
  rw [changed, c.run_eq, refused]
  rfl

/-- A change that is for this session only, or in a session that does not persist. -/
theorem changed_of_kept (accepted : c.target = .ok key) (keeps : (c.isSet && s.persists) = false) :
    s.changed c = s.giving key c.value := by
  rw [changed, c.run_eq, accepted, keeps]
  rfl

/-- The settings with a new value for one, as they are saved. -/
def filed (settings : Settings) (key : Settings.Key) (v : Value) : Settings :=
  (settings.set key v).set .formatVersion (.int MapFile.formatVersion)

/-- A change that is for later sessions, too, in a session that persists. -/
theorem run_of_saved (free : s.directory.isBlocked = false) (accepted : c.target = .ok key)
    (saves : (c.isSet && s.persists) = true) :
    c.run s =
      match (filed s.settings key c.value).page.refused with
      | some refusal => .error (.unwritable refusal) (s.giving key c.value).written
      | none => .ok () (s.giving key c.value).written := by
  rw [c.run_eq, accepted, saves]
  exact @persist_eq (s.giving key c.value) free

theorem run_of_whole (free : s.directory.isBlocked = false) (accepted : c.target = .ok key)
    (saves : (c.isSet && s.persists) = true)
    (whole : (filed s.settings key c.value).page.refused = none) :
    c.run s = .ok () (s.giving key c.value).written := by
  rw [run_of_saved free accepted saves, whole]

theorem changed_of_saved (free : s.directory.isBlocked = false) (accepted : c.target = .ok key)
    (saves : (c.isSet && s.persists) = true) : s.changed c = (s.giving key c.value).written := by
  rw [changed, run_of_saved free accepted saves]
  cases (filed s.settings key c.value).page.refused <;> rfl

theorem changedAll_append (s : Session) (first more : List Change) :
    s.changedAll (first ++ more) = (s.changedAll first).changedAll more :=
  List.foldl_append

theorem changedAll_concat (s : Session) (past : List Change) (c : Change) :
    s.changedAll (past ++ [c]) = (s.changedAll past).changed c :=
  s.changedAll_append past [c]

end Session

end DebugScopes

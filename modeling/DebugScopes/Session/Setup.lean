import DebugScopes.MapFile.Loader
import DebugScopes.Session.Basic

/-!
# The settings of a session

A session takes its settings from the settings file, or it is given them. Only in the first case it
writes a changed setting back, and a setting can be overridden without being written.

* `Session.startOn` takes the settings that a session has at first, and `Session.start` does so if
  the settings file is one of assignments;
* `Session.set` and `Session.override` change a setting;
* `Session.tuned` makes the console follow the settings.
-/

namespace DebugScopes.Session

open Console

/-- The settings file. -/
def settingsFile : String := "./.dwarf_srctree.conf"

/-- The name of the map in the settings file. -/
def mapName : String := "config"

/-! ### Starting -/

/-- Where the settings come from. -/
inductive Origin
  /-- From the settings file, if there is one. -/
  | file
  /-- From the caller. -/
  | given (values : List (String × Value))

/-- A session that has nothing but files. -/
def blank (attached : Bool) (directory : Directory) : Session :=
  ⟨.defaults, .bool true, false, false, attached, none, directory, #[]⟩

/-- Takes the result of an operation on settings. -/
def ofSettings {α : Type} : Except Settings.Fault α → Action α
  | .ok a => pure a
  | .error fault => throw (.setting fault)

/-- Takes settings, and notes whether changes are to be saved. -/
def adopt (settings : Settings) (persists : Bool) : Action Unit :=
  modify fun s => { s with settings := settings, persists := persists }

/-- The console follows the settings. -/
def tuned (s : Session) : Session :=
  { s with switch := s.settings.colors, voiced := s.settings.isVerbose }

/-- Takes the settings in the settings file, if there is one, and posts what loading it reports. -/
def adoptSaved (machine : MapFile.Machine) : Action Unit := do
  match (← get).directory.read settingsFile with
  | .error .missing => adopt .defaults true
  | .error fault => throw (.file (.text settingsFile) fault)
  | .ok text =>
    match MapFile.loadOn machine settingsFile mapName Settings.defaults.entries text with
    | .error .illegibleVersion => throw .illegible
    | .error (.stopped stop) => throw (.stopped stop)
    | .ok (map, messages) => do
      adopt (.ofEntries map) true
      modify fun s => s.postAll messages

/-- Notes where the settings come from, and what they are. -/
def announce (source : String) : Action Unit := do
  note [.text source]
  note [.text "Loaded configuration: ", .dict (← get).settings.entries]

/-- Starts a session. -/
def startOn (machine : MapFile.Machine) : Origin → Action Unit
  | .file => do
    adoptSaved machine
    modify tuned
    announce ("Loaded config from file: " ++ settingsFile)
  | .given values => do
    let settings ← ofSettings (Settings.defaults.overlay values)
    adopt settings false
    modify tuned
    announce "Used programmatic configuration"

/-- Starts a session whose settings file is one of assignments. -/
def start (origin : Origin) : Action Unit := startOn .plain origin

/-! ### Changing settings -/

/-- Puts a file at a path. -/
def writeFile (path : Value) (name text : String) : Action Unit := fun s =>
  match s.directory.write name text with
  | .ok directory => .ok () { s with directory := directory }
  | .error fault => .error (.file path fault) s

/-- Writes the settings to the settings file, with the version of the format that it has. A value
that the file cannot hold ends it where it stands. -/
def persist : Action Unit := do
  modify fun s => { s with settings := s.settings.set .formatVersion (.int MapFile.formatVersion) }
  let draft := MapFile.draft mapName (← get).settings.entries
  writeFile (.text settingsFile) settingsFile draft.text
  match draft.refused with
  | some refusal => throw (.unwritable refusal)
  | none => pure ()

/-- The value of a setting. -/
def setting (name : String) : Action Value := do
  ofSettings ((← get).settings.valueOf name)

/-- Changes a setting, for later sessions too if this one persists. The console follows if the
setting is one of its own. -/
def set (name : String) (v : Value) : Action Unit := do
  let settings ← ofSettings ((← get).settings.change name v)
  modify fun s => { s with settings := settings }
  if name = Settings.Key.verbose.name ∨ name = Settings.Key.colors.name then modify tuned
  if (← get).persists then persist

/-- Changes a setting for this session, which does not persist for so long. -/
def override (name : String) (v : Value) : Action Unit := do
  let persists := (← get).persists
  modify fun s => { s with persists := false }
  try set name v
  finally modify fun s => { s with persists := persists }

end DebugScopes.Session

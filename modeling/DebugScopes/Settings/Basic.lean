import DebugScopes.Failure.Trail
import DebugScopes.MapFile.Writer
import DebugScopes.Bytes.Segment
import DebugScopes.Settings.Key
import DebugScopes.Value.Printer

/-!
# Settings

`Settings` is a map from the names of the settings to their values. Any value can be given to a
setting; the byte order alone is checked where it is set, and every setting is taken for what it is
when it is used.

* `Settings.get` and `Settings.set` read a setting and change one;
* `Settings.change` is `set` with its checks;
* `Settings.ofEntries` takes the settings out of the map of a settings file.
-/

namespace DebugScopes

/-- A text equals nothing but itself. -/
theorem Value.same_text_iff {v : Value} {s : String} : v.same (.text s) ↔ v = .text s := by
  cases v <;> simp [same, sameNumber, numeric?, members?, byteString?]

/-- The values of the settings, by name. -/
structure Settings where
  entries : Entries
deriving Repr

namespace Settings

/-- Why a setting cannot be read or changed. -/
inductive Fault
  /-- There is no setting of that name. -/
  | unknownName (name : String)
  /-- The value is no byte order. -/
  | noByteOrder (value : Value)
deriving Repr

/-- The wording of a fault. -/
def Fault.message : Fault → String
  | unknownName name => "Not a valid conf key: " ++ name
  | noByteOrder value => "srctree.endian must be 'little' or 'big', not " ++ value.written

/-- The value that a setting has at first. -/
def initial : Key → Value
  | .colors => .bool true
  | .formatVersion => .int MapFile.formatVersion
  | .verbose => .bool false
  | .graphFile => .null
  | .byteOrder => .text "little"
  | .entryPoint => .text "main"

/-- The settings to start with. -/
def defaults : Settings := ⟨Key.all.map fun key => (.text key.name, initial key)⟩

/-- The value of a setting, null if the map lacks it. -/
def get (settings : Settings) (key : Key) : Value :=
  (settings.entries.find? (.text key.name)).getD .null

/-- Gives a setting a value. A setting that the map lacks comes last. -/
def set (settings : Settings) (key : Key) (v : Value) : Settings :=
  ⟨settings.entries.insert (.text key.name) v⟩

theorem get_set_self (settings : Settings) (key : Key) (v : Value) :
    (settings.set key v).get key = v := by
  obtain ⟨entries⟩ := settings
  unfold get set
  induction entries with
  | nil => simp [Entries.insert, Entries.find?, Value.same]
  | cons row rest ih =>
    dsimp only [Entries.insert]
    by_cases here : row.1.same (.text key.name)
    · simp [here, Entries.find?]
    · simpa [here, Entries.find?] using ih

theorem get_set_other (settings : Settings) {key other : Key} (apart : other ≠ key) (v : Value) :
    (settings.set key v).get other = settings.get other := by
  have names : other.name ≠ key.name := fun same => apart (Key.name_inj.1 same)
  obtain ⟨entries⟩ := settings
  unfold get set
  induction entries with
  | nil => simp [Entries.insert, Entries.find?, Value.same, names.symm]
  | cons row rest ih =>
    dsimp only [Entries.insert]
    by_cases here : row.1.same (.text key.name)
    · have there : ¬ row.1.same (.text other.name) := fun same => names
        (Value.text.inj ((Value.same_text_iff.1 same).symm.trans (Value.same_text_iff.1 here)))
      simp [here, there, Entries.find?]
    · by_cases there : row.1.same (.text other.name)
      · simp [here, there, Entries.find?]
      · simpa [here, there, Entries.find?] using ih

/-! ### Settings by name -/

/-- The key of a name, which has to be one. -/
def key (name : String) : Except Fault Key :=
  match Key.ofName? name with
  | some key => .ok key
  | none => .error (.unknownName name)

/-- The value of the setting of a name. -/
def valueOf (settings : Settings) (name : String) : Except Fault Value := do
  .ok (settings.get (← key name))

/-- Whether a setting takes a value when it is set. -/
def takes (key : Key) (v : Value) : Bool :=
  match key with
  | .byteOrder => v.same (.text "little") || v.same (.text "big")
  | _ => true

/-- Gives the setting of a name a value that it takes. -/
def change (settings : Settings) (name : String) (v : Value) : Except Fault Settings := do
  let key ← key name
  if takes key v then .ok (settings.set key v) else .error (.noByteOrder v)

/-- Gives settings their values unchecked, one after the other. -/
def overlay (settings : Settings) : List (String × Value) → Except Fault Settings
  | [] => .ok settings
  | (name, v) :: rest => do overlay (settings.set (← key name) v) rest

/-! ### The map of a settings file -/

/-- Whether a key of a map is the name of a setting. -/
def isName : Value → Bool
  | .text name => (Key.ofName? name).isSome
  | _ => false

/-- The settings in a map. What is no setting does not count. -/
def ofEntries (map : Entries) : Settings := ⟨map.filter fun row => isName row.1⟩

/-! ### Settings in use -/

/-- The value of the colour switch. -/
def colors (settings : Settings) : Value := settings.get .colors

/-- Whether notes are wanted. -/
def verbose (settings : Settings) : Value := settings.get .verbose

/-- The file that every new tree is drawn to, if any. -/
def graphFile (settings : Settings) : Value := settings.get .graphFile

/-- The order of the bytes in an image, as it is set. -/
def byteOrder (settings : Settings) : Value := settings.get .byteOrder

/-- The name of the entry at which the program starts. -/
def entryPoint (settings : Settings) : Value := settings.get .entryPoint

/-- The byte order of a value. -/
def orderOf : Value → Except OrderFault ByteOrder
  | .text name => ByteOrder.ofName? name
  | _ => .error .notText

/-- The byte order that is set. -/
def order (settings : Settings) : Except OrderFault ByteOrder := orderOf settings.byteOrder

/-- Whether the notes are shown. -/
def isVerbose (settings : Settings) : Bool := settings.verbose.isTrue

end Settings

end DebugScopes

import DebugScopes.Image.Snapshot
import DebugScopes.Proofs.MapFile.Loading

/-!
# Files that hold no image

A file that is refused as a map file holds no image, and neither does one whose map names no schema,
a newer one, or something that is none. Of the other maps all parts of an image are asked for, in
turn, and then their values are looked at: the data, the usable length and the items. The first
thing that is wrong is the fault.

* `Snapshot.parts`: the image in a map with all its parts;
* `Snapshot.ofEntries_eq_error_iff`: the faults of a map;
* `Snapshot.fault_cases`: the faults of a file.
-/

namespace DebugScopes.Snapshot

open Console

variable {machine : MapFile.Machine} {file text : String} {map above : Entries} {fault : Fault}
  {message : Message}

/-! ### The steps of loading -/

/-- What a map has under a key; null if it lacks it. -/
def valueAt (map : Entries) (key : String) : Value := (map.find? (.text key)).getD .null

/-- Whether a map lacks a key. -/
def lacks (map : Entries) (key : String) : Bool := (map.find? (.text key)).isNone

/-- The keys that have to be there, in the order in which they are asked for. -/
def requiredKeys : List String := [dataKey, symbolsKey, infoStartKey, abbrevStartKey]

/-- The image in a map that has all its parts. -/
def parts (map : Entries) : Except Fault Snapshot := do
  let data ← bytes (valueAt map dataKey)
  let length ← usable data.size (valueAt map lengthKey)
  let items ← itemsOf (valueAt map symbolsKey)
  pure ⟨data, length, items, valueAt map infoStartKey, valueAt map abbrevStartKey⟩

/-- Once the schema is known, the first key that is missing is the fault, or the values decide. -/
theorem ofEntries_eq (known : checkSchema file map = .ok ()) :
    ofEntries file map =
      match requiredKeys.find? (lacks map) with
      | some key => .error (.missingKey key)
      | none => parts map := by
  rw [ofEntries, known]
  cases data : map.find? (.text dataKey) <;> cases symbols : map.find? (.text symbolsKey) <;>
    cases infoStart : map.find? (.text infoStartKey) <;>
    cases abbrevStart : map.find? (.text abbrevStartKey) <;>
    simp [requiredKeys, lacks, required, parts, valueAt, data, symbols, infoStart, abbrevStart,
      Bind.bind, Except.bind]

/-! ### The faults of a map -/

/-- A schema that is read. -/
def IsRead (version : Value) : Prop :=
  ∃ number, version.numeric? = some number ∧ number.compare? (.int schema) ≠ some .gt

/-- A schema that is too new. -/
def IsNewer (version : Value) : Prop :=
  ∃ number, version.numeric? = some number ∧ number.compare? (.int schema) = some .gt

/-- A map that is no image, and the first thing that is wrong with it. -/
inductive Refused (file : String) (map : Entries) : Fault → Prop
  /-- The map is one of another kind. -/
  | noImage (other : valueAt map schemaKey = .null) : Refused file map (.noImage file)
  | newer (newer : IsNewer (valueAt map schemaKey))
      (legible : (valueAt map schemaKey).legible = true) :
      Refused file map (.newerSchema (valueAt map schemaKey).written)
  /-- The schema is newer, and has too many digits to be named. -/
  | vast (newer : IsNewer (valueAt map schemaKey))
      (illegible : (valueAt map schemaKey).legible = false) : Refused file map .illegible
  /-- The schema is not even a number. -/
  | noSchema (there : valueAt map schemaKey ≠ .null)
      (other : (valueAt map schemaKey).numeric? = none) : Refused file map .wrongKind
  | missing {key : String} (read : IsRead (valueAt map schemaKey))
      (first : requiredKeys.find? (lacks map) = some key) : Refused file map (.missingKey key)
  /-- Something is wrong with the values. -/
  | value {fault : Fault} (read : IsRead (valueAt map schemaKey))
      (all : requiredKeys.find? (lacks map) = none) (failed : parts map = .error fault) :
      Refused file map fault

theorem checkSchema_of_null (other : valueAt map schemaKey = .null) :
    checkSchema file map = .error (.noImage file) := by
  rw [valueAt] at other
  rw [checkSchema, other]

theorem checkSchema_of_some (there : valueAt map schemaKey ≠ .null) :
    checkSchema file map =
      match (valueAt map schemaKey).numeric? with
      | none => .error .wrongKind
      | some number =>
        if number.compare? (.int schema) = some .gt then
          if (valueAt map schemaKey).legible then
            .error (.newerSchema (valueAt map schemaKey).written)
          else .error .illegible
        else .ok () := by
  rw [checkSchema, ← valueAt]
  cases version : valueAt map schemaKey with
  | null => exact absurd version there
  | _ => rfl

theorem ne_null_of_numeric {v : Value} {number : Value.Numeric}
    (numeric : v.numeric? = some number) :
    v ≠ .null := by
  rintro rfl
  cases numeric

theorem checkSchema_of_isRead (read : IsRead (valueAt map schemaKey)) :
    checkSchema file map = .ok () := by
  obtain ⟨number, numeric, known⟩ := read
  rw [checkSchema_of_some (ne_null_of_numeric numeric), numeric]
  exact if_neg known

theorem checkSchema_of_isNewer (newer : IsNewer (valueAt map schemaKey)) :
    checkSchema file map =
      if (valueAt map schemaKey).legible then .error (.newerSchema (valueAt map schemaKey).written)
      else .error .illegible := by
  obtain ⟨number, numeric, greater⟩ := newer
  rw [checkSchema_of_some (ne_null_of_numeric numeric), numeric]
  exact if_pos greater

/-- Either there is no schema, or it is no number, or it is too new, or it is read. -/
theorem schema_cases (version : Value) :
    version = .null ∨ version ≠ .null ∧ version.numeric? = none ∨ IsNewer version ∨
      IsRead version := by
  cases numeric : version.numeric? with
  | none => by_cases null : version = .null <;> simp [null]
  | some number =>
    right
    right
    by_cases greater : number.compare? (.int schema) = some .gt
    · exact .inl ⟨number, numeric, greater⟩
    · exact .inr ⟨number, numeric, greater⟩

/-- Until the schema is known nothing else is looked at. -/
theorem ofEntries_of_schema (unknown : checkSchema file map = .error fault) :
    ofEntries file map = .error fault := by
  rw [ofEntries, unknown]
  rfl

theorem ofEntries_of_refused (refused : Refused file map fault) :
    ofEntries file map = .error fault := by
  cases refused with
  | noImage other => exact ofEntries_of_schema (checkSchema_of_null other)
  | newer newer legible =>
    apply ofEntries_of_schema
    rw [checkSchema_of_isNewer newer, legible]
    rfl
  | vast newer illegible =>
    apply ofEntries_of_schema
    rw [checkSchema_of_isNewer newer, illegible]
    rfl
  | noSchema there other =>
    apply ofEntries_of_schema
    rw [checkSchema_of_some there, other]
  | missing read first => rw [ofEntries_eq (checkSchema_of_isRead read), first]
  | value read all failed => rw [ofEntries_eq (checkSchema_of_isRead read), all, failed]

/-- All that can be wrong with a map. -/
theorem ofEntries_eq_error_iff : ofEntries file map = .error fault ↔ Refused file map fault := by
  refine ⟨fun failed => ?_, ofEntries_of_refused⟩
  have same : ∀ {fault'}, Refused file map fault' → Refused file map fault := by
    intro fault' refused
    rw [ofEntries_of_refused refused] at failed
    cases failed
    exact refused
  rcases schema_cases (valueAt map schemaKey) with other | ⟨there, other⟩ | newer | read
  · exact same (.noImage other)
  · exact same (.noSchema there other)
  · cases legible : (valueAt map schemaKey).legible with
    | true => exact same (.newer newer legible)
    | false => exact same (.vast newer legible)
  · rw [ofEntries_eq (checkSchema_of_isRead read)] at failed
    cases first : requiredKeys.find? (lacks map) with
    | some key => exact same (.missing read first)
    | none =>
      rw [first] at failed
      exact .value read first failed

/-! ### The faults of a file -/

theorem mapName_ne_versionName : mapName ≠ MapFile.versionName := by decide

theorem loadOn_of_holds (holds : MapFile.Holds machine mapName text above) :
    loadOn machine file text = (ofEntries file (Entries.ofList above), []) := by
  rw [loadOn, MapFile.loadOn_of_holds holds]
  rfl

/-- A file that is refused as a map file has an empty map, and so no schema. -/
theorem loadOn_of_rejected (rejected : MapFile.Rejected machine file mapName text message) :
    loadOn machine file text = (.error (.noImage file), [message]) := by
  rw [loadOn, MapFile.loadOn_of_rejected mapName_ne_versionName rejected]
  rfl

theorem loadOn_of_unnameable (unnameable : MapFile.Unnameable machine mapName text) :
    loadOn machine file text = (.error .illegible, []) := by
  rw [loadOn, MapFile.loadOn_of_unnameable unnameable]

theorem loadOn_of_stopped {stop : MapFile.Stop}
    (stops : machine.run text (.start mapName) = .stopped stop) :
    loadOn machine file text = (.error (.stopped stop), []) := by
  rw [loadOn, MapFile.loadOn_of_stopped stops]

/-- All that can be wrong with a file. -/
theorem fault_cases {messages : List Message}
    (failed : loadOn machine file text = (.error fault, messages)) :
    (fault = .noImage file ∧
      ∃ message, MapFile.Rejected machine file mapName text message ∧ messages = [message]) ∨
    (fault = .illegible ∧ MapFile.Unnameable machine mapName text ∧ messages = []) ∨
    (∃ stop, fault = .stopped stop ∧ machine.run text (.start mapName) = .stopped stop ∧
      messages = []) ∨
    ∃ above, MapFile.Holds machine mapName text above ∧ Refused file (Entries.ofList above) fault ∧
      messages = [] := by
  rcases MapFile.holds_or_rejected_or_unnameable machine file mapName text with
    ⟨above, holds⟩ | ⟨message, rejected⟩ | unnameable | ⟨stop, stops⟩
  · rw [loadOn_of_holds holds] at failed
    obtain ⟨refused, silent⟩ := Prod.mk.inj failed
    exact .inr (.inr (.inr ⟨above, holds, ofEntries_eq_error_iff.1 refused, silent.symm⟩))
  · rw [loadOn_of_rejected rejected] at failed
    cases failed
    exact .inl ⟨rfl, message, rejected, rfl⟩
  · rw [loadOn_of_unnameable unnameable] at failed
    cases failed
    exact .inr (.inl ⟨rfl, unnameable, rfl⟩)
  · rw [loadOn_of_stopped stops] at failed
    cases failed
    exact .inr (.inr (.inl ⟨stop, rfl, stops, rfl⟩))

end DebugScopes.Snapshot

import DebugScopes.Settings.Basic
import Mathlib

/-!
# All settings and no others

The map of a session has an entry for every setting and none besides, in the order of the settings
file. The defaults have, a change keeps it, and it holds of what is loaded from a file, whatever
keys that file has.

* `Settings.Complete`: the keys of a map are the names of the settings;
* `Settings.Complete.set` and `Settings.complete_ofEntries`: changes and files keep it;
* `Settings.Complete.ext`: a complete map is known by the values of the settings.
-/

namespace DebugScopes

/-! ### Maps -/

namespace Entries

variable {entries : Entries} {key v : Value}

/-- A key that is there stays in its place. -/
theorem map_fst_insert (found : ∃ row ∈ entries, row.1.same key) :
    (insert entries key v).map (·.1) = entries.map (·.1) := by
  induction entries with
  | nil =>
    obtain ⟨row, among, -⟩ := found
    cases among
  | cons first rest ih =>
    obtain ⟨k, w⟩ := first
    rw [insert]
    split
    · rfl
    · next here =>
      obtain ⟨row, among, same⟩ := found
      rcases List.mem_cons.1 among with rfl | below
      · exact absurd same here
      · exact congrArg (k :: ·) (ih ⟨row, below, same⟩)

/-- A key comes last unless it is there. -/
theorem map_fst_insert_of_new (new : ¬ ∃ row ∈ entries, row.1.same key) :
    (insert entries key v).map (·.1) = entries.map (·.1) ++ [key] := by
  induction entries with
  | nil => rfl
  | cons first rest ih =>
    obtain ⟨k, w⟩ := first
    rw [insert, if_neg fun here => new ⟨(k, w), List.mem_cons_self, here⟩]
    have others : ¬ ∃ row ∈ rest, row.1.same key := by
      rintro ⟨row, below, same⟩
      exact new ⟨row, List.mem_cons_of_mem _ below, same⟩
    exact congrArg (k :: ·) (ih others)

end Entries

namespace Settings

variable {settings other : Settings} {map above : Entries} {key : Key} {v : Value}

/-! ### The keys of a map -/

/-- The keys of the settings file, in its order. -/
def names : List Value := Key.all.map fun key => .text key.name

/-- The map has all settings, and no others. -/
def Complete (settings : Settings) : Prop := settings.entries.map (·.1) = names

theorem complete_defaults : defaults.Complete := rfl

theorem mem_names (key : Key) : .text key.name ∈ names :=
  List.mem_map_of_mem (by cases key <;> decide)

theorem isName_iff : isName v ↔ ∃ key : Key, v = .text key.name := by
  constructor
  · intro name
    cases v with
    | text name' =>
      obtain ⟨key, found⟩ := Option.isSome_iff_exists.1 name
      exact ⟨key, by rw [Key.name_of_ofName? found]⟩
    | _ => cases name
  · rintro ⟨key, rfl⟩
    exact Option.isSome_iff_exists.2 ⟨key, Key.ofName?_name key⟩

/-- Every setting has a row in a map with all of them. -/
theorem exists_row (all : names ⊆ map.map (·.1)) (key : Key) :
    ∃ row ∈ map, row.1.same (.text key.name) := by
  obtain ⟨row, among, same⟩ := List.mem_map.1 (all (mem_names key))
  exact ⟨row, among, Value.same_text_iff.2 same⟩

theorem Complete.set (complete : settings.Complete) (key : Key) (v : Value) :
    (settings.set key v).Complete :=
  (Entries.map_fst_insert (exists_row (complete ▸ List.Subset.refl _) key)).trans complete

/-- Settings that are given by their names keep the map complete. -/
theorem Complete.overlay {values : List (String × Value)} (complete : settings.Complete)
    (given : settings.overlay values = .ok other) : other.Complete := by
  induction values generalizing settings with
  | nil =>
    cases given
    exact complete
  | cons first rest ih =>
    obtain ⟨name, v⟩ := first
    rw [Settings.overlay] at given
    cases named : Settings.key name with
    | error fault =>
      rw [named] at given
      cases given
    | ok key =>
      rw [named] at given
      exact ih (complete.set key v) given

/-! ### Files -/

theorem map_fst_ofEntries (map : Entries) :
    (ofEntries map).entries.map (·.1) = (map.map (·.1)).filter isName := by
  rw [List.filter_map]
  rfl

/-- A key that is put into a map with all settings is one of them, or no setting at all. -/
theorem filter_insert (complete : (map.map (·.1)).filter isName = names) (k v : Value) :
    ((Entries.insert map k v).map (·.1)).filter isName = names := by
  by_cases found : ∃ row ∈ map, row.1.same k
  · rw [Entries.map_fst_insert found, complete]
  · rw [Entries.map_fst_insert_of_new found, List.filter_append, complete]
    have stale : isName k = false := by
      rw [Bool.eq_false_iff]
      intro name
      obtain ⟨key, rfl⟩ := isName_iff.1 name
      exact found (exists_row (complete ▸ List.filter_sublist.subset) key)
    simp [stale]

/-- Whatever keys a file has, the settings in it over the defaults are complete. -/
theorem complete_ofEntries (above : Entries) :
    (ofEntries (Entries.overlay defaults.entries above)).Complete := by
  have complete : ∀ map : Entries, (map.map (·.1)).filter isName = names →
      ((Entries.overlay map above).map (·.1)).filter isName = names := by
    induction above with
    | nil => exact fun map complete => complete
    | cons first rest ih => exact fun map complete => ih _ (filter_insert complete first.1 first.2)
  exact (map_fst_ofEntries _).trans (complete _ rfl)

/-! ### The values of the settings -/

theorem find?_cons_name (key other : Key) (v : Value) (map : Entries) :
    Entries.find? ((.text key.name, v) :: map) (.text other.name) =
      if key = other then some v else Entries.find? map (.text other.name) := by
  have same : (Value.text key.name).same (.text other.name) = decide (key = other) := by
    rw [Bool.eq_iff_iff, Value.same_text_iff, Value.text.injEq, Key.name_inj, decide_eq_true_iff]
  rw [Entries.find?, List.find?_cons, same]
  by_cases here : key = other
  · rw [decide_eq_true here, if_pos here]
    rfl
  · rw [decide_eq_false here, if_neg here]
    rfl

/-- The settings with these values. -/
def ofValues (f : Key → Value) : Settings := ⟨Key.all.map fun key => (.text key.name, f key)⟩

theorem complete_ofValues (f : Key → Value) : (ofValues f).Complete := rfl

theorem get_ofValues (f : Key → Value) (key : Key) : (ofValues f).get key = f key := by
  cases key <;> rfl

/-- A map whose keys are names that differ is known by what is found under them. -/
theorem rows_eq {keys : List Key} (differ : keys.Nodup)
    (rows : map.map (·.1) = keys.map fun key => .text key.name) :
    map = keys.map fun key =>
      (.text key.name, (Entries.find? map (.text key.name)).getD .null) := by
  induction keys generalizing map with
  | nil => exact List.map_eq_nil_iff.1 rows
  | cons key keys ih =>
    obtain ⟨new, differ⟩ := List.nodup_cons.1 differ
    cases map with
    | nil => cases rows
    | cons row map =>
      obtain ⟨k, v⟩ := row
      obtain ⟨first, others⟩ := List.cons.inj rows
      cases first
      rw [List.map_cons, find?_cons_name, if_pos rfl]
      refine congrArg _ ((ih differ others).trans (List.map_congr_left fun other among => ?_))
      have apart : key ≠ other := fun same => new (same ▸ among)
      rw [find?_cons_name, if_neg apart]

/-- A complete map is known by the values of the settings. -/
theorem Complete.eq_ofValues (complete : settings.Complete) : settings = ofValues settings.get :=
  congrArg mk (rows_eq (by decide) complete)

theorem Complete.ext (complete : settings.Complete) (complete' : other.Complete)
    (same : ∀ key, settings.get key = other.get key) : settings = other := by
  rw [complete.eq_ofValues, complete'.eq_ofValues, funext same]

/-- Settings laid over others take their place. -/
theorem get_overlay_ofValues (f : Key → Value) (key : Key) :
    (⟨Entries.overlay settings.entries (ofValues f).entries⟩ : Settings).get key = f key := by
  show ((((((settings.set .colors (f .colors)).set .formatVersion (f .formatVersion)).set .verbose
    (f .verbose)).set .graphFile (f .graphFile)).set .byteOrder (f .byteOrder)).set .entryPoint
      (f .entryPoint)).get key = f key
  cases key <;> simp [get_set_self, get_set_other]

/-- What holds of all values in a map holds of its settings. -/
theorem get_of_forall {P : Value → Prop} (all : ∀ row ∈ settings.entries, P row.2) (null : P .null)
    (key : Key) : P (settings.get key) := by
  rw [get, Entries.find?]
  cases found : List.find? (fun entry => entry.1.same (.text key.name)) settings.entries with
  | none => exact null
  | some row => exact all row (List.mem_of_find?_eq_some found)

end Settings

end DebugScopes

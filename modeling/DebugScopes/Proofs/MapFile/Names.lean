import DebugScopes.MapFile.Loader
import Mathlib

/-!
# Names and the map among them

A row of assignments gives each name the last value that it has for it; names that it does not
mention keep what they stood for. A file is judged by two names, the version and the map, and what
is loaded is the map that has been found, laid over the defaults.

* `MapFile.lastValue?`: the last value for a name;
* `MapFile.Names.assign_apply`: what a name stands for behind a row of assignments;
* `MapFile.loadOn_eq_ok_iff`: what is loaded, by what has been found.
-/

namespace DebugScopes.MapFile

open Console

variable {machine : Machine} {file map name other text : String} {names : Names} {v : Value}
  {row : String × Value} {rows : List (String × Value)} {defaults loaded above : Entries}
  {messages : List Message}

/-! ### The last value -/

/-- The last value that a row of assignments gives to a name. -/
def lastValue? (rows : List (String × Value)) (name : String) : Option Value :=
  rows.foldl (fun found row => if row.1 = name then some row.2 else found) none

/-- The last assignment counts if it is one to the name. -/
theorem lastValue?_concat :
    lastValue? (rows ++ [row]) name =
      if row.1 = name then some row.2 else lastValue? rows name := by
  rw [lastValue?, List.foldl_append]
  rfl

/-- A value given behind the start of a row of assignments counts. -/
theorem lastValue?_cons :
    lastValue? ((name, v) :: rows) other =
      (lastValue? rows other).or (if name = other then some v else none) := by
  have behind : ∀ start : Option Value,
      rows.foldl (fun found row => if row.1 = other then some row.2 else found) start =
        (lastValue? rows other).or start := by
    intro start
    induction rows using List.reverseRecOn with
    | nil => rfl
    | append_singleton rows row ih =>
      rw [List.foldl_append, ih, lastValue?_concat, List.foldl_cons, List.foldl_nil]
      split <;> rfl
  exact behind _

/-- The last value that is given to a name is one of those that are given. -/
theorem exists_of_lastValue? (last : lastValue? rows name = some v) : ∃ row ∈ rows, row.2 = v := by
  induction rows using List.reverseRecOn with
  | nil => cases last
  | append_singleton rows row ih =>
    rw [lastValue?_concat] at last
    split_ifs at last
    · cases last
      exact ⟨row, by simp, rfl⟩
    · obtain ⟨row', among, same⟩ := ih last
      exact ⟨row', List.mem_append_left _ among, same⟩

/-! ### Names -/

namespace Names

@[simp] theorem set_self : names.set name v name = some v := if_pos rfl

@[simp] theorem set_other (apart : name ≠ other) : names.set name v other = names other :=
  if_neg apart

@[simp] theorem start_self : start map map = some (.dict []) := set_self

/-- Before a file is run there is nothing but the map. -/
theorem start_other (apart : map ≠ name) : start map name = none := set_other apart

/-- What a name stands for behind a row of assignments. -/
theorem assign_apply : names.assign rows name = (lastValue? rows name).or (names name) := by
  induction rows using List.reverseRecOn with
  | nil => rfl
  | append_singleton rows row ih =>
    rw [assign, List.foldl_append, List.foldl_cons, List.foldl_nil, ← assign, lastValue?_concat,
      set, ih]
    split <;> rfl

/-- The version behind a row of assignments is the last one that is given. -/
theorem version_assign (other : map ≠ versionName) :
    (start map).assign rows versionName = lastValue? rows versionName := by
  rw [assign_apply, start_other other, Option.or_none]

/-- The map behind a row of assignments is the last one that is given, and empty if there is
none. -/
theorem map_assign :
    (start map).assign rows map = some ((lastValue? rows map).getD (.dict [])) := by
  rw [assign_apply, start_self, Option.or_some]

end Names

/-! ### What has been found -/

theorem Machine.plain_run (read : Reader.assignments? text = some rows) :
    plain.run text names = .finished (names.assign rows) := by
  simp only [plain, read]

theorem Machine.plain_run_none (unread : Reader.assignments? text = none) :
    plain.run text names = .failed names := by
  simp only [plain, unread]

/-- What has been found is the map among the names that count. -/
theorem foundOn_of_settle (settled : settle machine file map text = .ok (names, messages)) :
    foundOn machine file map text =
      (judge file map names).map fun verdict => (verdict.1, messages ++ verdict.2) := by
  have judged : foundOn machine file map text =
      (judge file map names).bind fun verdict => .ok (verdict.1, messages ++ verdict.2) := by
    rw [foundOn, settled]
    rfl
  rw [judged]
  cases judge file map names <;> rfl

/-- A file that has been run to its end is judged by its names. -/
theorem foundOn_of_finished (ends : machine.run text (.start map) = .finished names) :
    foundOn machine file map text = judge file map names := by
  have settled : settle machine file map text = .ok (names, []) := by rw [settle, ends]
  rw [foundOn_of_settle settled]
  cases judge file map names <;> rfl

/-- A file that fails gives an empty map, whatever it has set before. -/
theorem foundOn_of_failed (other : map ≠ versionName)
    (breaks : machine.run text (.start map) = .failed names) :
    foundOn machine file map text = .ok ([], [unread file]) := by
  have settled : settle machine file map text = .ok (names.reset map, [unread file]) := by
    rw [settle, breaks]
  have judged : judge file map (names.reset map) = .ok ([], []) := by
    rw [judge, Names.reset, Names.set_self, Names.set_other other.symm, Names.set_self]
    rfl
  rw [foundOn_of_settle settled, judged]
  rfl

theorem foundOn_of_stopped {stop : Stop} (stops : machine.run text (.start map) = .stopped stop) :
    foundOn machine file map text = .error (.stopped stop) := by
  rw [foundOn, settle, stops]
  rfl

/-- What has been found comes of the names that count, and every message is about the file or about
its map. -/
theorem of_foundOn_ok (given : foundOn machine file map text = .ok (above, messages)) :
    ∃ names first more, settle machine file map text = .ok (names, first) ∧
      judge file map names = .ok (above, more) ∧ messages = first ++ more := by
  cases settled : settle machine file map text with
  | error fault =>
    rw [foundOn, settled] at given
    cases given
  | ok both =>
    obtain ⟨names, first⟩ := both
    rw [foundOn_of_settle settled] at given
    cases judged : judge file map names with
    | error fault =>
      rw [judged] at given
      cases given
    | ok verdict =>
      rw [judged] at given
      cases given
      exact ⟨names, first, _, rfl, judged, rfl⟩

/-- The map that counts is that of the name, or empty. -/
theorem of_judge_ok (judged : judge file map names = .ok (above, messages)) :
    above = [] ∨ names map = some (.dict above) := by
  rw [judge] at judged
  split at judged
  · split at judged
    · cases judged
    · cases judged
      exact .inl rfl
  · split at judged
    · next there =>
      cases judged
      exact .inr there
    · cases judged
      exact .inl rfl

/-- What is loaded are the defaults with the map that has been found laid over them. -/
theorem loadOn_eq_map : loadOn machine file map defaults text =
      (foundOn machine file map text).map fun found =>
        (Entries.overlay defaults found.1, found.2) := by
  rw [loadOn]
  cases foundOn machine file map text <;> rfl

theorem loadOn_eq_ok_iff : loadOn machine file map defaults text = .ok (loaded, messages) ↔
    ∃ above, foundOn machine file map text = .ok (above, messages) ∧
      loaded = Entries.overlay defaults above := by
  rw [loadOn_eq_map]
  cases foundOn machine file map text with
  | error fault => exact ⟨nofun, nofun⟩
  | ok found =>
    obtain ⟨above, reports⟩ := found
    constructor
    · intro same
      cases same
      exact ⟨above, rfl, rfl⟩
    · rintro ⟨above, same, rfl⟩
      cases same
      rfl

end DebugScopes.MapFile

import DebugScopes.Proofs.MapFile.RoundTrip
import DebugScopes.Proofs.MapFile.Truncated
import DebugScopes.Proofs.Session.InStep

/-!
# Saved settings, loaded again

Settings with plain values come back from the settings file as a file keeps them, unless one of them
has an integer that is too long, in which case the file ends too early, or too many brackets inside
each other. Then nothing comes back.

* `Value.IsSetting`: the plain values that can come up, and `Value.lasts`: which of them come back;
* `Settings.load_page`: what is loaded of saved settings;
* `Settings.page_text_inj`: the file tells settings apart.
-/

namespace DebugScopes

open MapFile

/-- A plain value that can come up. -/
structure Value.IsSetting (v : Value) : Prop where
  plain : v.isPlain
  sound : v.sound

/-- Whether a value comes back from a settings file, if it is plain. -/
def Value.lasts (v : Value) : Bool := v.legible && v.nesting < Reader.deepest

namespace MapFile

open Value

mutual

/-- What a file keeps of a value is written like the value. -/
theorem draftValue_kept : ∀ v : Value, draftValue v.kept = draftValue v
  | .null | .bool _ | .int _ | .float _ | .complex _ _ | .text _ | .halves _ | .bytes _ | .buffer _
  | .set _ | .frozen _ | .range _ _ | .foreign _ => rfl
  | .list xs | .tuple xs => by
    rw [kept, draftValue, draftItems_kept xs]
    rfl
  | .dict entries => by rw [kept, draftValue, draftValue, draftEntries_kept entries]

theorem draftItems_kept : ∀ xs : List Value, draftItems (keptItems xs) = draftItems xs
  | [] => rfl
  | x :: xs => by rw [keptItems, draftItems, draftItems, draftValue_kept x, draftItems_kept xs]

theorem draftEntries_kept : ∀ entries : List (Value × Value),
    draftEntries (keptEntries entries) = draftEntries entries
  | [] => rfl
  | (k, v) :: rest => by
    rw [keptEntries, draftEntries, draftEntries, draftValue_kept v, draftEntries_kept rest]

end

theorem draftRows_kept (data : Entries) : draftRows (keptEntries data) = draftRows data := by
  induction data with
  | nil => rfl
  | cons row rest ih =>
    obtain ⟨k, v⟩ := row
    have first : draftRow (k, v.kept) = draftRow (k, v) := by
      by_cases null : k = .null
      · rw [null, draftRow_null, draftRow_null, draftValue_kept]
      · rw [draftRow_eq null, draftRow_eq null, draftValue_kept]
    rw [keptEntries, draftRows, draftRows, first, ih]

end MapFile

namespace Settings

variable {settings other : Settings} {f g : Key → Value}

theorem Key.forall_iff {P : Key → Prop} : (∀ key, P key) ↔
    P .colors ∧ P .formatVersion ∧ P .verbose ∧ P .graphFile ∧ P .byteOrder ∧ P .entryPoint :=
  ⟨fun all => ⟨all _, all _, all _, all _, all _, all _⟩, by
    rintro ⟨colors, version, verbose, graph, order, entry⟩ (_ | _)
    all_goals assumption⟩

theorem Key.all_all {p : Key → Bool} : Key.all.all p ↔ ∀ key, p key := by
  simp [Key.all, Key.forall_iff]

/-! ### The rows of all settings -/

theorem texts_ofValues (f : Key → Value) : ∀ row ∈ (ofValues f).entries, row.1.isText := by
  rintro row among
  obtain ⟨key, -, rfl⟩ := List.mem_map.1 among
  rfl

theorem plain_ofValues (plain : ∀ key, (f key).isPlain) :
    Value.entriesPlain (ofValues f).entries := by
  simp [ofValues, Key.all, Value.entriesPlain, Value.isPlainKey, plain]

theorem keysDiffer_ofValues (f : Key → Value) : Value.keysDiffer (ofValues f).entries :=
  have same : Value.keysDiffer (ofValues f).entries = Value.keysDiffer defaults.entries :=
    Value.keysDiffer_congr rfl
  same.trans (by decide)

theorem isRow_ofValues (sound : ∀ key, (f key).sound) :
    ∀ row ∈ (ofValues f).entries, IsRow row.1 row.2 := by
  rintro row among
  obtain ⟨key, -, rfl⟩ := List.mem_map.1 among
  exact isRow_of_text rfl rfl (sound key)

theorem legible_ofValues : Value.entriesLegible (ofValues f).entries ↔ ∀ key, (f key).legible := by
  simp [ofValues, Key.all, Value.entriesLegible, Value.legible, Key.forall_iff]

theorem nesting_ofValues : Value.nestingOfEntries (ofValues f).entries < Reader.deepest ↔
    ∀ key, (f key).nesting < Reader.deepest := by
  have some : 0 < Reader.deepest := by decide
  simp only [ofValues, Key.all, List.map_cons, List.map_nil, Value.nestingOfEntries, Value.nesting,
    Nat.max_lt, some, true_and, and_true, Key.forall_iff]

theorem kept_ofValues (f : Key → Value) :
    Value.keptEntries (ofValues f).entries = (ofValues fun key => (f key).kept).entries := rfl

theorem overlay_ofValues (f : Key → Value) :
    Entries.overlay defaults.entries (ofValues f).entries = (ofValues f).entries := by
  have complete :
      (⟨Entries.overlay defaults.entries (ofValues f).entries⟩ : Settings).Complete := rfl
  exact congrArg entries (complete.ext (complete_ofValues f) fun key =>
    (get_overlay_ofValues f key).trans (get_ofValues f key).symm)

/-! ### What is loaded -/

/-- Only an integer that is too long keeps settings from being saved. -/
theorem refused_page (setting : ∀ key, (f key).IsSetting) :
    (ofValues f).page.refused = none ↔ ∀ key, (f key).legible := by
  rw [page, refused_draft (texts_ofValues f) (plain_ofValues fun key => (setting key).plain),
    ← legible_ofValues]
  cases Value.entriesLegible (ofValues f).entries <;> simp [stopped]

/-- Settings whose writing was stopped do not come back. -/
theorem not_lasts_of_refused (setting : ∀ key, (f key).IsSetting)
    (refused : (ofValues f).page.refused ≠ none) :
    (Key.all.all fun key => (f key).lasts) = false := by
  rw [Bool.eq_false_iff]
  intro lasts
  refine refused ((refused_page setting).2 fun key => ?_)
  have last := Key.all_all.1 lasts key
  rw [Value.lasts, Bool.and_eq_true] at last
  exact last.1

theorem given_ofValues (f : Key → Value) :
    given Session.settingsFile Session.mapName defaults.entries (Normal.form Session.mapName)
      (.dict (ofValues f).entries) = .ok ((ofValues f).entries, []) := by
  have form : Normal.form Session.mapName = Session.mapName := isAssignable_config.2
  rw [form, given, if_neg (by decide), if_pos rfl, laid, overlay_ofValues]

/-- What is loaded of saved settings. -/
theorem load_page (setting : ∀ key, (f key).IsSetting) :
    load Session.settingsFile Session.mapName defaults.entries (ofValues f).page.text =
      if Key.all.all fun key => (f key).lasts then
        .ok ((ofValues fun key => (f key).kept).entries, [])
      else .ok (defaults.entries, [unread Session.settingsFile]) := by
  have isRow := isRow_ofValues fun key => (setting key).sound
  have whole := (refused_page setting).trans legible_ofValues.symm
  have lasts : (Key.all.all fun key => (f key).lasts) =
      (Value.entriesLegible (ofValues f).entries && (ofValues f).entries.all rowFits) := by
    rw [Bool.eq_iff_iff, Bool.and_eq_true, legible_ofValues,
      all_rowFits_iff (plain_ofValues fun key => (setting key).plain), nesting_ofValues,
      Key.all_all, ← forall_and]
    simp only [Value.lasts, Bool.and_eq_true, decide_eq_true_eq]
  rw [lasts]
  cases legible : Value.entriesLegible (ofValues f).entries with
  | false =>
    exact load_stopped _ _ (by decide) (by decide) isRow
      fun unstopped => nomatch legible.symm.trans (whole.1 unstopped)
  | true =>
    rw [page, load_rows (by decide) (by decide) isRow (whole.2 legible), kept_ofValues,
      Entries.ofList_of_keysDiffer (keysDiffer_ofValues _), given_ofValues, Bool.true_and]
    simp only [Session.mapName, isAssignable_config, true_and]

/-- The settings file tells settings apart that come back from it, up to what it keeps of them. -/
theorem page_text_inj (setting : ∀ key, (f key).IsSetting ∧ (f key).lasts)
    (setting' : ∀ key, (g key).IsSetting ∧ (g key).lasts) :
    (ofValues f).page.text = (ofValues g).page.text ↔ ∀ key, (f key).kept = (g key).kept := by
  constructor
  · intro same key
    have loaded := load_page fun key => (setting key).1
    have loaded' := load_page fun key => (setting' key).1
    rw [if_pos (Key.all_all.2 fun key => (setting key).2)] at loaded
    rw [if_pos (Key.all_all.2 fun key => (setting' key).2), ← same, loaded, Except.ok.injEq,
      Prod.mk.injEq] at loaded'
    rw [← get_ofValues (fun key => (f key).kept), ← get_ofValues (fun key => (g key).kept)]
    exact congrArg (fun rows => (⟨rows⟩ : Settings).get key) loaded'.1
  · intro same
    have written : ∀ f : Key → Value,
        (ofValues f).page = (ofValues fun key => (f key).kept).page := fun f => by
      rw [page, page, draft, draft, ← kept_ofValues, draftRows_kept]
    rw [written f, written g, funext same]

end Settings

end DebugScopes

import DebugScopes.Proofs.Session.Saving

/-!
# Overrides and the settings file

An override is not written when it is made. But it goes into the settings like any other change, and
the next change that is for later sessions writes them all. So an override stays out of the settings
file only if nothing is written while it is in force, or if it says what is saved anyway.

* `Session.latest`: the value that a row of changes leaves a setting with;
* `Session.saved_concat`: what the settings file is after a row of changes;
* `Session.Undisturbed`: the file is what it would be without the overrides;
* `Session.undisturbed_iff`: the rows of changes that leave it so.
-/

namespace DebugScopes

/-! ### What changes come to -/

namespace Change

/-- The value that a change gives a setting, if it is accepted and about that setting. -/
def gives? (c : Change) (key : Settings.Key) : Option Value :=
  match c.target with
  | .ok target => if target = key then some c.value else none
  | .error _ => none

end Change

/-- What is written if the settings have these values. The version of the file is its own. -/
def Settings.pageOf (f : Settings.Key → Value) : MapFile.Draft :=
  (ofValues fun key => if key = .formatVersion then .int MapFile.formatVersion else f key).page

namespace Session

variable {s : Session} {c : Change} {past changes : List Change} {key : Settings.Key}
  {attached : Bool} {d : Directory}

/-- The value that a row of changes leaves a setting with. -/
def latest (settings : Settings) (changes : List Change) (key : Settings.Key) : Value :=
  changes.foldl (fun v c => (c.gives? key).getD v) (settings.get key)

theorem latest_concat (settings : Settings) (past : List Change) (c : Change)
    (key : Settings.Key) :
    latest settings (past ++ [c]) key = (c.gives? key).getD (latest settings past key) := by
  rw [latest, List.foldl_append]
  rfl

/-- What holds of the values at first and of those of the changes holds of what they come to. -/
theorem latest_of_forall {P : Value → Prop} {settings : Settings}
    (initial : ∀ key, P (settings.get key)) (values : ∀ c ∈ changes, P c.value)
    (key : Settings.Key) : P (latest settings changes key) := by
  induction changes using List.reverseRecOn with
  | nil => exact initial key
  | append_singleton past c ih =>
    rw [latest_concat, Change.gives?]
    have before := ih fun other among => values other (List.mem_append_left _ among)
    split
    · split_ifs
      · exact values c (by simp)
      · exact before
    · exact before

theorem get_giving {target : Settings.Key} (accepted : c.target = .ok target) (s : Session)
    (key : Settings.Key) :
    (s.giving target c.value).settings.get key = (c.gives? key).getD (s.settings.get key) := by
  rw [Change.gives?, accepted]
  dsimp only
  split_ifs with same
  · rw [← same]
    exact s.settings.get_set_self target c.value
  · exact s.settings.get_set_other (fun other => same other.symm) c.value

/-- A change gives its setting the value, and the others keep theirs, even if the settings cannot be
written. -/
theorem get_changed (s : Session) (c : Change) (own : key ≠ .formatVersion) :
    (s.changed c).settings.get key = (c.gives? key).getD (s.settings.get key) := by
  cases accepted : c.target with
  | error fault =>
    rw [changed_of_refused accepted, Change.gives?, accepted]
    rfl
  | ok target =>
    cases saves : c.isSet && s.persists with
    | false =>
      rw [changed_of_kept accepted saves]
      exact get_giving accepted s key
    | true =>
      rw [changed, c.run_eq, accepted, saves]
      exact (congrArg (Settings.get · key) (settings_persist _)).trans
        ((Settings.get_set_other _ own _).trans (get_giving accepted s key))

theorem get_changedAll (s : Session) (changes : List Change) (own : key ≠ .formatVersion) :
    (s.changedAll changes).settings.get key = latest s.settings changes key := by
  induction changes using List.reverseRecOn with
  | nil => rfl
  | append_singleton past c ih => rw [changedAll_concat, get_changed _ c own, ih, latest_concat]

/-! ### What the settings file is -/

/-- What is written with an accepted change are the values that the settings have by then. -/
theorem page_filed (inStep : InStep s) (past : List Change) (accepted : c.target = .ok key) :
    (filed (s.changedAll past).settings key c.value).page =
      Settings.pageOf (latest s.settings (past ++ [c])) := by
  refine congrArg Settings.page (Settings.Complete.ext
    (complete_filed (inStep.changedAll past).1 key c.value) (Settings.complete_ofValues _)
    fun other => ?_)
  rw [Settings.get_ofValues, filed]
  split_ifs with version
  · rw [version, Settings.get_set_self]
  · rw [Settings.get_set_other _ version, latest_concat, ← get_changedAll s past version]
    exact get_giving accepted (s.changedAll past) other

/-- The settings file after one more change: accepted changes that are for later sessions write the
settings, overrides among them, and no others do. -/
theorem saved_concat (inStep : InStep s) (persists : s.persists) (past : List Change)
    (c : Change) :
    (s.changedAll (past ++ [c])).saved =
      if c.isSet && c.isAccepted then
        some (Settings.pageOf (latest s.settings (past ++ [c]))).text
      else (s.changedAll past).saved := by
  obtain ⟨inStep', frame⟩ := inStep.changedAll past
  rw [changedAll_concat, saved_changed inStep', frame.persists.trans persists, Bool.and_true,
    Change.isAccepted]
  cases accepted : c.target with
  | error fault =>
    rw [Bool.and_false]
    rfl
  | ok target =>
    rw [Bool.and_true]
    dsimp only
    rw [page_filed inStep past accepted]

/-! ### Leaving the overrides out -/

/-- Whether the settings file is, after each of the changes, what it would be if there were no
overrides among them. -/
def Undisturbed (s : Session) (changes : List Change) : Prop :=
  ∀ past, past <+: changes →
    (s.changedAll past).saved = (s.changedAll (past.filter (·.isSet))).saved

theorem filter_concat (past : List Change) (c : Change) :
    (past ++ [c]).filter (·.isSet) =
      if c.isSet then past.filter (·.isSet) ++ [c] else past.filter (·.isSet) := by
  rw [List.filter_append]
  cases isSet : c.isSet <;> simp [isSet]

/-- The overrides stay out of the settings file if and only if, whenever it is written, they make no
difference to its text. -/
theorem undisturbed_iff_texts (inStep : InStep s) (persists : s.persists)
    (changes : List Change) :
    s.Undisturbed changes ↔
      ∀ past c, past ++ [c] <+: changes → c.isSet → c.isAccepted →
        (Settings.pageOf (latest s.settings (past ++ [c]))).text =
          (Settings.pageOf (latest s.settings ((past ++ [c]).filter (·.isSet)))).text := by
  -- Both runs write with an accepted change that is for later sessions.
  have written : ∀ past c, c.isSet → c.isAccepted →
      ((s.changedAll (past ++ [c])).saved =
        (s.changedAll ((past ++ [c]).filter (·.isSet))).saved ↔
      (Settings.pageOf (latest s.settings (past ++ [c]))).text =
        (Settings.pageOf (latest s.settings ((past ++ [c]).filter (·.isSet)))).text) := by
    intro past c isSet accepted
    rw [filter_concat, if_pos isSet, saved_concat inStep persists, saved_concat inStep persists,
      isSet, accepted, Bool.and_self, if_pos rfl, if_pos rfl, Option.some.injEq]
  constructor
  · intro undisturbed past c among isSet accepted
    exact (written past c isSet accepted).1 (undisturbed _ among)
  · intro same past among
    induction past using List.reverseRecOn with
    | nil => rfl
    | append_singleton past c ih =>
      have before := ih ((List.prefix_append past [c]).trans among)
      by_cases writes : c.isSet ∧ c.isAccepted
      · exact (written past c writes.1 writes.2).2 (same past c among writes.1 writes.2)
      · have quiet : (c.isSet && c.isAccepted) = false := by simpa using writes
        rw [saved_concat inStep persists, quiet, if_neg Bool.false_ne_true, filter_concat]
        split_ifs
        · rw [saved_concat inStep persists, quiet, if_neg Bool.false_ne_true, before]
        · exact before

/-- A file that holds values which come back is the same if the values are, as a file keeps them. -/
theorem pageOf_text_inj {f g : Settings.Key → Value}
    (setting : ∀ key, (f key).IsSetting ∧ (f key).lasts)
    (setting' : ∀ key, (g key).IsSetting ∧ (g key).lasts) :
    (Settings.pageOf f).text = (Settings.pageOf g).text ↔
      ∀ key, key ≠ .formatVersion → (f key).kept = (g key).kept := by
  have stamped : ∀ {f : Settings.Key → Value}, (∀ key, (f key).IsSetting ∧ (f key).lasts) →
      ∀ key, (if key = .formatVersion then .int MapFile.formatVersion else f key).IsSetting ∧
        (if key = .formatVersion then .int MapFile.formatVersion else f key).lasts := by
    intro f setting key
    split_ifs
    · exact ⟨⟨rfl, rfl⟩, by decide⟩
    · exact setting key
  refine (Settings.page_text_inj (stamped setting) (stamped setting')).trans
    (forall_congr' fun key => ?_)
  by_cases version : key = .formatVersion <;> simp [version]

/-- The overrides stay out of the settings file if and only if, whenever it is written, they make no
difference to its text. For plain values that come back from a file this means that every setting
has the value, as a file keeps it, that it would have without the overrides. -/
theorem undisturbed_iff (started : start .file (blank attached d) = .ok () s)
    (changes : List Change) :
    (s.Undisturbed changes ↔
      ∀ past c, past ++ [c] <+: changes → c.isSet → c.isAccepted →
        (Settings.pageOf (latest s.settings (past ++ [c]))).text =
          (Settings.pageOf (latest s.settings ((past ++ [c]).filter (·.isSet)))).text) ∧
    ((∀ key, (s.settings.get key).IsSetting ∧ (s.settings.get key).lasts) →
      (∀ c ∈ changes, c.value.IsSetting ∧ c.value.lasts) →
      (s.Undisturbed changes ↔
        ∀ past c, past ++ [c] <+: changes → c.isSet → c.isAccepted →
          ∀ key, key ≠ .formatVersion →
            (latest s.settings (past ++ [c]) key).kept =
              (latest s.settings ((past ++ [c]).filter (·.isSet)) key).kept)) := by
  obtain ⟨inStep, persists, -, -⟩ := inStep_of_start started
  have exact' := undisturbed_iff_texts inStep persists changes
  refine ⟨exact', fun initial values => exact'.trans (forall_congr' fun past =>
    forall_congr' fun c => forall_congr' fun among => forall_congr' fun _ =>
      forall_congr' fun _ => ?_)⟩
  have before : ∀ c' ∈ past ++ [c], c'.value.IsSetting ∧ c'.value.lasts := fun c' among' =>
    values c' (among.subset among')
  exact pageOf_text_inj
    (latest_of_forall (P := fun v => v.IsSetting ∧ v.lasts) initial before)
    (latest_of_forall (P := fun v => v.IsSetting ∧ v.lasts) initial fun c' among' =>
      before c' (List.mem_of_mem_filter among'))

/-- An override of a setting that is set again before anything else stays out of the file. -/
theorem undisturbed_iff_again :
    let changes : List Change := [.override "srctree.entry.point" (.text "start"),
      .set "srctree.entry.point" (.text "boot")]
    ∃ s, start .file (blank true .empty) = .ok () s ∧ s.Undisturbed changes := by
  intro changes
  obtain ⟨s, started⟩ : ∃ s, start .file (blank true .empty) = .ok () s := ⟨_, rfl⟩
  have initial : ∀ key, (s.settings.get key).IsSetting ∧ (s.settings.get key).lasts := by
    cases started
    rintro (_ | _) <;> exact ⟨⟨rfl, rfl⟩, by decide⟩
  have values : ∀ c ∈ changes, c.value.IsSetting ∧ c.value.lasts :=
    List.forall_mem_cons.2 ⟨⟨⟨rfl, rfl⟩, by decide⟩,
      List.forall_mem_singleton.2 ⟨⟨rfl, rfl⟩, by decide⟩⟩
  refine ⟨s, started, ((undisturbed_iff started changes).2 initial values).2
    fun past c among isSet _ key _ => ?_⟩
  have whole : past ++ [c] = changes := by
    obtain ⟨rest, same⟩ := among
    change past ++ [c] ++ rest = [_, _] at same
    match past, same with
    | [], same =>
      cases same
      cases isSet
    | [_], same =>
      cases same
      rfl
    | _ :: _ :: more, same => simp at same
  rw [whole]
  cases key <;> rfl

/-- An override is written with the next change of another setting. -/
theorem override_written :
    ∃ s, start .file (blank true .empty) = .ok () s ∧
      ¬ s.Undisturbed [.override "srctree.entry.point" (.text "start"),
        .set "dbg.verbose" (.bool true)] := by
  obtain ⟨s, started⟩ : ∃ s, start .file (blank true .empty) = .ok () s := ⟨_, rfl⟩
  refine ⟨s, started, fun undisturbed => ?_⟩
  obtain ⟨inStep, persists, -, -⟩ := inStep_of_start started
  have same := (undisturbed_iff_texts inStep persists _).1 undisturbed
    [.override "srctree.entry.point" (.text "start")] (.set "dbg.verbose" (.bool true))
    List.prefix_rfl rfl rfl
  cases started
  have apart := (pageOf_text_inj (fun key => ?_) (fun key => ?_)).1 same .entryPoint (by decide)
  · exact absurd (Value.text.inj apart) (by decide)
  all_goals cases key <;> exact ⟨⟨rfl, rfl⟩, by decide⟩

end Session

end DebugScopes

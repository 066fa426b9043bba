import DebugScopes.Proofs.Image.Respelling
import DebugScopes.Proofs.MapFile.Loading
import DebugScopes.Proofs.Session.Overrides
import DebugScopes.Proofs.Session.Starting

/-!
# The byte order of a session

The byte order is checked where it is set, and nowhere else: a value that a session is given at its
start, or finds in its settings file, is taken as it is. So the byte order of a session is one if it
was one at the start or if it has been set since, and a build fails for want of one otherwise.

* `Settings.IsOrder`: the values that are byte orders;
* `Session.get_after`: what a command does to a setting;
* `Session.byteOrder_of_start`: the byte order that a session starts with;
* `Session.byteOrder_valid_iff`: when the byte order of a session is one, and what depends on it.
-/

namespace DebugScopes

/-! ### Values that are byte orders -/

namespace Settings

variable {settings other : Settings} {key : Key} {v : Value}

/-- A value that is a byte order. -/
def IsOrder (v : Value) : Prop := v = .text "little" ∨ v = .text "big"

theorem takes_byteOrder : takes .byteOrder v ↔ IsOrder v := by
  rw [takes, Bool.or_eq_true, Value.same_text_iff, Value.same_text_iff, IsOrder]

theorem orderOf_eq_ok (order : IsOrder v) : ∃ o, orderOf v = .ok o := by
  rcases order with rfl | rfl
  · exact ⟨.little, rfl⟩
  · exact ⟨.big, rfl⟩

theorem orderOf_eq_error (other : ¬ IsOrder v) : ∃ fault, orderOf v = .error fault := by
  cases v with
  | text name =>
    rw [orderOf, ByteOrder.ofName?.eq_def]
    split
    · exact absurd (.inl rfl) other
    · exact absurd (.inr rfl) other
    · exact ⟨_, rfl⟩
  | _ => exact ⟨_, rfl⟩

end Settings

/-- Only a byte order is accepted as one. -/
theorem Change.isOrder_of_gives? {c : Change} {v : Value}
    (gives : c.gives? .byteOrder = some v) : Settings.IsOrder v := by
  rw [gives?] at gives
  split at gives
  · next target accepted =>
    split_ifs at gives with same
    cases gives
    subst same
    rw [Change.target] at accepted
    split at accepted
    · cases accepted
    · split_ifs at accepted with takes
      cases accepted
      exact Settings.takes_byteOrder.1 takes
  · cases gives

/-! ### Commands -/

namespace Command

/-- The change that a command makes. -/
def change? : Command → Option Change
  | build _ | attempt _ => none
  | set name v => some (.set name v)
  | override name v => some (.override name v)

/-- The value that a command gives a setting, if it is accepted and about that setting. -/
def gives? (c : Command) (key : Settings.Key) : Option Value := c.change?.bind (·.gives? key)

end Command

namespace Session

open Console

variable {α β : Type} {s s' : Session} {key : Settings.Key} {decoder : Decoder} {t : ScopeTree}
  {attached : Bool} {d : Directory} {origin : Origin}

/-- An action that leaves the settings as they are, be it done or failed. -/
def KeepsSettings (action : Action α) : Prop := ∀ s, (left (action s)).settings = s.settings

theorem KeepsSettings.bind {action : Action α} {next : α → Action β} (first : KeepsSettings action)
    (others : ∀ a, KeepsSettings (next a)) : KeepsSettings (action >>= next) := by
  intro s
  have kept := first s
  cases ran : action s with
  | ok a between =>
    rw [ran] at kept
    rw [bind_of_ok ran, others a between]
    exact kept
  | error e after =>
    rw [ran] at kept
    rw [bind_of_error ran]
    exact kept

theorem keepsSettings_pure (a : α) : KeepsSettings (pure a) := fun _ => rfl

theorem keepsSettings_modify {f : Session → Session} (keeps : ∀ s, (f s).settings = s.settings) :
    KeepsSettings (modify f) := keeps

theorem settings_tell (s : Session) (level : Value) (parts : List Value) :
    (s.tell level parts).settings = s.settings := by
  obtain ⟨messages, told⟩ := post_eq s ⟨Words.join (parts.map (·.shown)), level⟩
  rw [tell, told]

theorem settings_say (s : Session) (parts : List Value) : (s.say parts).settings = s.settings := by
  obtain ⟨messages, said⟩ := say_eq s parts
  rw [said]

theorem keepsSettings_decode (decoder : Decoder) : KeepsSettings (decode decoder) := by
  intro s
  obtain ⟨messages, reported⟩ :=
    reportAll_eq s (decoder s.settings.order s.settings.entryPoint).2
  have kept := congrArg Session.settings reported
  simp only [decode]
  cases (decoder s.settings.order s.settings.entryPoint).1 <;> exact kept

theorem keepsSettings_nameOf (v : Value) : KeepsSettings (nameOf v) := by
  intro s
  rw [nameOf]
  cases FileName.ofValue v <;> rfl

theorem keepsSettings_drawTo (path : Value) (t : ScopeTree) : KeepsSettings (drawTo path t) := by
  refine (keepsSettings_nameOf path).bind fun name s => ?_
  dsimp only
  split
  · exact settings_say _ _
  · rfl
  · exact settings_tell _ _ _

theorem keepsSettings_drawAsSet (t : ScopeTree) : KeepsSettings (drawAsSet t) := by
  intro s
  rw [drawAsSet_eq]
  split_ifs
  · exact ((keepsSettings_drawTo _ t).bind fun _ => keepsSettings_pure ()) s
  · rfl

theorem keepsSettings_build (decoder : Decoder) : KeepsSettings (build decoder) := by
  intro s
  rw [build_eq]
  exact ((keepsSettings_decode decoder).bind fun t => (keepsSettings_drawAsSet t).bind fun _ =>
    (keepsSettings_modify fun s => settings_say { s with tree := some t } _).bind fun _ =>
      keepsSettings_pure t) _

theorem keepsSettings_attempt (decoder : Decoder) : KeepsSettings (attempt decoder) := by
  intro s
  have kept := keepsSettings_build decoder s
  rw [attempt]
  cases ran : build decoder s with
  | ok t s' =>
    rw [ran] at kept
    exact kept
  | error fault s' =>
    rw [ran] at kept
    cases fault with
    | decoding failure =>
      dsimp only
      split
      · rw [← kept]
        exact (settings_say _ _).trans ((settings_tell _ _ _).trans (settings_tell _ _ _))
      · exact kept
    | _ => exact kept

/-- A command changes the setting that it gives a value, and no other. -/
theorem get_after (s : Session) (c : Command) (own : key ≠ .formatVersion) :
    (s.after c).settings.get key = (c.gives? key).getD (s.settings.get key) := by
  cases c with
  | build decoder => exact congrArg (Settings.get · key) (keepsSettings_build decoder s)
  | attempt decoder => exact congrArg (Settings.get · key) (keepsSettings_attempt decoder s)
  | set name v => exact get_changed s (.set name v) own
  | override name v => exact get_changed s (.override name v) own

/-- The value that a row of commands leaves a setting with. -/
def lastGiven (v : Value) (past : List Command) (key : Settings.Key) : Value :=
  past.foldl (fun v c => (c.gives? key).getD v) v

theorem lastGiven_concat (v : Value) (past : List Command) (c : Command) (key : Settings.Key) :
    lastGiven v (past ++ [c]) key = (c.gives? key).getD (lastGiven v past key) := by
  rw [lastGiven, List.foldl_append]
  rfl

theorem get_afterAll (s : Session) (past : List Command) (own : key ≠ .formatVersion) :
    (s.afterAll past).settings.get key = lastGiven (s.settings.get key) past key := by
  induction past using List.reverseRecOn with
  | nil => rfl
  | append_singleton past c ih =>
    rw [lastGiven_concat, ← ih, ← get_after _ c own, afterAll, List.foldl_append]
    rfl

/-- What commands leave is a byte order if one of them has set it, or if it was one before. -/
theorem isOrder_lastGiven_iff {v : Value} (past : List Command) :
    Settings.IsOrder (lastGiven v past .byteOrder) ↔
      Settings.IsOrder v ∨ ∃ c ∈ past, (c.gives? .byteOrder).isSome := by
  induction past using List.reverseRecOn with
  | nil => simp [lastGiven]
  | append_singleton past c ih =>
    rw [lastGiven_concat]
    cases gives : c.gives? .byteOrder with
    | none => simp [ih, gives]
    | some w =>
      obtain ⟨change, -, accepted⟩ := Option.bind_eq_some_iff.1 gives
      refine iff_of_true (Change.isOrder_of_gives? accepted) (.inr ⟨c, by simp, ?_⟩)
      rw [gives]
      rfl

end Session

/-! ### At the start -/

namespace Entries

variable {entries above : Entries} {k v : Value} {name : String}

/-- An entry that is put in is found under its key, and the others are found as before. -/
theorem find?_insert_text (entries : Entries) (k v : Value) (name : String) :
    find? (insert entries k v) (.text name) =
      if k.same (.text name) then some v else find? entries (.text name) := by
  have same_comm : (Value.text name).same k ↔ k = .text name := by
    cases k with
    | text other => exact Value.same_text_iff.trans eq_comm
    | _ => simp [Value.same]
  induction entries with
  | nil => simp [insert, find?]
  | cons row rest ih =>
    obtain ⟨k', w⟩ := row
    rw [insert]
    by_cases here : k'.same k
    · rw [if_pos here]
      have both : k'.same (.text name) ↔ k.same (.text name) := by
        rw [Value.same_text_iff, Value.same_text_iff]
        constructor
        · rintro rfl
          exact same_comm.1 here
        · rintro rfl
          exact Value.same_text_iff.1 here
      simp only [find?, List.find?_cons]
      by_cases found : k.same (.text name)
      · simp [found, both.2 found]
      · simp [found, mt both.1 found]
    · rw [if_neg here]
      by_cases found : k'.same (.text name)
      · have other : ¬ k.same (.text name) := fun same => here (by
          rw [Value.same_text_iff.1 same, found])
        simp [find?, found, other]
      · simpa [find?, found] using ih

/-- Of the entries that are laid over others, the last one under a key counts. -/
theorem find?_overlay_text (entries above : Entries) (name : String) :
    find? (overlay entries above) (.text name) =
      (find? above.reverse (.text name)).or (find? entries (.text name)) := by
  induction above using List.reverseRecOn with
  | nil => rfl
  | append_singleton above row ih =>
    have last : overlay entries (above ++ [row]) = insert (overlay entries above) row.1 row.2 := by
      rw [overlay, List.foldl_append]
      rfl
    rw [last, find?_insert_text, ih, List.reverse_append, List.reverse_singleton,
      List.singleton_append]
    split_ifs with here
    · simp [find?, here]
    · simp [find?, here]

end Entries

namespace Settings

variable {settings other : Settings} {key : Key}

/-- The settings in a map have the values that the map has under their names. -/
theorem get_ofEntries (map : Entries) (key : Key) :
    (ofEntries map).get key = (Entries.find? map (.text key.name)).getD .null := by
  have named : ∀ row : Value × Value,
      decide (isName row.1 ∧ row.1.same (.text key.name)) = row.1.same (.text key.name) := by
    intro row
    by_cases here : row.1.same (.text key.name)
    · simp [here, isName_iff.2 ⟨key, Value.same_text_iff.1 here⟩]
    · simp [here]
  rw [get, ofEntries, Entries.find?, Entries.find?, List.find?_filter, funext named]

theorem find?_defaults (key : Key) :
    Entries.find? defaults.entries (.text key.name) = some (initial key) := by
  cases key <;> rfl

/-- What is loaded of a file is taken as it is. -/
theorem get_loaded (above : Entries) (key : Key) :
    (ofEntries (Entries.overlay defaults.entries above)).get key =
      (Entries.find? above.reverse (.text key.name)).getD (initial key) := by
  rw [get_ofEntries, Entries.find?_overlay_text, find?_defaults]
  cases Entries.find? above.reverse (.text key.name) <;> rfl

/-- The value that is given last is taken as it is. -/
theorem get_overlay {values : List (String × Value)} (given : settings.overlay values = .ok other)
    (key : Key) : other.get key = (MapFile.lastValue? values key.name).getD (settings.get key) := by
  induction values generalizing settings with
  | nil =>
    cases given
    rfl
  | cons first rest ih =>
    obtain ⟨name, v⟩ := first
    rw [overlay, Settings.key] at given
    cases named : Key.ofName? name with
    | none =>
      rw [named] at given
      cases given
    | some target =>
      rw [named] at given
      rw [ih given, MapFile.lastValue?_cons, ← Key.name_of_ofName? named]
      simp only [Key.name_inj]
      by_cases same : target = key
      · subst same
        rw [if_pos rfl, get_set_self, Option.or_some, Option.getD_some]
      · rw [if_neg same, get_set_other _ (fun other => same other.symm), Option.or_none]

end Settings

namespace Session

variable {s s' : Session} {attached : Bool} {d : Directory} {origin : Origin} {decoder : Decoder}

/-- The value that a session finds for its byte order: the one that is given to it or, if the
settings file is taken, the one in the file. -/
def Origin.found? (d : Directory) : Origin → Option Value
  | .given values => MapFile.lastValue? values Settings.Key.byteOrder.name
  | .file =>
    match (d.read settingsFile).toOption.map (MapFile.found settingsFile mapName) with
    | some (.ok (above, _)) => Entries.find? above.reverse (.text Settings.Key.byteOrder.name)
    | _ => none

/-- A session starts with the byte order that it finds, whatever that is. -/
theorem byteOrder_of_start (started : start origin (blank attached d) = .ok () s) :
    s.settings.byteOrder = (origin.found? d).getD (.text "little") := by
  cases origin with
  | given values =>
    obtain ⟨settings, given, posted, rfl⟩ := of_start_given started
    exact Settings.get_overlay given .byteOrder
  | file =>
    obtain ⟨settings, messages, saved, posted, rfl⟩ := of_start_file started
    show settings.get .byteOrder = _
    rw [Directory.saves] at saved
    rw [Origin.found?]
    split at saved
    · next missing =>
      cases saved
      rw [missing]
      rfl
    · cases saved
    · next text read =>
      rw [read]
      split at saved
      · cases saved
      · cases saved
      · next map messages loaded =>
        cases saved
        obtain ⟨above, given, rfl⟩ := MapFile.loadOn_eq_ok_iff.1 loaded
        show _ = Option.getD (match some (MapFile.found settingsFile mapName text) with
          | some (.ok (above, _)) => Entries.find? above.reverse (.text Settings.Key.byteOrder.name)
          | _ => none) _
        rw [MapFile.found, given]
        exact Settings.get_loaded above .byteOrder

/-! ### Builds -/

/-- A graph that is drawn is not decoded. -/
theorem drawAsSet_ne_decoding {e : Failure} (t : ScopeTree) :
    drawAsSet t s ≠ .error (.decoding e) s' := by
  intro failed
  rw [drawAsSet_eq] at failed
  split_ifs at failed
  rcases bind_eq_error failed with drawn | ⟨_, _, -, done⟩
  · rcases bind_eq_error drawn with named | ⟨name, between, -, wrote⟩
    · rw [nameOf] at named
      cases name : FileName.ofValue s.settings.graphFile with
      | ok _ =>
        rw [name] at named
        cases named
      | error _ =>
        rw [name] at named
        cases named
    · dsimp only at wrote
      split at wrote <;> cases wrote
  · cases done

/-- A build that fails on what is decoded has failed in decoding it. -/
theorem decoder_of_build_error {e : Failure} (failed : build decoder s = .error (.decoding e) s') :
    (decoder s.settings.order s.settings.entryPoint).1 = .error e := by
  rw [build_eq] at failed
  rcases bind_eq_error failed with ran | ⟨t, between, -, failed⟩
  · simp only [decode] at ran
    split at ran
    · cases ran
    · next found =>
      cases ran
      exact found
  · rcases bind_eq_error failed with drawn | ⟨_, _, -, done⟩
    · exact absurd drawn (drawAsSet_ne_decoding t)
    · cases done

/-- No build fails on the byte order if it is one. -/
theorem cause_ne_byteOrder {image : Image} {e : Failure}
    (order : Settings.IsOrder s.settings.byteOrder)
    (failed : build image.decoder s = .error (.decoding e) s') (fault : OrderFault) :
    e.cause ≠ .byteOrder fault := by
  obtain ⟨o, known⟩ := Settings.orderOf_eq_ok order
  have undecoded := decoder_of_build_error failed
  rw [Settings.order, known] at undecoded
  intro caused
  rcases foreseen_decode undecoded with foreseen | ⟨name, -, missing⟩ | ⟨illegible, -⟩
  · rcases foreseen.told with ⟨d, damaged⟩ | illegible
    · rw [caused] at damaged
      cases damaged
    · rw [caused] at illegible
      cases illegible
  · rw [caused] at missing
    cases missing
  · rw [caused] at illegible
    cases illegible

/-- What fails before the references are followed fails whatever the entry point is called. -/
theorem decode_of_entries_error {src : Source} {e : Failure} {p : Progress} (entryPoint : Value)
    (failed : (Building.table src >>= fun _ => Building.units src) (.start src) = .error e p) :
    (ScopeTree.decode src entryPoint).1 = .error e := by
  have run : Building.program src entryPoint (.start src) = .error e p := by
    unfold Building.program Building.programBy
    rcases bind_eq_error failed with ran | ⟨_, between, ran, run⟩
    · exact bind_of_error ran
    · rw [bind_of_ok ran]
      exact bind_of_error run
  rw [ScopeTree.decode, Building.outcome, run]

/-- An image with a single number in it, the length of a unit. -/
def lengthImage : Image := .ofParts #[0, 0, 0, 0, 0] (.ofList []) 0 4 none

/-- The cause for which entries were not read. -/
def entriesCause? : EStateM.Result Failure Progress Unit → Option Cause
  | .error e _ => some e.cause
  | .ok _ _ => none

/-- The first number in an image cannot be read without a byte order. -/
theorem exists_build_byteOrder (other : ¬ Settings.IsOrder s.settings.byteOrder) :
    ∃ e s' fault, build lengthImage.decoder s = .error (.decoding e) s' ∧
      e.cause = .byteOrder fault := by
  obtain ⟨fault, unknown⟩ := Settings.orderOf_eq_error other
  have cause : entriesCause? ((Building.table (.of lengthImage (.error fault)) >>= fun _ =>
      Building.units (.of lengthImage (.error fault)))
        (.start (.of lengthImage (.error fault)))) = some (.byteOrder fault) := by
    cases fault <;> decide +kernel
  cases ran : (Building.table (.of lengthImage (.error fault)) >>= fun _ =>
      Building.units (.of lengthImage (.error fault)))
        (.start (.of lengthImage (.error fault))) with
  | ok _ _ =>
    rw [ran] at cause
    cases cause
  | error e p =>
    rw [ran] at cause
    cases decoded : lengthImage.decoder s.settings.order s.settings.entryPoint with
    | mk result notices =>
      have undecoded : result = .error e := by
        rw [Settings.order, unknown] at decoded
        exact (congrArg Prod.fst decoded).symm.trans
          (decode_of_entries_error s.settings.entryPoint ran)
      subst undecoded
      obtain ⟨s', run, -⟩ := build_of_error decoded
      exact ⟨e, s', fault, run, Option.some.inj cause⟩

/-- The byte order that a session has is the one that was accepted last or, if none was, the one
that it found when it started, whatever that is. So it is one exactly if it was one at the start or
if a command has set it; and exactly then no build can fail on it. -/
theorem byteOrder_valid_iff (started : start origin (blank attached d) = .ok () s)
    (past : List Command) :
    setting Settings.Key.byteOrder.name (s.afterAll past) =
        .ok (lastGiven ((origin.found? d).getD (.text "little")) past .byteOrder)
          (s.afterAll past) ∧
      (Settings.IsOrder (s.afterAll past).settings.byteOrder ↔
        (∀ v ∈ origin.found? d, Settings.IsOrder v) ∨
          ∃ c ∈ past, (c.gives? .byteOrder).isSome) ∧
      (Settings.IsOrder (s.afterAll past).settings.byteOrder ↔
        ∀ (image : Image) (e : Failure) (s' : Session),
          build image.decoder (s.afterAll past) = .error (.decoding e) s' →
            ∀ fault, e.cause ≠ .byteOrder fault) := by
  have value : (s.afterAll past).settings.byteOrder =
      lastGiven ((origin.found? d).getD (.text "little")) past .byteOrder := by
    rw [← byteOrder_of_start started]
    exact get_afterAll s past (by decide)
  refine ⟨by rw [← value]; rfl, ?_, fun order image e s' failed fault =>
    cause_ne_byteOrder order failed fault, fun sure => ?_⟩
  · rw [value, isOrder_lastGiven_iff]
    refine or_congr ?_ Iff.rfl
    cases origin.found? d with
    | none => simp [Settings.IsOrder]
    | some v => simp
  · by_contra other
    obtain ⟨e, s', fault, failed, caused⟩ := exists_build_byteOrder other
    exact sure _ _ _ failed fault caused

/-- A session that was given no byte order has one once it is overridden with one, and keeps it when
the next command is refused. -/
theorem byteOrder_valid_iff_override :
    let origin : Origin := .given [("srctree.endian", .text "middle")]
    let past : List Command := [.override "srctree.endian" (.text "big"),
      .set "srctree.endian" (.text "mixed")]
    ∃ s, start origin (blank true .empty) = .ok () s ∧
      Settings.IsOrder (s.afterAll past).settings.byteOrder := by
  intro origin past
  obtain ⟨s, started⟩ : ∃ s, start origin (blank true .empty) = .ok () s := ⟨_, rfl⟩
  have set : (Command.gives? (.override "srctree.endian" (.text "big")) .byteOrder).isSome := by
    decide
  exact ⟨s, started, (byteOrder_valid_iff started past).2.1.2 (.inr ⟨_, List.mem_cons_self, set⟩)⟩

/-- A byte order that is given is not checked: the session starts, and its builds fail. -/
theorem byteOrder_given_unchecked :
    ∃ s, start (.given [("srctree.endian", .text "middle")]) (blank true .empty) = .ok () s ∧
      ¬ Settings.IsOrder s.settings.byteOrder ∧
        ∃ e s' fault, build lengthImage.decoder s = .error (.decoding e) s' ∧
          e.cause = .byteOrder fault := by
  obtain ⟨s, started⟩ : ∃ s, start (.given [("srctree.endian", .text "middle")])
      (blank true .empty) = .ok () s := ⟨_, rfl⟩
  have value : s.settings.byteOrder = .text "middle" := byteOrder_of_start started
  have other : ¬ Settings.IsOrder s.settings.byteOrder := by
    rw [value]
    exact mt Settings.takes_byteOrder.2 (by decide)
  exact ⟨s, started, other, exists_build_byteOrder other⟩

end Session

end DebugScopes

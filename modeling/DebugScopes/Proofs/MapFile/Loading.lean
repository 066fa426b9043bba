import DebugScopes.Proofs.MapFile.Lines
import DebugScopes.Proofs.Value.ByLine
import DebugScopes.Proofs.Value.Sound

/-!
# Files that are taken as a whole

Loading a file looks at what two names stand for when the file has been run: the version and the
map, and at these only if it has been run to its end. Such a file is laid over the defaults, all of
it, without a message; of every other file nothing is, and one message says why. There are two more
cases, where there is no result: a version that is refused cannot be named in the message if an
integer in it has too many digits, and a file may leave the program or have no end.

* `MapFile.Holds`, `MapFile.Rejected`, `MapFile.Unnameable`: the cases in which running a file comes
  back;
* `MapFile.loadAmong`: loading where maps can change;
* `MapFile.load_all_or_nothing`: what is loaded in each case, and that there is no other.
-/

namespace DebugScopes.MapFile

open Console Reader

variable {machine : Machine} {file map text : String} {defaults above result : Entries}
  {message : Message} {messages : List Message} {names : Names} {rows : List (String × Value)}

/-! ### The cases -/

/-- The version is an integer and not above the present one. Truth values count as integers. -/
def IsKnown (names : Names) : Prop :=
  ∃ version n, names versionName = some version ∧ version.int? = some n ∧ n ≤ formatVersion

/-- A file that is taken: it is run to its end, the version is then a known one, and `above` is the
dictionary under the name of the map. -/
def Holds (machine : Machine) (map text : String) (above : Entries) : Prop :=
  ∃ names, machine.run text (.start map) = .finished names ∧ IsKnown names ∧
    names map = some (.dict above)

/-- A file that is refused, and the message about it. -/
inductive Rejected (machine : Machine) (file map text : String) : Message → Prop
  /-- The file cannot be parsed or has failed at some place, whatever it had set by then. -/
  | unread {names : Names} (breaks : machine.run text (.start map) = .failed names) :
      Rejected machine file map text (unread file)
  /-- The version is not a known one, or missing. -/
  | version {names : Names} {shown : Words}
      (ends : machine.run text (.start map) = .finished names) (unknown : ¬ IsKnown names)
      (named : ((names versionName).getD .null).shown? = some shown) :
      Rejected machine file map text (unknownVersion file shown)
  /-- The map is no dictionary. -/
  | format {names : Names} (ends : machine.run text (.start map) = .finished names)
      (known : IsKnown names) (other : ∀ above, names map ≠ some (.dict above)) :
      Rejected machine file map text (misshapen file)

/-- A file with a version that is refused and cannot be named: an integer in it has too many
digits. -/
def Unnameable (machine : Machine) (map text : String) : Prop :=
  ∃ names version, machine.run text (.start map) = .finished names ∧ ¬ IsKnown names ∧
    names versionName = some version ∧ version.legible = false

theorem isKnown_iff : IsKnown names ↔ isReadable ((names versionName).getD .null) := by
  rw [IsKnown, isReadable]
  cases names versionName with
  | none => simp [Value.int?]
  | some version => cases integer : version.int? <;> simp [integer]

theorem isReadable_eq_false (unknown : ¬ IsKnown names) :
    isReadable ((names versionName).getD .null) = false := by
  rwa [isKnown_iff, Bool.not_eq_true] at unknown

/-! ### What has been found -/

theorem foundOn_of_holds (holds : Holds machine map text above) :
    foundOn machine file map text = .ok (above, []) := by
  obtain ⟨names, ends, known, given⟩ := holds
  rw [foundOn_of_finished ends, judge, isKnown_iff.1 known, given]
  rfl

theorem foundOn_of_rejected (other : map ≠ versionName)
    (rejected : Rejected machine file map text message) :
    foundOn machine file map text = .ok ([], [message]) := by
  cases rejected with
  | unread breaks => exact foundOn_of_failed other breaks
  | version ends unknown named =>
    rw [foundOn_of_finished ends, judge, isReadable_eq_false unknown, named]
    rfl
  | @format names ends known other =>
    rw [foundOn_of_finished ends, judge, isKnown_iff.1 known, Bool.not_true,
      if_neg Bool.false_ne_true]
    split
    · next above given => exact absurd given (other above)
    · rfl

theorem foundOn_of_unnameable (unnameable : Unnameable machine map text) :
    foundOn machine file map text = .error .illegibleVersion := by
  obtain ⟨names, version, ends, unknown, last, vast⟩ := unnameable
  have unreadable := isReadable_eq_false unknown
  rw [last, Option.getD_some] at unreadable
  rw [foundOn_of_finished ends, judge, last, Option.getD_some, unreadable, Value.shown?, vast]
  rfl

/-- If running a file comes back, the file is one of the three. -/
theorem holds_or_rejected_or_unnameable (machine : Machine) (file map text : String) :
    (∃ above, Holds machine map text above) ∨
      (∃ message, Rejected machine file map text message) ∨ Unnameable machine map text ∨
        ∃ stop, machine.run text (.start map) = .stopped stop := by
  cases ends : machine.run text (.start map) with
  | stopped stop => exact .inr (.inr (.inr ⟨stop, rfl⟩))
  | failed names => exact .inr (.inl ⟨_, .unread ends⟩)
  | finished names =>
    by_cases known : IsKnown names
    · by_cases dictionary : ∃ above, names map = some (.dict above)
      · obtain ⟨above, given⟩ := dictionary
        exact .inl ⟨above, names, ends, known, given⟩
      · exact .inr (.inl ⟨_, .format ends known fun above given => dictionary ⟨above, given⟩⟩)
    · right
      cases shown : ((names versionName).getD .null).shown? with
      | some words => exact .inl ⟨_, .version ends known shown⟩
      | none =>
        right
        left
        cases last : names versionName with
        | none =>
          rw [last] at shown
          cases shown
        | some version =>
          rw [last, Option.getD_some, Value.shown?, ite_eq_right_iff] at shown
          exact ⟨names, version, ends, known, last,
            Bool.eq_false_iff.2 fun legible => nomatch shown legible⟩

/-! ### Where maps can change -/

/-- Loading a file among the maps there are, each of which is known by its place. The defaults are
copied to a new place, and the entries that the file gives are put into the copy one by one. -/
def loadAmong (machine : Machine) (file map text : String) (defaults : Nat)
    (maps : List Entries) : Except Fault (Nat × List Message × List Entries) :=
  let copied := maps ++ [maps.getD defaults []]
  (foundOn machine file map text).map fun (above, messages) =>
    (maps.length, messages, above.foldl
      (fun maps' row => maps'.modify maps.length fun map => Entries.insert map row.1 row.2) copied)

/-- No map but the last one changes when entries are put into that. -/
theorem foldl_modify_last (maps : List Entries) (map above : Entries) :
    above.foldl (fun maps' row => maps'.modify maps.length fun map =>
        Entries.insert map row.1 row.2) (maps ++ [map]) =
      maps ++ [Entries.overlay map above] := by
  induction above generalizing map with
  | nil => rfl
  | cons row above ih =>
    have put : (maps ++ [map]).modify maps.length (fun map => Entries.insert map row.1 row.2) =
        maps ++ [Entries.insert map row.1 row.2] := by
      apply List.ext_getElem?
      intro i
      grind
    rw [List.foldl_cons, put, ih]
    rfl

theorem loadAmong_eq {maps : List Entries} {place : Nat} (held : maps[place]? = some defaults) :
    loadAmong machine file map text place maps =
      (loadOn machine file map defaults text).map fun loaded =>
        (maps.length, loaded.2, maps ++ [loaded.1]) := by
  rw [loadAmong, loadOn_eq_map, List.getD_eq_getElem?_getD, held, Option.getD_some]
  cases foundOn machine file map text with
  | error fault => rfl
  | ok found =>
    change Except.ok (_, _, _) = _
    rw [foldl_modify_last]
    rfl

/-! ### What is loaded -/

theorem loadOn_of_holds (holds : Holds machine map text above) :
    loadOn machine file map defaults text = .ok (Entries.overlay defaults above, []) := by
  rw [loadOn_eq_map, foundOn_of_holds holds]
  rfl

theorem loadOn_of_rejected (other : map ≠ versionName)
    (rejected : Rejected machine file map text message) :
    loadOn machine file map defaults text = .ok (defaults, [message]) := by
  rw [loadOn_eq_map, foundOn_of_rejected other rejected]
  rfl

theorem loadOn_of_unnameable (unnameable : Unnameable machine map text) :
    loadOn machine file map defaults text = .error .illegibleVersion := by
  rw [loadOn_eq_map, foundOn_of_unnameable unnameable]
  rfl

theorem loadOn_of_stopped {stop : Stop} (stops : machine.run text (.start map) = .stopped stop) :
    loadOn machine file map defaults text = .error (.stopped stop) := by
  rw [loadOn_eq_map, foundOn_of_stopped stops]
  rfl

/-- What is loaded in each case. -/
theorem cases_of_loadOn (machine : Machine) (file text : String) (defaults : Entries)
    (other : map ≠ versionName) :
    (∃ above, Holds machine map text above ∧
      loadOn machine file map defaults text = .ok (Entries.overlay defaults above, [])) ∨
    (∃ message, Rejected machine file map text message ∧
      loadOn machine file map defaults text = .ok (defaults, [message])) ∨
    (Unnameable machine map text ∧
      loadOn machine file map defaults text = .error .illegibleVersion) ∨
    ∃ stop, machine.run text (.start map) = .stopped stop ∧
      loadOn machine file map defaults text = .error (.stopped stop) := by
  rcases holds_or_rejected_or_unnameable machine file map text with ⟨above, holds⟩ |
    ⟨message, rejected⟩ | unnameable | ⟨stop, stops⟩
  · exact .inl ⟨above, holds, loadOn_of_holds holds⟩
  · exact .inr (.inl ⟨message, rejected, loadOn_of_rejected other rejected⟩)
  · exact .inr (.inr (.inl ⟨unnameable, loadOn_of_unnameable unnameable⟩))
  · exact .inr (.inr (.inr ⟨stop, stops, loadOn_of_stopped stops⟩))

/-- There is no message exactly if the file is taken. -/
theorem loadOn_eq_taken_iff (other : map ≠ versionName) :
    loadOn machine file map defaults text = .ok (result, []) ↔
      ∃ above, Holds machine map text above ∧ result = Entries.overlay defaults above := by
  constructor
  · intro loaded
    rcases cases_of_loadOn machine file text defaults other with
      ⟨above, holds, same⟩ | ⟨message, -, same⟩ | ⟨-, same⟩ | ⟨stop, -, same⟩ <;>
      rw [loaded] at same <;> cases same
    exact ⟨above, holds, rfl⟩
  · rintro ⟨above, holds, rfl⟩
    exact loadOn_of_holds holds

/-- There is a message exactly if the file is refused, and then the defaults are as they were. -/
theorem loadOn_eq_refused_iff (other : map ≠ versionName) :
    loadOn machine file map defaults text = .ok (result, [message]) ↔
      Rejected machine file map text message ∧ result = defaults := by
  constructor
  · intro loaded
    rcases cases_of_loadOn machine file text defaults other with
      ⟨above, -, same⟩ | ⟨message', rejected, same⟩ | ⟨-, same⟩ | ⟨stop, -, same⟩ <;>
      rw [loaded] at same <;> cases same
    exact ⟨rejected, rfl⟩
  · rintro ⟨rejected, rfl⟩
    exact loadOn_of_rejected other rejected

theorem unnameable_of_loadOn (other : map ≠ versionName)
    (failed : loadOn machine file map defaults text = .error .illegibleVersion) :
    Unnameable machine map text := by
  rcases cases_of_loadOn machine file text defaults other with
    ⟨above, -, same⟩ | ⟨message, -, same⟩ | ⟨unnameable, -⟩ | ⟨stop, -, same⟩
  · rw [failed] at same
    cases same
  · rw [failed] at same
    cases same
  · exact unnameable
  · rw [failed] at same
    cases same

theorem stopped_of_loadOn (other : map ≠ versionName) {stop : Stop}
    (failed : loadOn machine file map defaults text = .error (.stopped stop)) :
    machine.run text (.start map) = .stopped stop := by
  rcases cases_of_loadOn machine file text defaults other with
    ⟨above, -, same⟩ | ⟨message, -, same⟩ | ⟨-, same⟩ | ⟨stop', stops, same⟩ <;>
    rw [failed] at same <;> cases same
  exact stops

/-- Without a message nothing is printed. -/
theorem loadPrinting_of_holds (holds : Holds machine map text above) :
    loadPrinting machine file map defaults text = .ok (Entries.overlay defaults above, "") := by
  rw [loadPrinting, loadOn_of_holds holds]
  rfl

/-- The one message is printed as it is, unless it cannot be written. -/
theorem loadPrinting_of_rejected (other : map ≠ versionName)
    (rejected : Rejected machine file map text message) :
    loadPrinting machine file map defaults text =
      match message.words.string? with
      | some said => .ok (defaults, said ++ "\n")
      | none => .error .unwritable := by
  rw [loadPrinting, loadOn_of_rejected other rejected]
  dsimp only
  rw [List.map_singleton, Words.join_singleton, Words.string?_append_ofString]
  cases message.words.string? <;> rfl

/-- A file of which only the last line cannot be read. -/
def brokenText : String := "formatversion = 1\nconfig = \x7b'a': 1\x7d\nconfig = \x7b'a': 2\n"

/-- A power of sixteen has no limit on its digits. -/
def sixteenTo (k : Nat) : List Char := '0' :: 'x' :: '1' :: List.replicate k '0'

theorem digitRun_zeros {rest : List Char} (total count k : Nat) :
    digitRun Quoted.hexDigit? 16 total count (List.replicate k '0' ++ '\n' :: rest) =
      (total * 16 ^ k, count + k, '\n' :: rest) := by
  have zero : Quoted.hexDigit? '0' = some 0 := by decide
  induction k generalizing total count with
  | zero =>
    rw [pow_zero, Nat.mul_one]
    rfl
  | succ k ih =>
    rw [List.replicate_succ, List.cons_append, digitRun, zero]
    · dsimp only
      rw [ih, Nat.add_zero, Nat.mul_assoc, ← Nat.pow_succ', Nat.add_assoc, Nat.add_comm 1]
    · rintro - - ⟨⟩

theorem operand_sixteenTo (k : Nat) {depth level : Nat} {rest : List Char} :
    operand (depth + 1) level (sixteenTo k ++ '\n' :: rest) =
      some (.int (16 ^ k), '\n' :: rest) := by
  have run : digitRun Quoted.hexDigit? 16 0 0 ('1' :: (List.replicate k '0' ++ '\n' :: rest)) =
      (16 ^ k, k + 1, '\n' :: rest) := by
    have digits := @digitRun_zeros rest 1 1 k
    rw [Nat.one_mul, Nat.add_comm] at digits
    rw [digitRun]
    · exact digits
    · rintro - - ⟨⟩
  rw [sixteenTo, List.cons_append, operand_number (by decide)]
  change marked Quoted.hexDigit? 16 ('1' :: (List.replicate k '0' ++ '\n' :: rest)) = _
  rw [marked, run]
  · simp
  · rintro - ⟨⟩

/-- A file with nothing but a version: a power of sixteen. -/
def versionOnly (k : Nat) : String :=
  String.ofList (versionName.toList ++ ' ' :: '=' :: ' ' :: (sixteenTo k ++ ['\n']))

theorem assigns_versionOnly (k : Nat) :
    Assigns (versionOnly k) [(versionName, .int (16 ^ k))] := by
  have letters : (versionOnly k).toList = _ := String.toList_ofList
  have clean : Clean (versionOnly k).toList := by
    rw [letters]
    have zeros : Clean (List.replicate k '0') := fun c among => by
      rw [List.eq_of_mem_replicate among]
      decide
    have name : Clean versionName.toList := clean_of_isName (by decide)
    simp [sixteenTo, name, zeros]
  have opens : Opens (sixteenTo k ++ ['\n']) := ⟨_, _, rfl, by decide, by decide⟩
  have value : lineValue (sixteenTo k ++ ['\n']) =
      (some (.int (16 ^ k))).map fun v => (v, ['\n']) :=
    lineValue_of_operand (operand_sixteenTo k)
  rw [← assignments?_eq_some_iff, assignments?_of_clean clean, letters,
    lines?_assignment (by decide) opens value, form_versionName, if_pos isAssignable_versionName]
  rfl

theorem unnameable_versionOnly {k : Nat} (vast : 10 ^ Numeral.longestDecimal ≤ 16 ^ k) :
    Unnameable .plain map (versionOnly k) := by
  have last : (Names.start map).assign [(versionName, .int (16 ^ k))] versionName =
      some (.int (16 ^ k)) := by
    simp [Names.assign]
  have size : (16 ^ k : Int).natAbs = 16 ^ k := by
    rw [Int.natAbs_pow]
    rfl
  have assigned := assignments?_eq_some_iff.2 (assigns_versionOnly k)
  refine ⟨_, _, Machine.plain_run assigned, ?_, last, ?_⟩
  · rintro ⟨version, n, given, integer, known⟩
    rw [last] at given
    cases given
    cases integer
    have large : 1 < 10 ^ Numeral.longestDecimal := Nat.one_lt_pow (by decide) (by decide)
    have known : ((16 ^ k : Nat) : Int) ≤ formatVersion := by exact_mod_cast known
    rw [formatVersion] at known
    omega
  · rw [Value.legible, Bool.eq_false_iff, Ne, Numeral.isLegible_iff, size, Nat.not_lt]
    exact vast

end DebugScopes.MapFile

import DebugScopes.Proofs.MapFile.Names
import DebugScopes.Proofs.MapFile.Rereading

/-!
# The two lines of a map file

A map file assigns its version and then the map, and nothing else. What loading it gives is decided
by what is read of the display in the second line and by what the name means as the target of an
assignment: some names cannot be assigned, and a name in a variant of its letters stands for the
name in the common ones.

* `Reader.unifyLineEnds_of_clean`: the reader sees the text as it was written;
* `MapFile.letters_draft`: the two lines;
* `MapFile.assignments?_draft`: the two assignments;
* `MapFile.load_draft`: what is loaded.
-/

namespace DebugScopes

namespace Reader

variable {s row rest : List Char} {c : Char} {v : Value}

/-! ### The whole text -/

theorem unifyLineEnds_of_clean (clean : Clean s) : unifyLineEnds s = s := by
  induction s with
  | nil => rfl
  | cons c s ih =>
    rw [clean_cons] at clean
    have other : c ≠ '\r' := by
      rintro rfl
      exact absurd clean.1 (by decide)
    unfold unifyLineEnds
    split
    · contradiction
    · next same => cases same; exact absurd rfl other
    · next same => cases same; exact absurd rfl other
    · next same => cases same; rw [ih clean.2]

theorem contains_null_of_clean (clean : Clean s) : s.contains '\x00' = false := by
  rw [List.contains_eq_mem, decide_eq_false_iff_not]
  intro among
  exact absurd (clean _ among) (by decide)

theorem assignments?_of_clean {text : String} (clean : Clean text.toList) :
    assignments? text = lines? (text.toList.length + 1) text.toList := by
  rw [assignments?, unifyLineEnds_of_clean clean, contains_null_of_clean clean]
  rfl

/-- No control character stands in a name. -/
theorem clean_of_isName (name : Name.isName row) : Clean row := by
  intro c among
  by_contra low
  have other := (by decide : ∀ n < 0x20, isNameChar (Char.ofNat n) = false) c.toNat (by omega)
  rw [Char.ofNat_toNat, isNameChar_of_isPart (isPart_of_isName name c among)] at other
  cases other

/-- No name starts with what is dropped between two parts. -/
theorem exists_cons_of_isName (name : Name.isName row) :
    ∃ front more, row = front :: more ∧ front ∉ blankMarks := by
  cases row with
  | nil => cases name
  | cons front more =>
    rw [Name.isName, Bool.and_eq_true] at name
    refine ⟨front, more, rfl, fun mark => ?_⟩
    simp only [blankMarks, List.mem_cons, List.not_mem_nil, or_false] at mark
    rcases mark with rfl | rfl | rfl | rfl | rfl | rfl <;> exact absurd name.1 (by decide)

/-! ### One line -/

theorem indent_cons (solid : c ∉ blankMarks) : indent 0 0 (c :: s) = (0, c :: s) := by
  simp only [blankMarks, List.mem_cons, List.not_mem_nil, or_false, not_or] at solid
  obtain ⟨space, tab, feed, line, comment, joint⟩ := solid
  unfold indent
  split <;> simp_all

theorem lineEnd?_line : lineEnd? ('\n' :: rest) = some rest := by
  simp [lineEnd?, blanks, skip]

/-- No line ends where something solid stands. -/
theorem lineEnd?_cons (solid : c ∉ blankMarks) : lineEnd? (c :: s) = none := by
  rw [lineEnd?, blanks_cons solid]
  simp only [blankMarks, List.mem_cons, List.not_mem_nil, or_false, not_or] at solid
  split
  · contradiction
  · next same => cases same; exact absurd rfl solid.2.2.2.1
  · next same => cases same; exact absurd rfl solid.2.2.2.2.1
  · rfl

/-- A value that ends its line is the whole value of the line. -/
theorem lineValue_of_operand {r : Option Value}
    (read : operand (4 * s.length + 3) 0 s = r.map fun v => (v, '\n' :: rest)) :
    lineValue s = r.map fun v => (v, '\n' :: rest) := by
  have depth : depthFor s = 4 * s.length + 3 + 1 := rfl
  have blank : blanks false ('\n' :: rest) = '\n' :: rest := by simp [blanks, skip]
  rw [lineValue, depth, value, read]
  cases r with
  | none => rfl
  | some v =>
    have unsigned : addends (4 * s.length + 3) 0 v ('\n' :: rest) = some (v, '\n' :: rest) := by
      refine addends_unsigned fun d front => ?_
      change d ∈ (blanks false ('\n' :: rest)).head? at front
      rw [blank] at front
      cases front
      decide
    have alone : further (('\n' :: rest).length + 1) ('\n' :: rest) =
        some ([], false, '\n' :: rest) := by
      rw [further, blank]
      rfl
    dsimp only [Option.map_some]
    rw [unsigned]
    dsimp only
    rw [alone]
    rfl

/-- The name in front of a line, and what is assigned to it. -/
theorem target?_assignment (name : Name.isName row) :
    target? (row ++ ' ' :: '=' :: s) = some (String.ofList row, s) := by
  rw [target?, name?_append name (by rfl)]
  dsimp only
  rw [blanks_space, blanks_cons (by decide)]
  rfl

/-- Whether a name can be assigned. -/
def isAssignable (name : String) : Bool :=
  !(reserved.contains name || Normal.form name == fixedName)

/-- A line that assigns a value. -/
theorem line?_assignment {name : String} (named : Name.isName name.toList) {r : Option Value}
    (opens : Opens s) (read : lineValue s = r.map fun v => (v, '\n' :: rest)) :
    line? (name.toList ++ ' ' :: '=' :: ' ' :: s) =
      if isAssignable name then r.map fun v => (some (Normal.form name, v), rest) else none := by
  obtain ⟨front, more, letters, solid⟩ := exists_cons_of_isName named
  have start : indent 0 0 (name.toList ++ ' ' :: '=' :: ' ' :: s) =
      (0, name.toList ++ ' ' :: '=' :: ' ' :: s) := by
    rw [letters, List.cons_append, indent_cons solid]
  rw [line?, start]
  dsimp only
  rw [target?_assignment named]
  dsimp only
  rw [String.ofList_toList, blanks_space, opens.blanks_eq, read, isAssignable]
  cases reserved.contains name || Normal.form name == fixedName with
  | true => rfl
  | false =>
    cases r with
    | none => rfl
    | some v =>
      dsimp only [Option.map_some, Bool.not_false]
      rw [lineEnd?_line]
      rfl

/-- The lines from one that assigns a value on. -/
theorem lines?_assignment {name : String} {lines : Nat} (named : Name.isName name.toList)
    {r : Option Value} (opens : Opens s) (read : lineValue s = r.map fun v => (v, '\n' :: rest)) :
    lines? (lines + 1) (name.toList ++ ' ' :: '=' :: ' ' :: s) =
      if isAssignable name then
        r.bind fun v => (if rest = [] then some [] else lines? lines rest).map
          ((Normal.form name, v) :: ·)
      else none := by
  have start : lineEnd? (name.toList ++ ' ' :: '=' :: ' ' :: s) = none := by
    obtain ⟨front, more, letters, solid⟩ := exists_cons_of_isName named
    rw [letters, List.cons_append, lineEnd?_cons solid]
  rw [lines?, start]
  dsimp only
  rw [line?_assignment named opens read]
  cases isAssignable name with
  | false => rfl
  | true =>
    cases r with
    | none => rfl
    | some v => cases rest <;> rfl

end Reader

namespace MapFile

open Reader Console

variable {file name : String} {data defaults : Entries} {r : Option Value}

/-! ### The text of a map file -/

/-- The display in the second line of a map file. -/
def display (data : Entries) : List Char :=
  '\x7b' :: '\n' :: '\n' :: ((draftRows data).letters ++ ['\n', '\x7d', '\n'])

/-- The two lines of a map file. -/
theorem letters_draft (whole : (draft name data).refused = none) :
    (draftRows data).refused = none ∧
      (draft name data).letters = versionName.toList ++ ' ' :: '=' :: ' ' ::
        ((Numeral.decimal formatVersion).toList ++
          '\n' :: (name.toList ++ ' ' :: '=' :: ' ' :: display data)) := by
  rw [draft] at whole ⊢
  simp only [Draft.append_whole, Draft.refused_ofText, and_true, true_and] at whole
  refine ⟨whole, ?_⟩
  rw [Draft.letters_append (by simp [whole]), Draft.letters_append (by simp),
    Draft.letters_append rfl]
  simp [display]

theorem clean_draft (named : Name.isName name.toList) (rows : Clean (draftRows data).letters) :
    Clean (draft name data).letters := by
  have version : Clean versionName.toList := clean_of_isName (by decide)
  refine Draft.clean_append (Draft.clean_append (Draft.clean_append ?_ ?_) rows) (by simp)
  · simp [version, clean_decimal]
  · simp [clean_of_isName named]

theorem form_versionName : Normal.form versionName = versionName :=
  Normal.form_ascii (by decide)

theorem isAssignable_versionName : isAssignable versionName := by
  rw [isAssignable, form_versionName]
  decide

/-- The name of the settings stands for itself. -/
theorem isAssignable_config : isAssignable "config" ∧ Normal.form "config" = "config" := by
  have itself : Normal.form "config" = "config" := Normal.form_ascii (by decide)
  rw [isAssignable, itself]
  decide

/-- The assignments of two lines of which the first one assigns the version. -/
theorem assignments?_lines {a : Draft} {s : List Char} (named : Name.isName name.toList)
    (clean : Clean a.letters)
    (lines : a.letters = versionName.toList ++ ' ' :: '=' :: ' ' ::
      ((Numeral.decimal formatVersion).toList ++ '\n' :: (name.toList ++ ' ' :: '=' :: ' ' :: s)))
    (opens : Opens s) (read : operand (4 * s.length + 3) 0 s = r.map fun v => (v, ['\n'])) :
    assignments? a.text =
      if isAssignable name then
        r.map fun v => [(versionName, .int formatVersion), (Normal.form name, v)]
      else none := by
  have text : a.text.toList = _ := lines
  have version : ∀ rest, lineValue ((Numeral.decimal formatVersion).toList ++ '\n' :: rest) =
      (some (.int formatVersion)).map fun v => (v, '\n' :: rest) := fun rest =>
    lineValue_of_operand (operand_decimal (by decide) (by decide))
  rw [assignments?_of_clean clean, text, List.length_append, List.length_cons, ← Nat.add_assoc,
    lines?_assignment (by decide) ((opens_decimal _).append _) (version _), form_versionName,
    if_pos isAssignable_versionName, Option.bind_some, if_neg (by simp),
    lines?_assignment named opens (lineValue_of_operand read)]
  cases isAssignable name with
  | false => rfl
  | true => cases r <;> rfl

/-- The assignments of a map file are decided by what is read of the display and by the name. -/
theorem assignments?_draft (named : Name.isName name.toList)
    (whole : (draft name data).refused = none) (rows : Clean (draftRows data).letters)
    (read : operand (4 * (display data).length + 3) 0 (display data) =
      r.map fun v => (v, ['\n'])) :
    assignments? (draft name data).text =
      if isAssignable name then
        r.map fun v => [(versionName, .int formatVersion), (Normal.form name, v)]
      else none :=
  assignments?_lines named (clean_draft named rows) (letters_draft whole).2
    ⟨_, _, rfl, by decide, by decide⟩ read

/-! ### What is loaded -/

/-- A file that is no row of assignments leaves the defaults as they are. -/
theorem load_of_unread {text : String} (other : name ≠ versionName)
    (none : assignments? text = none) :
    load file name defaults text = .ok (defaults, [unread file]) := by
  rw [load, loadOn_eq_map, foundOn_of_failed other (Machine.plain_run_none none)]
  rfl

/-- A row of assignments is judged by its last values. -/
theorem load_of_rows {text : String} {rows : List (String × Value)}
    (read : assignments? text = some rows) :
    load file name defaults text =
      (judge file name ((Names.start name).assign rows)).map fun judged =>
        (Entries.overlay defaults judged.1, judged.2) := by
  rw [load, loadOn_eq_map, foundOn_of_finished (Machine.plain_run read)]

/-- What a map that has been found makes of the defaults. Anything but a dictionary is no map. -/
def laid (file : String) (defaults : Entries) : Value → Entries × List Message
  | .dict entries => (Entries.overlay defaults entries, [])
  | _ => (defaults, [misshapen file])

/-- What a file gives that assigns its version and then a value to another name: the value is the
map, or in the place of the version, or of no interest. -/
def given (file name : String) (defaults : Entries) (target : String) (v : Value) :
    Except Fault (Entries × List Message) :=
  if target = versionName then
    if isReadable v then .ok (defaults, [])
    else
      match v.shown? with
      | none => .error .illegibleVersion
      | some shown => .ok (defaults, [unknownVersion file shown])
  else if target = name then .ok (laid file defaults v)
  else .ok (defaults, [])

theorem load_of_assignments {text target : String} {v : Value} (other : name ≠ versionName)
    (read : assignments? text = some [(versionName, .int formatVersion), (target, v)]) :
    load file name defaults text = given file name defaults target v := by
  have version : lastValue? [(versionName, .int formatVersion), (target, v)] versionName =
      some (if target = versionName then v else .int formatVersion) := by
    simp only [lastValue?, List.foldl_cons, List.foldl_nil]
    split <;> rfl
  have map : (lastValue? [(versionName, .int formatVersion), (target, v)] name).getD (.dict []) =
      if target = name then v else .dict [] := by
    simp only [lastValue?, List.foldl_cons, List.foldl_nil, if_neg other.symm]
    split <;> rfl
  rw [load_of_rows read, judge, Names.version_assign other, Names.map_assign, version, map, given]
  by_cases versioned : target = versionName
  · have apart : target ≠ name := fun same => other (same.symm.trans versioned)
    rw [if_pos versioned, if_pos versioned, if_neg apart, Option.getD_some]
    cases isReadable v with
    | true => rfl
    | false => cases v.shown? <;> rfl
  · rw [if_neg versioned, if_neg versioned]
    by_cases same : target = name
    · rw [if_pos same, if_pos same]
      cases v <;> rfl
    · rw [if_neg same, if_neg same]
      rfl

/-- What is loaded of a map file is decided by what is read of the display and by the name. -/
theorem load_draft (named : Name.isName name.toList) (other : name ≠ versionName)
    (whole : (draft name data).refused = none) (rows : Clean (draftRows data).letters)
    (read : operand (4 * (display data).length + 3) 0 (display data) =
      r.map fun v => (v, ['\n'])) :
    load file name defaults (draft name data).text =
      match if isAssignable name then r else none with
      | none => .ok (defaults, [unread file])
      | some v => given file name defaults (Normal.form name) v := by
  have assigned := assignments?_draft named whole rows read
  cases assignable : isAssignable name with
  | false =>
    rw [assignable] at assigned
    exact load_of_unread other assigned
  | true =>
    rw [assignable] at assigned
    cases r with
    | none => exact load_of_unread other assigned
    | some v => exact load_of_assignments other assigned

end MapFile

end DebugScopes

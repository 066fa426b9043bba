import DebugScopes.Value.Printer

/-!
# Writing a map file

A map file holds a format version and one named map. It is written front to back, and a value that
no file can hold stops the writing where it stands: what was written before it remains. `Draft`
keeps both, the text so far and what stopped it.

* `MapFile.draftValue` writes a value inside another: tuples become lists, buffers become bytes;
* `MapFile.draft` writes the whole file.
-/

namespace DebugScopes.MapFile

/-- The version of the format. -/
def formatVersion : Int := 1

/-- The name under which a file says its version. -/
def versionName : String := "formatversion"

/-- Why a value stops the writing. -/
inductive Refusal
  /-- No file can hold a value of that kind. -/
  | kind (name : String)
  /-- An integer has too many digits. -/
  | illegible
deriving DecidableEq, Repr

/-- The wording of a refusal. -/
def Refusal.message : Refusal → String
  | kind name => "Cannot serialize value of type '" ++ name ++ "'"
  | illegible => Numeral.illegible

/-- A text under construction, and what stopped it, if anything has. -/
structure Draft where
  text : String
  refused : Option Refusal
deriving DecidableEq, Repr

namespace Draft

/-- A text that is written as a whole. -/
def ofText (text : String) : Draft := ⟨text, none⟩

/-- What is written where a value stops the writing. -/
def refuse (refusal : Refusal) : Draft := ⟨"", some refusal⟩

/-- Writes on, unless the first part has stopped. -/
def append (a b : Draft) : Draft :=
  match a.refused with
  | some _ => a
  | none => ⟨a.text ++ b.text, b.refused⟩

instance : Append Draft := ⟨append⟩

end Draft

mutual

/-- A value inside another one or behind a key. -/
def draftValue : Value → Draft
  | .null => .ofText (Value.written .null)
  | .bool b => .ofText (Value.written (.bool b))
  | .int i =>
    if Numeral.isLegible i then .ofText (Value.written (.int i)) else .refuse .illegible
  | .float x => .ofText (Value.written (.float x))
  | .text s => .ofText (Value.written (.text s))
  | .halves codes => .ofText (Value.written (.halves codes))
  | .bytes b | .buffer b => .ofText (Quoted.ofBytes b)
  | .list xs | .tuple xs => .ofText "[" ++ draftItems xs ++ .ofText "]"
  | .dict entries => .ofText "\x7b\n" ++ draftEntries entries ++ .ofText "  \x7d"
  | .complex .. => .refuse (.kind "complex")
  | .set _ => .refuse (.kind "set")
  | .frozen _ => .refuse (.kind "frozenset")
  | .range .. => .refuse (.kind "range")
  | .foreign kind => .refuse (.kind kind)

/-- The items of a list, a comma behind each. -/
def draftItems : List Value → Draft
  | [] => .ofText ""
  | x :: xs => draftValue x ++ .ofText ", " ++ draftItems xs

/-- The entries of a dictionary, a line for each. -/
def draftEntries : List (Value × Value) → Draft
  | [] => .ofText ""
  | (k, v) :: rest =>
    .ofText "    " ++ draftValue k ++ .ofText ": " ++ draftValue v ++ .ofText ",\n" ++
      draftEntries rest

end

/-- An entry of the map itself. A null key is left out together with what separates the entry from
the next one. -/
def draftRow : Value × Value → Draft
  | (.null, v) => draftValue v
  | (k, v) =>
    if k.legible then .ofText ("  " ++ k.written ++ ": ") ++ draftValue v ++ .ofText ",\n"
    else .refuse .illegible

/-- The entries of the map, one behind the other. -/
def draftRows : Entries → Draft
  | [] => .ofText ""
  | row :: rest => draftRow row ++ draftRows rest

/-- The file that holds a map under a name. -/
def draft (name : String) (entries : Entries) : Draft :=
  .ofText (versionName ++ " = " ++ Numeral.decimal formatVersion ++ "\n") ++
    .ofText (name ++ " = \x7b\n\n") ++ draftRows entries ++ .ofText "\n\x7d\n"

end DebugScopes.MapFile

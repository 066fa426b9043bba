/-!
# Words

What a message says is put together from texts, and a text that was read from a file may hold halves
of surrogate pairs, which stand for no character by themselves. Such a message can be posted, but it
cannot be written, since no string holds it. `Words` are what is said, whether it can be written or
not.

* `Words.string?` is the string of some words, if they have one;
* `Words.isWritable_ofString`, `Words.isWritable_append`: strings can be written, and so can what is
  put together from them.
-/

namespace DebugScopes

/-- What is said, by its codes. Halves of surrogate pairs may stand alone among them. -/
structure Words where
  codes : List Nat
deriving DecidableEq, Repr, Inhabited

namespace Words

/-- The words of a string. -/
def ofString (s : String) : Words := ⟨s.toList.map Char.toNat⟩

instance : Coe String Words := ⟨ofString⟩

/-- One behind the other. -/
def append (v w : Words) : Words := ⟨v.codes ++ w.codes⟩

instance : Append Words := ⟨append⟩

/-- All words of a list, one behind the other. -/
def join (parts : List Words) : Words := ⟨parts.flatMap (·.codes)⟩

/-- Whether the words can be written: every code is that of a character. -/
def isWritable (w : Words) : Bool := w.codes.all fun code => code.isValidChar

/-- The string of the words, if they can be written. -/
def string? (w : Words) : Option String :=
  if w.isWritable then some (String.ofList (w.codes.map Char.ofNat)) else none

/-! ### Strings -/

@[simp] theorem isWritable_ofString (s : String) : (ofString s).isWritable = true := by
  unfold isWritable ofString
  rw [List.all_map, List.all_eq_true]
  intro c _
  exact decide_eq_true c.valid

@[simp] theorem isWritable_append (v w : Words) :
    (v ++ w).isWritable = (v.isWritable && w.isWritable) :=
  List.all_append

theorem ofString_append (s t : String) : ofString (s ++ t) = ofString s ++ ofString t := by
  show (⟨_⟩ : Words) = ⟨_⟩
  rw [String.toList_append, List.map_append]
  rfl

theorem join_cons (w : Words) (rest : List Words) : join (w :: rest) = w ++ join rest := rfl

theorem join_singleton (w : Words) : join [w] = w := by
  rw [join, List.flatMap_cons, List.flatMap_nil, List.append_nil]

/-- A string behind some words can be written if these can. -/
theorem string?_append_ofString (w : Words) (s : String) :
    (w ++ ofString s).string? = w.string?.map (· ++ s) := by
  have back : (Char.ofNat ∘ Char.toNat) = id := funext Char.ofNat_toNat
  have codes : (w ++ ofString s).codes = w.codes ++ s.toList.map Char.toNat := rfl
  rw [string?, string?, isWritable_append, isWritable_ofString, Bool.and_true, codes,
    List.map_append, List.map_map, back, List.map_id, String.ofList_append, String.ofList_toList]
  split <;> rfl

theorem join_map_ofString (parts : List String) :
    join (parts.map ofString) = ofString (String.join parts) := by
  unfold join ofString
  rw [String.toList_join, List.map_flatMap, List.flatMap_map]

end Words

end DebugScopes

import DebugScopes.Value.Basic

/-!
# The order of values

Numbers are ordered by what they denote, texts by their codes, byte strings by their bytes, tuples
by the first items that differ, and fixed sets by inclusion. No other values are ordered.

* `Value.less?` says whether a value comes before another, if the two are ordered.
-/

namespace DebugScopes.Value

/-- The codes of a text. -/
def codes? : Value → Option (List Nat)
  | text s => some (s.toList.map Char.toNat)
  | halves codes => some codes
  | _ => none

/-- Whether a value that is no tuple comes before another one. -/
def lessPlain? (v w : Value) : Option Bool :=
  match v.numeric?, w.numeric? with
  | some x, some y => some (x.compare? y == some .lt)
  | _, _ =>
    match v.codes?, w.codes? with
    | some x, some y => some (x < y)
    | _, _ =>
      match v.byteString?, w.byteString? with
      | some x, some y => some (x < y)
      | _, _ =>
        match v.members?, w.members? with
        | some x, some y => some (x.length < y.length && allAmong x y)
        | _, _ => none

mutual

/-- Whether a value comes before another one, if the two are ordered. -/
def less? : Value → Value → Option Bool
  | tuple xs, tuple ys => lessItems? xs ys
  | v, w => lessPlain? v w

/-- Whether a row of items comes before another one: the first items that differ decide, and of two
rows that do not differ so far the shorter comes first. -/
def lessItems? : List Value → List Value → Option Bool
  | _, [] => some false
  | [], _ :: _ => some true
  | x :: xs, y :: ys => if same x y then lessItems? xs ys else less? x y

end

end DebugScopes.Value

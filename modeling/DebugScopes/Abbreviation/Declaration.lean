import DebugScopes.Bytes.Segment

/-!
# Abbreviation declarations

Entries name their layout by a code, and the abbreviation table declares the codes: a code byte, a
tag byte, a byte that says whether entries have children, and pairs of an attribute and its form, up
to a pair of zeros.

* `Declaration.attributesAt` reads the pairs;
* `Declaration.read` reads a whole declaration.
-/

namespace DebugScopes

/-- The layout of the entries with one code. -/
structure Declaration where
  tag : Nat
  hasChildren : Bool
  attributes : List (Nat × Nat)
deriving DecidableEq, Repr

namespace Declaration

/-- A pair of an attribute and its form. -/
def pair (s : Segment) : Read (Nat × Nat) := do
  let attr ← within .declaredAttribute s.uleb128
  let form ← within .declaredForm s.uleb128
  pure (attr, form)

theorem pair_ok {s : Segment} {pos after : Int} {p : Nat × Nat} (read : pair s pos = .ok p after) :
    pos < after ∧ after ≤ s.length := by
  obtain ⟨attr, middle, first, read⟩ := Segment.bind_ok read
  obtain ⟨form, last, second, read⟩ := Segment.bind_ok read
  have first := Segment.uleb128_ok (Segment.within_ok first)
  have second := Segment.uleb128_ok (Segment.within_ok second)
  cases read
  omega

/-- The pairs from a position on, up to a pair of zeros. -/
def attributesAt (s : Segment) : Read (List (Nat × Nat)) := fun pos =>
  match _read : pair s pos with
  | .error e after => .error e after
  | .ok (attr, form) after =>
    if attr = 0 ∧ form = 0 then .ok [] after
    else
      match attributesAt s after with
      | .error e after => .error e after
      | .ok rest after => .ok ((attr, form) :: rest) after
termination_by pos => (s.length - pos).toNat
decreasing_by
  have moved := pair_ok _read
  omega

/-- A declaration from its code byte on. -/
def read (s : Segment) : Read Declaration := do
  let _ ← within .declaredCode s.byte
  let tag ← within .declaredTag s.byte
  let children ← within .declaredChildren s.byte
  let attributes ← attributesAt s
  pure ⟨tag, children != 0, attributes⟩

end Declaration

end DebugScopes

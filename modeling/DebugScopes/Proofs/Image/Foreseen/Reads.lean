import DebugScopes.Proofs.Abbreviation.Keeping
import DebugScopes.Proofs.Bytes.Numbers
import DebugScopes.Proofs.Decoding.Contract
import DebugScopes.Proofs.Text.Numerals

/-!
# How reading an image fails

Whatever an image holds, reading it fails on damage and on nothing else, with one exception: a
message that has to name a number of more than `longestDecimal` digits cannot be worded. Such a
number is the declared width of an item, unless the image is larger than any that there is.

* `Foreseen`: the causes for which the decoding of an image can fail;
* `foreseen_sized`, `foreseen_skip`: items, which may be as wide as they like;
* `foreseen_scan`: the abbreviation table.
-/

namespace DebugScopes

/-! ### Numbers in messages -/

/-- The number that the wording of a damage owes to the image. -/
def Damage.named? : Damage → Option Int
  | readPastEnd count .. => some count
  | itemWidth _ size => some size
  | _ => none

/-- Whether a damage is worded in texts only: no value of a snapshot or a setting is quoted. -/
def Damage.isPlain : Damage → Bool
  | noEntryPoint .. | oddWidth .. => false
  | _ => true

theorem Damage.isWritable_message {d : Damage} (plain : d.isPlain) : d.message.isWritable := by
  cases d with
  | noEntryPoint => cases plain
  | oddWidth => cases plain
  | itemWidth => simp [message, badWidth]
  | _ => simp [message]

/-- Whether some item of the image is declared to be that wide. -/
def Image.Declares (image : Image) (width : Int) : Prop :=
  ∃ row ∈ image.symbols.toList, row.size = width

/-- Whether a width can neither be named nor be that of an item inside the data. -/
def Image.unspeakable (image : Image) (width : Int) : Bool :=
  !Numeral.isLegible width && (width < 0 || image.length < width)

/-- An image is vast if it has about as many bytes or items as there are numbers that can be
named. -/
def Image.Vast (image : Image) : Prop :=
  10 ^ Numeral.longestDecimal ≤ image.symbols.size + 2 * image.data.size + 1

/-- The causes for which the decoding of an image can fail. -/
inductive Foreseen (image : Image) : Cause → Prop
  | damage {d : Damage} (plain : d.isPlain)
      (named : ∀ n, d.named? = some n → 0 ≤ n ∨ image.Declares n) : Foreseen image (.damage d)
  | unspeakable {width : Int} (declared : image.Declares width)
      (unspeakable : image.unspeakable width) : Foreseen image .illegible
  | vast (vast : image.Vast) : Foreseen image .illegible

section Causes

variable {image : Image} {d : Damage}

theorem foreseen_of_legible (legible : d.isLegible) (plain : d.isPlain)
    (named : ∀ n, d.named? = some n → 0 ≤ n ∨ image.Declares n) :
    Foreseen image (Failure.ofDamage d).cause := by
  show Foreseen image (if d.isLegible then .damage d else .illegible)
  rw [if_pos legible]
  exact .damage plain named

theorem foreseen_of_unnamed (legible : d.isLegible) (plain : d.isPlain)
    (unnamed : d.named? = none) : Foreseen image (Failure.ofDamage d).cause :=
  foreseen_of_legible legible plain fun _ found => absurd (unnamed.symm.trans found) nofun

theorem foreseen_of_vast (vast : ¬ d.isLegible → image.Vast) (plain : d.isPlain)
    (unnamed : d.named? = none) :
    Foreseen image (Failure.ofDamage d).cause := by
  by_cases legible : d.isLegible
  · exact foreseen_of_unnamed legible plain unnamed
  · show Foreseen image (if d.isLegible then .damage d else .illegible)
    rw [if_neg legible]
    exact .vast (vast legible)

/-- A damage that names the declared width of an item is foreseen, whether it can be worded or
not. -/
theorem foreseen_of_declared {width : Int} (declared : image.Declares width) (plain : d.isPlain)
    (named : d.named? = some width) (legible : d.isLegible = Numeral.isLegible width) :
    Foreseen image (Failure.ofDamage d).cause := by
  cases spoken : Numeral.isLegible width with
  | true =>
    refine foreseen_of_legible (legible.trans spoken) plain fun n found => .inr ?_
    obtain rfl := Option.some.inj (named.symm.trans found)
    exact declared
  | false =>
    show Foreseen image (if d.isLegible then .damage d else .illegible)
    rw [legible, spoken, if_neg Bool.false_ne_true]
    by_cases outside : width < 0 ∨ image.length < width
    · apply Foreseen.unspeakable declared
      unfold Image.unspeakable
      rw [spoken]
      simpa using outside
    · -- as many bytes as the width says, so the data are vast
      apply Foreseen.vast
      have long : ¬ width.natAbs < 10 ^ Numeral.longestDecimal := fun short =>
        absurd (Numeral.isLegible_iff.2 short) (by rw [spoken]; exact Bool.false_ne_true)
      have := image.length_le
      unfold Image.Vast
      omega

end Causes

/-! ### Reads -/

/-- An action that fails only for causes that are foreseen. -/
abbrev FailsForeseen {σ α : Type} (image : Image) (action : EStateM Failure σ α) : Prop :=
  Triple (fun _ => True) action (fun _ _ => True) (Foreseen image)

section Reads

variable {image : Image} {order : ByteOrder}

/-- Bytes that the data lack are foreseen, as many as an item may have. -/
theorem foreseen_readPastEnd {count : Int}
    (counted : (0 ≤ count ∧ count < 2 ^ 32) ∨ image.Declares count) (pos length : Int) :
    Foreseen image (Failure.ofDamage (.readPastEnd count pos length)).cause := by
  rcases counted with ⟨positive, small⟩ | declared
  · refine foreseen_of_legible ?_ rfl fun n named => .inl (Option.some.inj named ▸ positive)
    show Numeral.isLegible count
    rw [← Int.toNat_of_nonneg positive]
    exact Numeral.isLegible_of_lt (by omega)
  · exact foreseen_of_declared declared rfl rfl rfl

theorem foreseen_byte : FailsForeseen image (image.segment (.ok order)).byte :=
  Segment.triple_byte image.length_le
    fun pos => foreseen_readPastEnd (.inl ⟨by decide, by decide⟩) pos _

theorem foreseen_number (count : Nat) (small : count < 2 ^ 32) :
    FailsForeseen image ((image.segment (.ok order)).number count) :=
  Segment.triple_number rfl fun pos => foreseen_readPastEnd (.inl ⟨by omega, by omega⟩) pos _

theorem foreseen_sized {size : Int} (sized : size = 1 ∨ size = 2 ∨ size = 4 ∨ image.Declares size) :
    FailsForeseen image ((image.segment (.ok order)).sized size) := by
  refine Segment.triple_sized image.length_le rfl (fun narrow pos => ?_) fun one two four pos => ?_
  · exact foreseen_readPastEnd (.inl (by omega)) pos _
  · have declared := ((sized.resolve_left one).resolve_left two).resolve_left four
    exact foreseen_of_declared declared rfl rfl rfl

theorem foreseen_skip {count : Int}
    (counted : (0 ≤ count ∧ count < 2 ^ 32) ∨ image.Declares count) :
    FailsForeseen image ((image.segment (.ok order)).skip count) :=
  .bind (Segment.triple_take fun pos => foreseen_readPastEnd counted pos _)
    fun _ => .pure fun _ _ => trivial

theorem foreseen_textAt (addr : Int) (e : Failure)
    (failed : (Source.of image (.ok order)).textAt addr = .error e) : Foreseen image e.cause := by
  rw [Source.textAt_of] at failed
  unfold Segment.textAt at failed
  split at failed
  · cases failed
    exact foreseen_of_unnamed rfl rfl rfl
  · dsimp only at failed
    split at failed
    · cases failed
    · cases failed
      exact foreseen_of_unnamed rfl rfl rfl

theorem foreseen_uleb128 : FailsForeseen image (image.segment (.ok order)).uleb128 := by
  refine ⟨fun _ _ => trivial, fun {pos e after} _ run => ?_⟩
  have septet : FailsForeseen image (within .septet (image.segment (.ok order)).byte) :=
    .within foreseen_byte
  fun_induction Segment.uleb128 (image.segment (.ok order)) pos generalizing e after with
  | case1 pos e' between failed =>
    cases run
    exact septet.error trivial failed
  | case2 => cases run
  | case3 pos b between found large e' last failed ih =>
    cases run
    exact ih failed
  | case4 => cases run

/-! ### The abbreviation table -/

theorem foreseen_attributesAt :
    FailsForeseen image (Declaration.attributesAt (image.segment (.ok order))) := by
  have pair : FailsForeseen image (Declaration.pair (image.segment (.ok order))) :=
    .bind (.within foreseen_uleb128) fun _ => .bind (.within foreseen_uleb128) fun _ =>
      .pure fun _ _ => trivial
  refine ⟨fun _ _ => trivial, fun {pos e after} _ run => ?_⟩
  fun_induction Declaration.attributesAt (image.segment (.ok order)) pos generalizing e after with
  | case1 pos e' between failed =>
    cases run
    exact pair.error trivial failed
  | case2 => cases run
  | case3 pos attr form between found more e' last failed ih =>
    cases run
    exact ih failed
  | case4 => cases run

theorem foreseen_declaration :
    FailsForeseen image (Declaration.read (image.segment (.ok order))) :=
  .bind (.within foreseen_byte) fun _ => .bind (.within foreseen_byte) fun _ =>
    .bind (.within foreseen_byte) fun _ => .bind foreseen_attributesAt fun _ =>
      .pure fun _ _ => trivial

theorem foreseen_skipBody (afterZero : Bool) :
    FailsForeseen image (Abbreviation.Index.skipBody (image.segment (.ok order)) afterZero) := by
  have body : FailsForeseen image (within .tableBody (image.segment (.ok order)).byte) :=
    .within foreseen_byte
  refine ⟨fun _ _ => trivial, fun {pos e after} _ run => ?_⟩
  fun_induction Abbreviation.Index.skipBody (image.segment (.ok order)) afterZero pos
      generalizing e after with
  | case1 afterZero pos e' between failed =>
    cases run
    exact body.error trivial failed
  | case2 => cases run
  | case3 afterZero pos b between found more ih => exact ih run

theorem foreseen_scanFrom :
    FailsForeseen image (Abbreviation.Index.scanFrom (image.segment (.ok order))) := by
  have one : FailsForeseen image (Abbreviation.Index.scanOne (image.segment (.ok order))) := by
    refine .bind (.within foreseen_byte) fun code => ?_
    split
    · exact .pure fun _ _ => trivial
    · exact .bind foreseen_byte fun _ => .bind foreseen_byte fun _ =>
        .bind (foreseen_skipBody false) fun _ => .pure fun _ _ => trivial
  refine ⟨fun _ _ => trivial, fun {pos e after} _ run => ?_⟩
  fun_induction Abbreviation.Index.scanFrom (image.segment (.ok order)) pos
      generalizing e after with
  | case1 pos e' between failed =>
    cases run
    exact one.error trivial failed
  | case2 => cases run
  | case3 pos code between found more e' last failed ih =>
    cases run
    exact ih failed
  | case4 => cases run

theorem foreseen_scan {start : Int} {e : Failure}
    (failed : Abbreviation.Index.scan (image.segment (.ok order)) start = .error e) :
    Foreseen image e.cause := by
  unfold Abbreviation.Index.scan at failed
  cases run : Abbreviation.Index.scanFrom (image.segment (.ok order)) start with
  | ok rows stop =>
    rw [run] at failed
    cases failed
  | error e' after =>
    rw [run] at failed
    cases failed
    exact foreseen_scanFrom.error trivial run

/-- A declaration has no more attributes than there are bytes. -/
theorem Declaration.attributes_length_le {s : Segment} {pos after : Int} {d : Declaration}
    (read : Declaration.read s pos = .ok d after) : (d.attributes.length : Int) ≤ s.length := by
  have counted : ∀ {pos after : Int} {attributes : List (Nat × Nat)},
      Declaration.attributesAt s pos = .ok attributes after →
        pos + attributes.length ≤ after ∧ after ≤ s.length := by
    intro pos after attributes run
    fun_induction Declaration.attributesAt s pos generalizing after attributes with
    | case1 => cases run
    | case2 pos attr form between found =>
      cases run
      have moved := Declaration.pair_ok found
      simp only [List.length_nil]
      omega
    | case3 => cases run
    | case4 pos attr form between found more rest last others ih =>
      cases run
      have moved := Declaration.pair_ok found
      have further := ih others
      simp only [List.length_cons]
      omega
  obtain ⟨_, _, first, read⟩ := bind_eq_ok.1 read
  obtain ⟨_, _, second, read⟩ := bind_eq_ok.1 read
  obtain ⟨_, _, third, read⟩ := bind_eq_ok.1 read
  obtain ⟨attributes, _, last, read⟩ := bind_eq_ok.1 read
  cases read
  have first := Segment.byte_ok (Segment.within_ok first)
  have second := Segment.byte_ok (Segment.within_ok second)
  have third := Segment.byte_ok (Segment.within_ok third)
  have last := counted last
  show (attributes.length : Int) ≤ s.length
  omega

end Reads

end DebugScopes

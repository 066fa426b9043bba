import DebugScopes.Decode.Source
import DebugScopes.Tree.Entry

/-!
# Decoding attributes

The data of an entry's attributes stands in a row behind its code. Two cursors move over it
together: the position among the bytes, and the slot in the symbol table, whose rows say how wide
the items are that nobody reads. `Work` holds both, and what is known of the entry so far.

* `decode` takes one attribute in and moves both cursors behind it;
* `decodeAll` does so for all attributes of a declaration;
* `decodeAll_forward`: the position never moves back.

An attribute that fails leaves what it has done so far: ranges that were read stay.
-/

namespace DebugScopes

/-- The entry that is being decoded: its address, the header of its unit, and the program counter
from which lists of ranges in its unit count. -/
structure Subject where
  addr : Int
  unit : Int
  base : Int
deriving DecidableEq, Repr

/-- The two cursors, and what is known of the entry. -/
structure Work where
  pos : Int
  slot : Int
  about : Description
deriving DecidableEq, Repr

/-- An action that decodes. -/
abbrev Decode (α : Type) := EStateM Failure Work α

namespace Decode

/-- The slot cursor as text, with the base of the ranges. -/
def cursorText (slot base : Int) : String :=
  "AttrCursor(slot=" ++ Numeral.decimal slot ++ ", base=" ++ Numeral.markedHex base ++ ")"

/-! ### Small actions -/

/-- Reads at the position and moves it. -/
def reading {α : Type} (read : Read α) : Decode α := fun w =>
  match read w.pos with
  | .ok a pos => .ok a { w with pos := pos }
  | .error e pos => .error e { w with pos := pos }

/-- Reads at another address. -/
def elsewhere {α : Type} (addr : Int) (read : Read α) : Decode α := fun w =>
  match read addr with
  | .ok a _ => .ok a w
  | .error e _ => .error e w

/-- Changes what is known of the entry. -/
def describing (f : Description → Description) : Decode Unit :=
  modify fun w => { w with about := f w.about }

/-- Moves the slot cursor. -/
def moveSlot (slots : Int) : Decode Unit :=
  modify fun w => { w with slot := w.slot + slots }

/-- The item in the slot of the cursor. -/
def item (src : Source) : Decode Item := do
  checked (src.items.inSlot (← get).slot)

/-! ### Values and ranges -/

/-- The value of an attribute, as wide as its form says. -/
def value (src : Source) (entry attr form : Int) : Decode Nat :=
  match Dwarf.Form.width? form with
  | some width => reading (within .formValue (src.segment.sized width))
  | none => refuse (.valueForm entry form attr)

/-- Adds a range at the end. -/
def addRange (r : CodeRange) : Decode Unit :=
  describing fun d => { d with ranges := d.ranges ++ [r] }

/-- Gives the first open range its high bound. -/
def closeFirst (high : Int) : List CodeRange → List CodeRange
  | [] => []
  | r :: rest =>
    if r.isOpen then { r with high := some high } :: rest else r :: closeFirst high rest

/-- One bound in a list of ranges: an item of its own, with an address and a width of its own. -/
def bound (src : Source) (slot : Nat) : Decode Nat := do
  let item ← checked (src.items.inSlot slot)
  match item.addr.int? with
  | some addr => elsewhere addr (within .listBound (src.segment.sizedBy item.size))
  | none => throw (.ofCause (src.oddAddress item))

/-- Adds the ranges of the list whose next pair starts in a slot. A pair of zeros ends the list, and
every pair counts from the base of the unit. -/
def rangesFrom (src : Source) (entry list base : Int) (slot : Nat) : Decode Unit :=
  if _ended : src.items.count ≤ slot + 1 then refuse (.listUnterminated entry list)
  else do
    let low ← bound src slot
    let high ← bound src (slot + 1)
    if low = 0 ∧ high = 0 then pure ()
    else do
      addRange ⟨low + base, some (high + base)⟩
      rangesFrom src entry list base (slot + 2)
termination_by src.items.count - slot
decreasing_by omega

/-! ### Attributes -/

/-- Takes in what an attribute tells about the entry. -/
def takeIn (src : Source) (subject : Subject) (attr form : Int) : Decode Unit :=
  match Dwarf.Attribute.role attr with
  | .name =>
    if form ≠ Dwarf.Form.textAddress then refuse (.nameForm subject.addr form)
    else do
      let addr ← within .nameAddress (value src subject.addr attr form)
      let name ← within .nameText (MonadExcept.ofExcept (src.textAt addr))
      describing fun d => { d with name := some name }
  | .lowPc => do
    if ((← get).about.pending?).isSome then refuse (.lowWhileOpen subject.addr)
    else do
      let low ← within .lowPc (value src subject.addr attr form)
      addRange ⟨low, none⟩
  | .highPc => do
    match (← get).about.pending? with
    | none => refuse (.highWithoutLow subject.addr)
    | some pending => do
      let n ← within .highPc (value src subject.addr attr form)
      let high := if form = Dwarf.Form.address then (n : Int) else pending.low + n
      describing fun d => { d with ranges := closeFirst high d.ranges }
  | .ranges => do
    let list ← within .listAddress (value src subject.addr attr form)
    let slot ← within .listStart (checked (src.items.slotOf list))
    rangesFrom src subject.addr list subject.base slot
  | .reference =>
    match Dwarf.Form.referenceBase? form with
    | none => refuse (.referenceForm subject.addr form)
    | some origin => do
      let n ← within .referenceAddress (value src subject.addr attr form)
      let start := match origin with
        | .sectionStart => src.infoStart
        | .unitHeader => subject.unit
      describing fun d => { d with target := some (n + start) }
  | .absent | .other => pure ()

/-- Moves over the data that is left of an attribute: a block, or an item that nobody has read. Each
byte of a block has a descriptor of its own. -/
def stepData (src : Source) (attr : Int) : Dwarf.Form.Skipped → Decode Unit
  | .block => do
    let first ← within .blockDescriptor (item src)
    let length ← within .blockLength (reading (src.segment.sizedBy first.size))
    reading (src.segment.skip length)
    moveSlot length
  | .item =>
    if Dwarf.Attribute.role attr = .other then do
      let passed ← within .itemDescriptor (item src)
      reading (src.segment.skipBy passed.size)
    else pure ()
  | .nothing => pure ()

/-- Moves both cursors behind an attribute that has been taken in. -/
def stepOver (src : Source) (attr form : Int) : Decode Unit := do
  stepData src attr (Dwarf.Form.advance form).skipped
  moveSlot (Dwarf.Form.advance form).slots

/-- Decodes one attribute. -/
def decode (src : Source) (subject : Subject) (attr form : Int) : Decode Unit :=
  if Dwarf.Attribute.role attr = .absent then pure ()
  else do
    takeIn src subject attr form
    stepOver src attr form

/-- Decodes the attributes of a declaration, in their order. -/
def decodeAll (src : Source) (subject : Subject) : List (Nat × Nat) → Decode Unit
  | [] => pure ()
  | (attr, form) :: rest => do
    decode src subject attr form
    decodeAll src subject rest

/-! ### The position never moves back -/

/-- An action that does not move the position back. -/
structure Forward {α : Type} (action : Decode α) : Prop where
  le : ∀ {w w' : Work} {a : α}, action w = .ok a w' → w.pos ≤ w'.pos

theorem Forward.pure {α : Type} (a : α) : Forward (Pure.pure a : Decode α) := by
  constructor
  intro w w' b run
  cases run
  exact Int.le_refl _

theorem Forward.bind {α β : Type} {action : Decode α} {next : α → Decode β}
    (first : Forward action) (second : ∀ a, Forward (next a)) : Forward (action >>= next) := by
  constructor
  intro w w' b run
  obtain ⟨a, between, ran, run⟩ := Segment.bind_ok run
  exact Int.le_trans (first.le ran) ((second a).le run)

theorem Forward.get : Forward (MonadState.get : Decode Work) := by
  constructor
  intro w w' b run
  cases run
  exact Int.le_refl _

theorem Forward.within {α : Type} {step : Step} {action : Decode α} (inner : Forward action) :
    Forward (within step action) :=
  ⟨fun run => inner.le (Segment.within_ok run)⟩

theorem Forward.fail {α : Type} (failure : Failure) : Forward (throw failure : Decode α) := by
  constructor
  intro w w' b run
  cases run

theorem Forward.refuse {α : Type} (damage : Damage) : Forward (refuse damage : Decode α) :=
  .fail _

theorem Forward.ofExcept {α : Type} (result : Except Failure α) :
    Forward (MonadExcept.ofExcept result : Decode α) := by
  cases result with
  | ok a => exact .pure a
  | error failure => exact .fail failure

theorem Forward.checked {α : Type} (result : Except Damage α) :
    Forward (checked result : Decode α) := by
  cases result with
  | ok a => exact .pure a
  | error damage => exact .refuse damage

theorem Forward.describing (f : Description → Description) : Forward (describing f) := by
  constructor
  intro w w' b run
  cases run
  exact Int.le_refl _

theorem Forward.moveSlot (slots : Int) : Forward (moveSlot slots) := by
  constructor
  intro w w' b run
  cases run
  exact Int.le_refl _

theorem Forward.reading {α : Type} {read : Read α}
    (inner : ∀ pos after a, read pos = .ok a after → pos ≤ after) : Forward (reading read) := by
  constructor
  intro w w' a run
  simp only [Decode.reading] at run
  split at run
  · next found => cases run; exact inner _ _ _ found
  · cases run

theorem Forward.elsewhere {α : Type} (addr : Int) (read : Read α) :
    Forward (elsewhere addr read) := by
  constructor
  intro w w' a run
  simp only [Decode.elsewhere] at run
  split at run
  · cases run; exact Int.le_refl _
  · cases run

theorem Forward.sizedBy (s : Segment) (size : Value) : Forward (Decode.reading (s.sizedBy size)) :=
  .reading fun _ _ _ read => Segment.sizedBy_ok read

theorem Forward.skip (s : Segment) (count : Int) : Forward (Decode.reading (s.skip count)) :=
  .reading fun _ _ _ read => by have := Segment.skip_ok read; omega

theorem Forward.skipBy (s : Segment) (count : Value) : Forward (Decode.reading (s.skipBy count)) :=
  .reading fun _ _ _ read => Segment.skipBy_ok read

theorem value_forward (src : Source) (entry attr form : Int) :
    Forward (value src entry attr form) := by
  unfold value
  split
  · exact .reading fun _ _ _ read => by
      have := Segment.sized_ok (Segment.within_ok read); omega
  · exact .refuse _

theorem bound_forward (src : Source) (slot : Nat) : Forward (bound src slot) := by
  refine .bind (.checked _) fun item => ?_
  split
  · exact .elsewhere _ _
  · exact .fail _

theorem rangesFrom_forward (src : Source) (entry list base : Int) (slot : Nat) :
    Forward (rangesFrom src entry list base slot) := by
  fun_induction rangesFrom src entry list base slot with
  | case1 => exact .refuse _
  | case2 slot ended ih =>
    refine .bind (bound_forward ..) fun low => .bind (bound_forward ..) fun high => ?_
    split
    · exact .pure _
    · exact .bind (.describing _) fun _ => ih

theorem takeIn_forward (src : Source) (subject : Subject) (attr form : Int) :
    Forward (takeIn src subject attr form) := by
  unfold takeIn
  split
  · split
    · exact .refuse _
    · exact .bind (.within (value_forward ..)) fun _ => .bind (.within (.ofExcept _)) fun _ =>
        .describing _
  · refine .bind .get fun w => ?_
    split
    · exact .refuse _
    · exact .bind (.within (value_forward ..)) fun _ => .describing _
  · refine .bind .get fun w => ?_
    split
    · exact .refuse _
    · exact .bind (.within (value_forward ..)) fun _ => .describing _
  · exact .bind (.within (value_forward ..)) fun _ => .bind (.within (.checked _)) fun _ =>
      rangesFrom_forward ..
  · split
    · exact .refuse _
    · exact .bind (.within (value_forward ..)) fun _ => .describing _
  · exact .pure _
  · exact .pure _

theorem item_forward (src : Source) : Forward (item src) :=
  .bind .get fun _ => .checked _

theorem stepData_forward (src : Source) (attr : Int) (skipped : Dwarf.Form.Skipped) :
    Forward (stepData src attr skipped) := by
  unfold stepData
  split
  · exact .bind (.within (item_forward src)) fun _ =>
      .bind (.within (.sizedBy ..)) fun _ => .bind (.skip ..) fun _ => .moveSlot _
  · split
    · exact .bind (.within (item_forward src)) fun _ => .skipBy ..
    · exact .pure _
  · exact .pure _

theorem stepOver_forward (src : Source) (attr form : Int) :
    Forward (stepOver src attr form) :=
  .bind (stepData_forward ..) fun _ => .moveSlot _

theorem decode_forward (src : Source) (subject : Subject) (attr form : Int) :
    Forward (decode src subject attr form) := by
  unfold decode
  split
  · exact .pure _
  · exact .bind (takeIn_forward ..) fun _ => stepOver_forward ..

/-- Decoding attributes never moves the position back. -/
theorem decodeAll_forward (src : Source) (subject : Subject) (attributes : List (Nat × Nat)) :
    Forward (decodeAll src subject attributes) := by
  induction attributes with
  | nil => exact .pure _
  | cons first rest ih => exact .bind (decode_forward ..) fun _ => ih

end Decode

end DebugScopes

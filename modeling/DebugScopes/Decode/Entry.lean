import DebugScopes.Abbreviation.Index
import DebugScopes.Decode.Attribute
import DebugScopes.Decode.Notice
import DebugScopes.Tree.Basic

/-!
# Decoding entries

The entries of a unit stand in preorder: an entry's children follow it, and a zero in the place of a
code ends them. They are read one after the other, with a stack of the entries whose children have
not ended (`Frame`); every step takes at least one byte of the section, so the reading ends.

* `Building.headBy` reads one entry, without its children, and adds it to the tree;
* `Building.belowBy` reads all children of the entries on a stack;
* `Building.head` and `Building.below` do so with declarations that are kept in the index;
* `headBy_ok`: an entry starts inside the section, and the position moves on;
* `belowBy_forward`: the position does not move back.

How an entry comes to its declaration is a parameter of the readers (`Asking`).

The members of a class carry its name in front of theirs, in the form in which the class itself was
read: the name that the class may get from one around it is not handed on.
-/

namespace DebugScopes

/-- An entry whose children are being read. `base` is what lists of ranges among them count from,
and `className` the name in front of theirs. -/
structure Frame where
  entry : Nat
  base : Int
  className : Option String
deriving DecidableEq, Repr

namespace Frame

/-- The frame of the root. -/
def root : Frame := ⟨0, 0, none⟩

/-- A name as it stands inside the frame. -/
def qualify (frame : Frame) (name : Option String) : Option String :=
  match frame.className, name with
  | some outer, some inner => if inner = "" then some inner else some (outer ++ "::" ++ inner)
  | _, name => name

end Frame

/-- How far the decoding has come: the position, the index with the declarations read so far, the
tree, and the notes. -/
structure Progress where
  pos : Int
  index : Abbreviation.Index
  tree : ScopeTree
  notices : Array Notice

/-- An action that builds a tree. -/
abbrev Building (α : Type) := EStateM Failure Progress α

/-- An entry that has been read, and whether its children follow. -/
structure Opened where
  frame : Frame
  hasChildren : Bool
deriving DecidableEq, Repr

/-- The description of an entry of which only the tag is known. -/
def Description.tagged (tag : Int) : Description := { Description.blank with tag := some tag }

/-- The description without its first open range. -/
def Description.settled (d : Description) : Description :=
  { d with ranges := d.ranges.eraseP (·.isOpen) }

/-- What lists of ranges below the entry count from: for a unit its one range, open or not, and zero
if it has none or several; the entries of a unit count like the unit. -/
def Description.baseBelow (d : Description) (base : Int) : Int :=
  if d.isUnit then
    match d.ranges with
    | [r] => r.low
    | _ => 0
  else base

/-- The name that the entry puts in front of its children's. -/
def Description.className (d : Description) : Option String :=
  match d.tag with
  | some tag => if Dwarf.Tag.isClass tag then d.name? else none
  | none => none

namespace Building

/-- Reads at the position and moves it. -/
def reading {α : Type} (read : Read α) : Building α := fun p =>
  match read p.pos with
  | .ok a pos => .ok a { p with pos := pos }
  | .error e pos => .error e { p with pos := pos }

/-- Takes a note. -/
def note (n : Notice) : Building Unit :=
  modify fun p => { p with notices := p.notices.push n }

/-! ### The parts of an entry -/

/-- The slot of the first item behind the position. -/
def firstSlot (src : Source) (addr : Int) : Building Nat := do
  match src.items.slot? (← get).pos with
  | some slot => pure slot
  | none => refuse (.noEntryDescriptor addr)

/-- The declaration of a code. -/
def layout (src : Source) (code : Nat) : Building Declaration := fun p =>
  match p.index.lookup code with
  | .error damage => .error ((Failure.ofDamage damage).through .entryAbbreviation) p
  | .ok place =>
    match p.index.declare src.segment place with
    | .ok (d, index) => .ok d { p with index := index }
    | .error e => .error (e.through .entryDeclaration) p

/-- What an entry's attributes say of it. -/
def description (src : Source) (subject : Subject) (slot : Nat) (d : Declaration) :
    Building Description := fun p =>
  match Decode.decodeAll src subject d.attributes ⟨p.pos, slot, .tagged d.tag⟩ with
  | .ok _ w => .ok w.about { p with pos := w.pos }
  | .error e w => .error e { p with pos := w.pos }

/-- Notes a range that has never ended. -/
def noteOpenRange (addr : Int) (d : Description) : Building Unit :=
  match d.pending? with
  | some r => note (.openRange addr r.low)
  | none => pure ()

/-- Adds an entry below the frame's; a range that has never ended is left out. -/
def settle (frame : Frame) (place : Place) (d : Description) : Building Nat :=
  modifyGet fun p =>
    let about : Description := { d.settled with name := frame.qualify d.name }
    (p.tree.entries.size, { p with tree := p.tree.add frame.entry place about })

/-! ### The position moves on -/

/-- An action that does not move the position back. -/
structure Forward {α : Type} (action : Building α) : Prop where
  le : ∀ {p p' : Progress} {a : α}, action p = .ok a p' → p.pos ≤ p'.pos

theorem Forward.pure {α : Type} (a : α) : Forward (Pure.pure a : Building α) :=
  ⟨fun run => by cases run; exact Int.le_refl _⟩

theorem Forward.bind {α β : Type} {action : Building α} {next : α → Building β}
    (first : Forward action) (second : ∀ a, Forward (next a)) : Forward (action >>= next) := by
  constructor
  intro p p' b run
  obtain ⟨a, between, ran, run⟩ := Segment.bind_ok run
  exact Int.le_trans (first.le ran) ((second a).le run)

theorem Forward.get : Forward (MonadState.get : Building Progress) :=
  ⟨fun run => by cases run; exact Int.le_refl _⟩

theorem Forward.refuse {α : Type} (damage : Damage) : Forward (refuse damage : Building α) :=
  ⟨fun run => by cases run⟩

theorem Forward.note (n : Notice) : Forward (note n) :=
  ⟨fun run => by cases run; exact Int.le_refl _⟩

theorem firstSlot_forward (src : Source) (addr : Int) : Forward (firstSlot src addr) := by
  refine .bind .get fun p => ?_
  split
  · exact .pure _
  · exact .refuse _

theorem layout_forward (src : Source) (code : Nat) : Forward (layout src code) := by
  constructor
  intro p p' d run
  simp only [layout] at run
  split at run
  · cases run
  · split at run
    · cases run; exact Int.le_refl _
    · cases run

theorem description_forward (src : Source) (subject : Subject) (slot : Nat) (d : Declaration) :
    Forward (description src subject slot d) := by
  constructor
  intro p p' about run
  simp only [description] at run
  split at run
  · next found =>
    cases run
    exact (Decode.decodeAll_forward src subject d.attributes).le found
  · cases run

theorem noteOpenRange_forward (addr : Int) (d : Description) : Forward (noteOpenRange addr d) := by
  unfold noteOpenRange
  split
  · exact .note _
  · exact .pure _

theorem settle_forward (frame : Frame) (place : Place) (d : Description) :
    Forward (settle frame place d) :=
  ⟨fun run => by cases run; exact Int.le_refl _⟩

theorem reading_ok {α : Type} {read : Read α} {p p' : Progress} {a : α}
    (run : reading read p = .ok a p') : read p.pos = .ok a p'.pos := by
  simp only [reading] at run
  split at run
  · next found => cases run; exact found
  · cases run

/-! ### One entry -/

/-- A way to the declaration of a code. It does not move the position back. -/
structure Asking where
  ask : Nat → Building Declaration
  forward : ∀ code, Forward (ask code)

/-- The declarations that have been read are kept in the index. -/
def Asking.keeping (src : Source) : Asking := ⟨layout src, layout_forward src⟩

/-- Reads one entry into the tree. A zero in the place of its code stands for no entry. -/
def headBy (asking : Asking) (src : Source) (unit : Int) (frame : Frame) :
    Building (Option Opened) := do
  let addr := (← get).pos
  if addr < src.infoStart ∨ src.abbrevStart ≤ addr then
    refuse (.entryOutside addr src.infoStart src.abbrevStart)
  else do
    let code ← within .entryCode (reading src.segment.byte)
    if code = 0 then pure none
    else do
      let slot ← firstSlot src addr
      let declaration ← asking.ask code
      let d ← description src ⟨addr, unit, frame.base⟩ slot declaration
      noteOpenRange addr d
      let entry ← settle frame ⟨addr, unit, code⟩ d
      pure (some ⟨⟨entry, d.baseBelow frame.base, d.className⟩, declaration.hasChildren⟩)

/-- Reads one entry into the tree, with a declaration that is kept. -/
def head (src : Source) : Int → Frame → Building (Option Opened) := headBy (.keeping src) src

/-- Reading an entry starts inside the section and moves the position on. -/
theorem headBy_ok {asking : Asking} {src : Source} {unit : Int} {frame : Frame}
    {p p' : Progress} {opened : Option Opened}
    (run : headBy asking src unit frame p = .ok opened p') :
    p.pos < p'.pos ∧ src.infoStart ≤ p.pos ∧ p.pos < src.abbrevStart := by
  obtain ⟨_, _, got, run⟩ := Segment.bind_ok run
  cases got
  by_cases outside : p.pos < src.infoStart ∨ src.abbrevStart ≤ p.pos
  · rw [if_pos outside] at run
    cases run
  · rw [if_neg outside] at run
    obtain ⟨code, between, coded, run⟩ := Segment.bind_ok run
    have moved := Segment.byte_ok (reading_ok (Segment.within_ok coded))
    suffices between.pos ≤ p'.pos by omega
    by_cases ended : code = 0
    · rw [if_pos ended] at run
      cases run; exact Int.le_refl _
    · rw [if_neg ended] at run
      exact (Forward.bind (firstSlot_forward ..) fun _ => .bind (asking.forward _) fun _ =>
        .bind (description_forward ..) fun _ => .bind (noteOpenRange_forward ..) fun _ =>
          .bind (settle_forward ..) fun _ => .pure _).le run

theorem head_ok {src : Source} {unit : Int} {frame : Frame} {p p' : Progress}
    {opened : Option Opened} (run : head src unit frame p = .ok opened p') :
    p.pos < p'.pos ∧ src.infoStart ≤ p.pos ∧ p.pos < src.abbrevStart :=
  headBy_ok run

/-! ### The children of entries -/

/-- Reads the children of the entries on a stack, the innermost on top, until none is left open. -/
def belowBy (asking : Asking) (src : Source) (unit : Int) (stack : List Frame) :
    Building Unit := fun p =>
  match stack with
  | [] => .ok () p
  | frame :: outer =>
    match _read : headBy asking src unit frame p with
    | .error e after => .error (e.throughEntries (outer.length + 1)) after
    | .ok none after => belowBy asking src unit outer after
    | .ok (some opened) after =>
      belowBy asking src unit (if opened.hasChildren then opened.frame :: stack else stack) after
termination_by p => (src.abbrevStart - p.pos).toNat
decreasing_by
  all_goals
    have moved := headBy_ok _read
    omega

/-- Reads the children of the entries on a stack, with declarations that are kept. -/
def below (src : Source) : Int → List Frame → Building Unit := belowBy (.keeping src) src

theorem belowBy_forward (asking : Asking) (src : Source) (unit : Int) (stack : List Frame) :
    Forward (belowBy asking src unit stack) := by
  constructor
  intro p p' a run
  fun_induction belowBy asking src unit stack p with
  | case1 => cases run; exact Int.le_refl _
  | case2 => cases run
  | case3 p frame outer after read ih =>
    have moved := headBy_ok read
    have further := ih run
    omega
  | case4 p frame outer opened after read ih =>
    have moved := headBy_ok read
    have further := ih run
    omega

section Stack

variable {asking : Asking} {src : Source} {unit : Int} {frame : Frame} {outer : List Frame}
  {p : Progress}

theorem belowBy_nil : belowBy asking src unit [] p = .ok () p := by
  rw [belowBy]

theorem belowBy_cons :
    belowBy asking src unit (frame :: outer) p =
      match headBy asking src unit frame p with
      | .error e after => .error (e.throughEntries (outer.length + 1)) after
      | .ok none after => belowBy asking src unit outer after
      | .ok (some opened) after =>
        belowBy asking src unit (if opened.hasChildren then opened.frame :: frame :: outer
          else frame :: outer) after := by
  rw [belowBy]
  split <;> simp_all

theorem below_nil : below src unit [] p = .ok () p := belowBy_nil

theorem below_cons :
    below src unit (frame :: outer) p =
      match head src unit frame p with
      | .error e after => .error (e.throughEntries (outer.length + 1)) after
      | .ok none after => below src unit outer after
      | .ok (some opened) after =>
        below src unit (if opened.hasChildren then opened.frame :: frame :: outer
          else frame :: outer) after :=
  belowBy_cons

end Stack

end Building

end DebugScopes

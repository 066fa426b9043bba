import DebugScopes.Proofs.Decoding.Passing
import DebugScopes.Proofs.Image.SymbolTable

/-!
# Both cursors abreast

The position says where the data of the next attribute starts, the slot which descriptor it has, and
nothing but the attributes decoded so far ties the one to the other: values that are read move the
position by the width of their form, what is passed over moves it by the size that a descriptor
notes, and a block moves both by a length that is read. As long as the descriptors tell the truth
about the data, both stay abreast.

* `SymbolTable.Abreast`: the position is where the item in the slot starts;
* `Decode.passages`: the attributes of an entry, each with the cursors in front and behind;
* `Decode.keeps_of_decode`: one attribute leaves the cursors abreast;
* `Decode.keeps_passages`: all attributes of an entry do.
-/

namespace DebugScopes

open Dwarf

/-! ### Descriptors without a gap -/

namespace SymbolTable

variable {t : SymbolTable} {start slot pos : Int} {d : Descriptor}

/-- From a slot on the items follow each other without a gap, and none is empty. -/
def Tiles (t : SymbolTable) (start : Int) : Prop :=
  ∀ slot d, start ≤ slot → t.inSlot slot = .ok d →
    1 ≤ d.size ∧ ∀ next, t.inSlot (slot + 1) = .ok next → next.addr = d.addr + d.size

/-- The position is where the item in the slot starts, or the end of the last item if there is none
left. -/
inductive Abreast (t : SymbolTable) (pos slot : Int) : Prop
  | item {d : Descriptor} (found : t.inSlot slot = .ok d) (starts : d.addr = pos)
  | finished {last : Descriptor} (none_left : slot = t.size) (found : t.rows.back? = some last)
      (ends : last.addr + last.size = pos)

/-- Behind an item stands the next one, or it was the last. -/
theorem Tiles.behind (tiles : t.Tiles start) (later : start ≤ slot)
    (found : t.inSlot slot = .ok d) : t.Abreast (d.addr + d.size) (slot + 1) := by
  obtain ⟨positive, row⟩ := inSlot_eq_ok.1 found
  obtain ⟨inside, -⟩ := Array.getElem?_eq_some_iff.1 row
  by_cases more : slot.toNat + 1 < t.rows.size
  · have next : t.inSlot (slot + 1) = .ok t.rows[slot.toNat + 1] := by
      rw [inSlot_eq_ok, Int.toNat_add positive (by decide)]
      exact ⟨by omega, Array.getElem?_eq_getElem more⟩
    exact .item next ((tiles slot d later found).2 _ next)
  · have last : slot.toNat = t.rows.size - 1 := by omega
    refine .finished ?_ (Array.back?_eq_getElem?.trans (last ▸ row)) rfl
    show slot + 1 = (t.rows.size : Int)
    omega

/-- What stands in the slot starts at the position. -/
theorem Abreast.addr_eq (abreast : t.Abreast pos slot) (found : t.inSlot slot = .ok d) :
    d.addr = pos := by
  cases abreast with
  | item there starts =>
    cases there.symm.trans found
    exact starts
  | finished none_left =>
    obtain ⟨-, row⟩ := inSlot_eq_ok.1 found
    obtain ⟨inside, -⟩ := Array.getElem?_eq_some_iff.1 row
    exact absurd none_left (by unfold size; omega)

/-- Behind an item and single bytes stands the next item, or the last one has been passed. -/
theorem Tiles.behind_bytes (tiles : t.Tiles start) (later : start ≤ slot)
    (found : t.inSlot slot = .ok d) {length : Nat}
    (bytes : ∀ k < length, ∃ byte, t.inSlot (slot + 1 + k) = .ok byte ∧ byte.size = 1) :
    t.Abreast (d.addr + d.size + length) (slot + length + 1) := by
  induction length with
  | zero => simpa using tiles.behind later found
  | succ length ih =>
    have before := ih fun k below => bytes k (Nat.lt_succ_of_lt below)
    obtain ⟨byte, there, single⟩ := bytes length (Nat.lt_succ_self length)
    have same : slot + 1 + (length : Int) = slot + length + 1 := by omega
    rw [same] at there
    have behind := tiles.behind (by omega) there
    rw [before.addr_eq there, single] at behind
    simpa [Int.add_assoc] using behind

end SymbolTable

/-! ### What the descriptors say of attributes -/

/-- An attribute that has been decoded, with the cursors in front of it and behind. -/
structure Passage where
  attr : Nat
  form : Nat
  start : Work
  stop : Work
deriving DecidableEq

/-- The attributes that are decoded one after the other from where the cursors are. -/
def Decode.passages (src : Source) (subject : Subject) : List (Nat × Nat) → Work → List Passage
  | [], _ => []
  | (attr, form) :: rest, w =>
    match decode src subject attr form w with
    | .ok () w' => ⟨attr, form, w, w'⟩ :: passages src subject rest w'
    | .error _ _ => []

/-- The table of an image describes what an attribute has in its entry: the item of a value that is
read is as wide as the form, and every byte of a block is an item. -/
structure Image.Describes (image : Image) (order : Except OrderFault ByteOrder) (p : Passage) :
    Prop where
  value : Attribute.IsRead p.attr → ∀ width, Form.width? p.form = some width →
    ∃ d, image.symbols.inSlot p.start.slot = .ok d ∧ d.size = width
  block : p.attr ≠ Attribute.optimized → (Form.advance p.form).skipped = .block →
    ∀ d length, image.symbols.inSlot p.start.slot = .ok d →
      ((image.segment order).sized d.size).value? p.start.pos = some length →
        ∀ k < length, ∃ byte, image.symbols.inSlot (p.start.slot + 1 + (k : Int)) = .ok byte ∧
          byte.size = 1

/-- An attribute leaves the cursors abreast. They do not move back, and they stay where they are
exactly if the entry has nothing of it. -/
structure Passage.Keeps (p : Passage) (t : SymbolTable) : Prop where
  before : t.Abreast p.start.pos p.start.slot
  behind : t.Abreast p.stop.pos p.stop.slot
  pos_le : p.start.pos ≤ p.stop.pos
  slot_le : p.start.slot ≤ p.stop.slot
  still : p.stop.pos = p.start.pos ∧ p.stop.slot = p.start.slot ↔ IsEmpty p.attr p.form

namespace Passage

variable {p : Passage} {t : SymbolTable}

/-- An attribute that moves both cursors on. -/
theorem Keeps.of_lt (before : t.Abreast p.start.pos p.start.slot)
    (behind : t.Abreast p.stop.pos p.stop.slot) (full : ¬ IsEmpty p.attr p.form)
    (pos : p.start.pos < p.stop.pos) (slot : p.start.slot < p.stop.slot) : p.Keeps t :=
  ⟨before, behind, Int.le_of_lt pos, Int.le_of_lt slot,
    iff_of_false (fun ⟨_, same⟩ => absurd same (Int.ne_of_gt slot)) full⟩

end Passage

namespace Decode

variable {image : Image} {order : Except OrderFault ByteOrder} {subject : Subject} {start : Int}

theorem inSlot_of_items {slot : Int} {there : Item}
    (found : (Source.of image order).items.inSlot slot = .ok there) :
    ∃ d, image.symbols.inSlot slot = .ok d ∧ there = .ofDescriptor d := by
  rw [Source.inSlot_of] at found
  cases given : image.symbols.inSlot slot with
  | error damage =>
    rw [given] at found
    cases found
  | ok d =>
    rw [given] at found
    cases found
    exact ⟨d, rfl, rfl⟩

/-- One attribute leaves the cursors abreast if the table describes what the entry has of it. -/
theorem keeps_of_decode {p : Passage} (tiles : image.symbols.Tiles start)
    (later : start ≤ p.start.slot) (before : image.symbols.Abreast p.start.pos p.start.slot)
    (described : image.Describes order p)
    (run : decode (.of image order) subject p.attr p.form p.start = .ok () p.stop) :
    p.Keeps image.symbols := by
  cases moves_of_decode run with
  | nothing empty pos slot =>
    refine ⟨before, ?_, Int.le_of_eq pos.symm, Int.le_of_eq slot.symm,
      iff_of_true ⟨pos, slot⟩ empty⟩
    rw [pos, slot]
    exact before
  | value read known pos slot =>
    obtain ⟨d, found, rfl⟩ := described.value read _ known
    obtain ⟨positive, -⟩ := tiles _ d later found
    have full : ¬ IsEmpty p.attr p.form := by
      rintro (optimized | isFlag)
      · exact read.1 (Attribute.role_eq_absent.2 optimized)
      · exact Form.ne_presentFlag_of_width? known isFlag
    refine .of_lt before ?_ full (by omega) (by omega)
    rw [pos, slot, ← before.addr_eq found]
    exact tiles.behind later found
  | item full found wide pos slot =>
    obtain ⟨d, declared, rfl⟩ := inSlot_of_items found
    cases wide
    obtain ⟨positive, -⟩ := tiles _ d later declared
    refine .of_lt before ?_ full (by omega) (by omega)
    rw [pos, slot, ← before.addr_eq declared]
    exact tiles.behind later declared
  | block full isBlock found counted pos slot =>
    obtain ⟨d, declared, rfl⟩ := inSlot_of_items found
    obtain ⟨positive, -⟩ := tiles _ d later declared
    change (image.segment order).sizedBy (.int d.size) p.start.pos = _ at counted
    rw [Segment.sizedBy_int] at counted
    have bytes := described.block (fun optimized => full (.inl optimized)) isBlock d _ declared
      (value?_eq_some.2 ⟨_, counted⟩)
    obtain ⟨rfl, -⟩ := Segment.sized_ok counted
    refine .of_lt before ?_ full (by omega) (by omega)
    rw [pos, slot, ← before.addr_eq declared]
    exact tiles.behind_bytes later declared bytes

/-- Attributes that can be decoded are passed one after the other. -/
theorem map_passages {src : Source} {attributes : List (Nat × Nat)} {w w' : Work}
    (run : decodeAll src subject attributes w = .ok () w') :
    (passages src subject attributes w).map (fun p => (p.attr, p.form)) = attributes := by
  induction attributes generalizing w with
  | nil => rfl
  | cons first rest ih =>
    obtain ⟨attr, form⟩ := first
    obtain ⟨_, between, ran, run⟩ := bind_eq_ok.1 run
    rw [passages, ran]
    exact congrArg ((attr, form) :: ·) (ih run)

/-- From cursors that are abreast every attribute leaves them so. -/
theorem keeps_decodeAll {attributes : List (Nat × Nat)} {w w' : Work}
    (tiles : image.symbols.Tiles start) (later : start ≤ w.slot)
    (before : image.symbols.Abreast w.pos w.slot)
    (described : ∀ p ∈ passages (.of image order) subject attributes w, image.Describes order p)
    (run : decodeAll (.of image order) subject attributes w = .ok () w') :
    (∀ p ∈ passages (.of image order) subject attributes w, p.Keeps image.symbols) ∧
      image.symbols.Abreast w'.pos w'.slot := by
  induction attributes generalizing w with
  | nil =>
    cases run
    exact ⟨fun p mem => absurd mem List.not_mem_nil, before⟩
  | cons first rest ih =>
    obtain ⟨attr, form⟩ := first
    obtain ⟨_, between, ran, run⟩ := bind_eq_ok.1 run
    rw [passages, ran] at described ⊢
    obtain ⟨here, further⟩ := List.forall_mem_cons.1 described
    have kept := keeps_of_decode tiles later before here ran
    obtain ⟨keep, behind⟩ := ih (Int.le_trans later kept.slot_le) kept.behind further run
    exact ⟨List.forall_mem_cons.2 ⟨kept, keep⟩, behind⟩

/-- Where the descriptors lie without a gap and describe what an entry has, every attribute that is
decoded leaves both cursors abreast: they are in front of it and behind, and they stay where they
are exactly if the entry has nothing of the attribute. -/
theorem keeps_passages {attributes : List (Nat × Nat)} {w w' : Work}
    (run : decodeAll (.of image order) subject attributes w = .ok () w')
    (before : ∃ d, image.symbols.inSlot w.slot = .ok d ∧ d.addr = w.pos)
    (tiles : image.symbols.Tiles w.slot)
    (described : ∀ p ∈ passages (.of image order) subject attributes w,
      image.Describes order p) :
    (passages (.of image order) subject attributes w).map (fun p => (p.attr, p.form)) =
        attributes ∧
      (∀ p ∈ passages (.of image order) subject attributes w, p.Keeps image.symbols) ∧
        image.symbols.Abreast w'.pos w'.slot := by
  obtain ⟨d, found, starts⟩ := before
  exact ⟨map_passages run, keeps_decodeAll tiles (Int.le_refl _) (.item found starts) described run⟩

/-- The data of an entry with a name, a block of two bytes and a line, each item with a descriptor
of its own. -/
def blockImage : Image :=
  .ofParts #[9, 0, 0, 0, 2, 0x91, 0x68, 7, 0, 0x6d, 0x61, 0x69, 0x6e, 0]
    (.ofList [⟨0, 4⟩, ⟨4, 1⟩, ⟨5, 1⟩, ⟨6, 1⟩, ⟨7, 2⟩]) 0 0 none

/-- The attributes of that entry. It has nothing of the second, a flag, and of the fourth. -/
def blockAttributes : List (Nat × Nat) :=
  [(0x3, 0xe), (0x3f, 0x19), (0x2, 0x18), (0x3fe1, 0xc), (0x3b, 0x5)]

/-- The attributes of this entry bring the cursors to the end of its data. -/
theorem keeps_passages_block : ∃ w' named passed,
    decodeAll (.of blockImage (.ok .little)) ⟨0, 0, 0⟩ blockAttributes ⟨0, 0, .blank⟩ = .ok () w' ∧
      blockImage.symbols.Tiles 0 ∧ named.name = some "main" ∧
        passed = [⟨0x3, 0xe, ⟨0, 0, .blank⟩, ⟨4, 1, named⟩⟩,
          ⟨0x3f, 0x19, ⟨4, 1, named⟩, ⟨4, 1, named⟩⟩, ⟨0x2, 0x18, ⟨4, 1, named⟩, ⟨7, 4, named⟩⟩,
          ⟨0x3fe1, 0xc, ⟨7, 4, named⟩, ⟨7, 4, named⟩⟩, ⟨0x3b, 0x5, ⟨7, 4, named⟩, ⟨9, 5, named⟩⟩] ∧
          (∀ p ∈ passed, blockImage.Describes (.ok .little) p) ∧
            (∀ p ∈ passed, p.Keeps blockImage.symbols) ∧
              blockImage.symbols.Abreast w'.pos w'.slot := by
  let named : Description := { Description.blank with name := some "main" }
  have run : decodeAll (.of blockImage (.ok .little)) ⟨0, 0, 0⟩ blockAttributes ⟨0, 0, .blank⟩ =
      .ok () ⟨9, 5, named⟩ := by rfl
  have passed : passages (.of blockImage (.ok .little)) ⟨0, 0, 0⟩ blockAttributes
      ⟨0, 0, .blank⟩ =
        [⟨0x3, 0xe, ⟨0, 0, .blank⟩, ⟨4, 1, named⟩⟩,
          ⟨0x3f, 0x19, ⟨4, 1, named⟩, ⟨4, 1, named⟩⟩, ⟨0x2, 0x18, ⟨4, 1, named⟩, ⟨7, 4, named⟩⟩,
          ⟨0x3fe1, 0xc, ⟨7, 4, named⟩, ⟨7, 4, named⟩⟩,
          ⟨0x3b, 0x5, ⟨7, 4, named⟩, ⟨9, 5, named⟩⟩] := by rfl
  have tiles : blockImage.symbols.Tiles 0 := by
    intro slot d positive found
    obtain ⟨inside, -⟩ := Array.getElem?_eq_some_iff.1 (SymbolTable.inSlot_eq_ok.1 found).2
    have short : slot.toNat < 5 := inside
    lift slot to Nat using positive
    rw [Int.toNat_natCast] at short
    interval_cases slot <;> cases found <;>
      exact ⟨by decide, fun next there => by cases there <;> rfl⟩
  have described : ∀ p ∈ passages (.of blockImage (.ok .little)) ⟨0, 0, 0⟩ blockAttributes
      ⟨0, 0, .blank⟩, blockImage.Describes (.ok .little) p := by
    rw [passed]
    simp only [List.forall_mem_cons, List.not_mem_nil, false_implies, implies_true, and_true]
    refine ⟨⟨fun _ width known => ?_, fun _ isBlock => absurd isBlock (by decide)⟩,
      ⟨fun read => absurd rfl read.2, fun _ isBlock => absurd isBlock (by decide)⟩,
      ⟨fun read => absurd rfl read.2, fun _ _ d length found counted => ?_⟩,
      ⟨fun read => absurd rfl read.1, fun present => absurd rfl present⟩,
      ⟨fun read => absurd rfl read.2, fun _ isBlock => absurd isBlock (by decide)⟩⟩
    · cases known
      exact ⟨⟨0, 4⟩, rfl, rfl⟩
    · cases found
      obtain rfl : 2 = length := Option.some.inj counted
      intro k below
      interval_cases k
      · exact ⟨⟨5, 1⟩, rfl, rfl⟩
      · exact ⟨⟨6, 1⟩, rfl, rfl⟩
  obtain ⟨-, keep, behind⟩ := keeps_passages run ⟨⟨0, 4⟩, rfl, rfl⟩ tiles described
  rw [passed] at described keep
  exact ⟨_, named, _, run, tiles, rfl, rfl, described, keep, behind⟩

end Decode

end DebugScopes

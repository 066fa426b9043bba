import DebugScopes.Image.Slots

/-!
# The symbol table

The assembler notes for every item of the data segment where it starts and how wide it is. The table
keeps these descriptors by address; the first descriptor of an address stays. A descriptor is found
by its address (`slotOf`) or by its place in the table, its slot (`inSlot`).

That the addresses increase is part of the type. `toList_add` says what taking a descriptor in does
to the row of descriptors, `insertRow_sorted` that the row stays sorted.
-/

namespace DebugScopes

/-- An item of the data segment: where it starts, and how wide it was declared. -/
structure Descriptor where
  addr : Int
  size : Int
deriving DecidableEq, Repr

/-- A descriptor as text. -/
def Descriptor.text (d : Descriptor) : String :=
  Numeral.paddedHex 4 d.addr ++ " <len=" ++ Numeral.decimal d.size ++ ">"

namespace SymbolTable

/-- Puts a descriptor in its place, unless its address is taken. -/
def insertRow (d : Descriptor) : List Descriptor → List Descriptor
  | [] => [d]
  | row :: rest =>
    if d.addr < row.addr then d :: row :: rest
    else if d.addr = row.addr then row :: rest
    else row :: insertRow d rest

theorem mem_insertRow {d e : Descriptor} {rows : List Descriptor} (mem : e ∈ insertRow d rows) :
    e = d ∨ e ∈ rows := by
  induction rows with
  | nil => simp [insertRow] at mem; exact .inl mem
  | cons row rest ih =>
    simp only [insertRow] at mem
    split at mem
    · simpa using mem
    · split at mem
      · exact .inr mem
      · rcases List.mem_cons.1 mem with rfl | inside
        · simp
        · rcases ih inside with rfl | inside
          · simp
          · simp [inside]

theorem insertRow_sorted {d : Descriptor} {rows : List Descriptor}
    (sorted : rows.Pairwise (·.addr < ·.addr)) :
    (insertRow d rows).Pairwise (·.addr < ·.addr) := by
  induction rows with
  | nil => simp [insertRow]
  | cons row rest ih =>
    obtain ⟨above, rest_sorted⟩ := List.pairwise_cons.1 sorted
    simp only [insertRow]
    split
    · next below =>
      refine List.pairwise_cons.2 ⟨fun e mem => ?_, sorted⟩
      rcases List.mem_cons.1 mem with rfl | inside
      · exact below
      · exact Int.lt_trans below (above e inside)
    · split
      · exact sorted
      · refine List.pairwise_cons.2 ⟨fun e mem => ?_, ih rest_sorted⟩
        rcases mem_insertRow mem with rfl | inside
        · omega
        · exact above e inside

/-- A descriptor above all others goes to the end. -/
theorem insertRow_above {d : Descriptor} {rows : List Descriptor}
    (above : ∀ row ∈ rows, row.addr < d.addr) : insertRow d rows = rows ++ [d] := by
  induction rows with
  | nil => rfl
  | cons row rest ih =>
    have first := above row List.mem_cons_self
    rw [insertRow, if_neg (by omega), if_neg (by omega),
      ih fun e inside => above e (List.mem_cons_of_mem _ inside)]
    rfl

/-- In a sorted row nothing lies above the last descriptor. -/
theorem le_last {rows : List Descriptor} (sorted : rows.Pairwise (·.addr < ·.addr))
    {row last : Descriptor} (found : rows.getLast? = some last) (mem : row ∈ rows) :
    row.addr ≤ last.addr := by
  obtain ⟨before, rfl⟩ := List.getLast?_eq_some_iff.1 found
  rcases List.mem_append.1 mem with inside | same
  · exact Int.le_of_lt ((List.pairwise_append.1 sorted).2.2 row inside last (by simp))
  · simp at same; simp [same]

end SymbolTable

/-- Descriptors by increasing address. -/
structure SymbolTable where
  rows : Array Descriptor
  sorted : rows.toList.Pairwise (·.addr < ·.addr)

namespace SymbolTable

/-- The table without descriptors. -/
def empty : SymbolTable := ⟨#[], .nil⟩

instance : Inhabited SymbolTable := ⟨empty⟩

/-- The number of descriptors. -/
def size (t : SymbolTable) : Nat := t.rows.size

/-- The descriptors by increasing address. -/
def toList (t : SymbolTable) : List Descriptor := t.rows.toList

/-- Whether every descriptor lies below the address. -/
def endsBelow (t : SymbolTable) (addr : Int) : Bool :=
  match t.rows.back? with
  | some last => last.addr < addr
  | none => true

theorem insertRow_of_endsBelow {t : SymbolTable} {d : Descriptor} (below : t.endsBelow d.addr) :
    insertRow d t.rows.toList = (t.rows.push d).toList := by
  rw [Array.toList_push]
  refine insertRow_above fun row mem => ?_
  cases found : t.rows.back? with
  | none => simp_all
  | some last =>
    have last_below : last.addr < d.addr := by simpa [endsBelow, found] using below
    have := le_last t.sorted (by simpa using found) mem
    omega

/-- Takes a descriptor in; the first one of an address stays. Descriptors mostly come in by
increasing address, and then go to the end at once. -/
def add (t : SymbolTable) (d : Descriptor) : SymbolTable :=
  if below : t.endsBelow d.addr then
    ⟨t.rows.push d, insertRow_of_endsBelow below ▸ insertRow_sorted t.sorted⟩
  else ⟨(insertRow d t.rows.toList).toArray, by simpa using insertRow_sorted t.sorted⟩

/-- What taking a descriptor in does to the row of descriptors. -/
theorem toList_add (t : SymbolTable) (d : Descriptor) :
    (t.add d).toList = insertRow d t.toList := by
  unfold add toList
  split
  · next below => exact (insertRow_of_endsBelow below).symm
  · simp

/-- The table of a row of descriptors, taken in from first to last. -/
def ofList (rows : List Descriptor) : SymbolTable := rows.foldl add empty

/-- The slot of an address. -/
def slot? (t : SymbolTable) (addr : Int) : Option Nat := t.rows.findIdx? (·.addr == addr)

/-- The slots of the table. -/
def slots (t : SymbolTable) : Slots Descriptor := ⟨t.size, t.slot?, fun slot => t.rows[slot]?⟩

/-- The slot of an address, which has to have a descriptor. -/
def slotOf (t : SymbolTable) (addr : Int) : Except Damage Nat := t.slots.slotOf addr

/-- The descriptor in a slot, which has to be one of the table's. -/
def inSlot (t : SymbolTable) (slot : Int) : Except Damage Descriptor := t.slots.inSlot slot

/-- A table as text. -/
def text (t : SymbolTable) : String :=
  "SymbolTable(" ++ Numeral.decimal t.size ++ " items)"

end SymbolTable

end DebugScopes

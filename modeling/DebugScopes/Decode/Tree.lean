import DebugScopes.Decode.References
import DebugScopes.Decode.Unit

/-!
# Decoding a tree

The abbreviation table is indexed first, then the units are read, and last the references between
entries are followed. There is a tree only if all of it succeeds; the notes are there in any case,
up to the failure.

* `ScopeTree.decode` is the tree of a source, with the notes;
* a `Decoder` is what is left to do when the byte order and the entry point are known.
-/

namespace DebugScopes

namespace Building

/-- Takes notes, in their order. -/
def noteAll (notices : List Notice) : Building Unit :=
  modify fun p => { p with notices := p.notices.append notices.toArray }

/-- The notes on an abbreviation table, with its start as it is given. -/
def tableNotices (start : Option Int) (index : Abbreviation.Index) : List Notice :=
  .indexed index.size start :: index.duplicates.map fun a => .redeclared a.code a.offset

/-- Indexes the abbreviation table, and notes its start as it is given. -/
def tableNoting (start : Option Int) (src : Source) : Building Unit := do
  let index ← within .abbreviationTable fun p =>
    match Abbreviation.Index.scan src.segment src.abbrevStart with
    | .ok index => .ok index p
    | .error e => .error e p
  modify fun p => { p with index := index }
  noteAll (tableNotices start index)

/-- Indexes the abbreviation table. -/
def table (src : Source) : Building Unit := tableNoting (some src.abbrevStart) src

/-- Finds the start of the program and follows the references. -/
def references (entryPoint : Value) : Building Unit := do
  let t ← MonadExcept.ofExcept ((← get).tree.started entryPoint)
  let (t, notices) := t.complete
  modify fun p => { p with tree := t }
  noteAll notices

/-- What there is to do when all entries have been read. -/
def finish (entryPoint : Value) : Building Unit := do
  let t := (← get).tree
  note (.decoded t.units.length t.size)
  references entryPoint

/-- Decodes everything, with the units read in some way. -/
def programBy (units : Building Unit) (src : Source) (entryPoint : Value) : Building Unit := do
  table src
  units
  finish entryPoint

/-- Decodes everything. -/
def program (src : Source) : Value → Building Unit := programBy (units src) src

/-- The tree that an action builds, and the notes that were taken. -/
def outcome (action : Building Unit) (start : Progress) : Except Failure ScopeTree × List Notice :=
  match action start with
  | .ok () p => (.ok p.tree, p.notices.toList)
  | .error e p => (.error e, p.notices.toList)

end Building

/-- Nothing has been decoded yet. -/
def Progress.start (src : Source) : Progress :=
  ⟨src.infoStart, ⟨#[], src.abbrevStart⟩, .empty, #[]⟩

/-- The tree of a source, and the notes that were taken. `entryPoint` is the name of the entry at
which the program starts. -/
def ScopeTree.decode (src : Source) (entryPoint : Value) :
    Except Failure ScopeTree × List Notice :=
  Building.outcome (Building.program src entryPoint) (.start src)

/-- What a tree is built by: it takes the byte order and the name of the entry point. -/
abbrev Decoder := Except OrderFault ByteOrder → Value → Except Failure ScopeTree × List Notice

/-- Decodes an image. -/
def Image.decoder (image : Image) : Decoder := fun order entryPoint =>
  ScopeTree.decode (.of image order) entryPoint

end DebugScopes

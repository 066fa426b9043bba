import DebugScopes.Value.Basic

/-!
# The names of settings

There are six settings, and their names are the keys of the settings file. The file keeps them in
the order of `Key.all`.
-/

namespace DebugScopes.Settings

/-- A setting. -/
inductive Key
  /-- Whether the console writes in colours. -/
  | colors
  /-- The version of the settings file. -/
  | formatVersion
  /-- Whether the notes are shown. -/
  | verbose
  /-- The file that every new tree is drawn to, if any. -/
  | graphFile
  /-- The order of the bytes in an image. -/
  | byteOrder
  /-- The name of the entry at which the program starts. -/
  | entryPoint
deriving DecidableEq, Repr

namespace Key

/-- All settings, in the order of the settings file. -/
def all : List Key := [colors, formatVersion, verbose, graphFile, byteOrder, entryPoint]

/-- The name of a setting. -/
def name : Key → String
  | colors => "dbg.colors"
  | formatVersion => "dbg.conf.formatversion"
  | verbose => "dbg.verbose"
  | graphFile => "srctree.dot.file"
  | byteOrder => "srctree.endian"
  | entryPoint => "srctree.entry.point"

/-- The setting of a name. -/
def ofName? (name : String) : Option Key := all.find? fun key => key.name == name

theorem ofName?_name (key : Key) : ofName? key.name = some key := by
  cases key <;> decide

theorem name_of_ofName? {name : String} {key : Key} (found : ofName? name = some key) :
    key.name = name := by
  simpa using List.find?_some found

theorem name_inj {key other : Key} : key.name = other.name ↔ key = other := by
  refine ⟨fun same => ?_, congrArg name⟩
  rw [← Option.some.injEq, ← ofName?_name key, same, ofName?_name]

end Key

end DebugScopes.Settings

import DebugScopes.CommandLine.Run

/-!
# The command line

The files that the arguments name are read, the program is run on them, and what it has changed is
written back.
-/

namespace DebugScopes.CommandLine

/-- The paths that a run can come by. -/
def pathsOf (args : List String) : List Path :=
  let named :=
    match Options.parse args with
    | .options o => o.image :: o.graph.toList
    | .leave .. => []
  (Session.settingsFile :: named).map Directory.pathOf

/-- A folder and the folders on the way to it. -/
def around (path : Path) : List Path := (List.range (path.length + 1)).map path.take

/-- What stands at a path. -/
inductive Found
  | nothing
  | folder
  | file (text : String)

/-- Looks what stands at a path. A folder is known by the error that reading it gives. -/
def look (path : Path) : IO Found := do
  try
    let text ← IO.FS.readFile (Directory.pathText path)
    pure (.file text)
  catch
    | .inappropriateType _ 21 _ => pure .folder
    | _ => pure .nothing

/-- The files and folders at some paths and on the way to them. -/
def gather (paths : List Path) : IO Directory :=
  (paths.flatMap around).foldlM
    (fun d path => do
      match ← look path with
      | .nothing => pure d
      | .folder => pure { d with folders := path :: d.folders }
      | .file text => pure { d with files := (path, text) :: d.files })
    .empty

/-- Writes the files that have changed. -/
def writeBack (before after : Directory) : IO Unit :=
  after.files.forM fun (path, text) =>
    if before.find? path = some text then pure ()
    else IO.FS.writeFile (Directory.pathText path) text

/-- What is said of a crash. -/
def Crash.message : Crash → String
  | .session (.setting fault) => fault.message
  | .session (.unwritable refusal) => refusal.message
  | .session .illegible => Numeral.illegible
  | .session (.file path fault) => fault.message path
  | .session (.noName _ fault) => fault.message
  | .session (.decoding failure) => failure.drawing
  | .session (.stopped _) => ""
  | .snapshot fault => fault.message
  | .console => "the console cannot write a message"

end DebugScopes.CommandLine

open DebugScopes.CommandLine in
/-- Runs the program on its arguments. -/
def main (args : List String) : IO UInt32 := do
  let before ← gather (pathsOf args)
  let report := run args before
  IO.print report.written
  writeBack before report.directory
  match report.status with
  | .ok status => pure (UInt32.ofNat status)
  | .error crash =>
    IO.eprintln crash.message
    pure 1

import DebugScopes.Files.Name
import DebugScopes.Value.Reader

/-!
# Directories

The program works on the files below one folder. A `Directory` holds them by their paths from there;
a path that starts with `/` counts from the top instead. Steps up lead to folders outside. Some
folders stand in their places everywhere, and so do a file that is always empty and one that is
always full.

* `Directory.locate` follows a path;
* `Directory.read` and `Directory.write` read a file and replace one, and `Directory.writeNamed`
  replaces one that may be named by its number;
* `Directory.Fault` is what can go wrong, `Fault.message` the wording.

A file is text, and whatever ends its lines is read as a line feed.
-/

namespace DebugScopes

/-- A path, step by step. -/
abbrev Path := List String

/-- The files below a folder, and the folders among them. -/
structure Directory where
  files : List (Path × String)
  folders : List Path
deriving DecidableEq, Repr

namespace Directory

/-- Why a file cannot be read or written. -/
inductive Fault
  /-- There is no such file, or a folder on the way is missing. -/
  | missing
  /-- A folder stands there. -/
  | folder
  /-- A file stands on the way. -/
  | fileOnTheWay
  /-- The path or a step of it is too long. -/
  | longName
  /-- The device that the file stands for has no space. -/
  | noSpace
  /-- No open file has the number by which the file is named. -/
  | notOpen
  /-- The path holds a zero character. -/
  | zeroCharacter
deriving DecidableEq, Repr

/-- The wording of a fault. The path is named as it was given. -/
def Fault.message (path : Value) : Fault → String
  | missing => "[Errno 2] No such file or directory: " ++ path.written
  | folder => "[Errno 21] Is a directory: " ++ path.written
  | fileOnTheWay => "[Errno 20] Not a directory: " ++ path.written
  | longName => "[Errno 36] File name too long: " ++ path.written
  | noSpace => "[Errno 28] No space left on device"
  | notOpen => "[Errno 9] Bad file descriptor"
  | zeroCharacter => "embedded null byte"

/-- A folder without files. -/
def empty : Directory := ⟨[], []⟩

/-- The folder with these files in it. -/
def ofList (files : List (String × String)) : Directory :=
  ⟨files.map fun (name, text) => ([name], text), []⟩

/-! ### Following a path -/

/-- Where a path leads. -/
inductive Target
  /-- To a file, or to where one can be put. -/
  | file (path : Path)
  /-- To a folder. -/
  | folder
  /-- To where no folder is, although the path ends like that of one. -/
  | noFolder (path : Path)
deriving DecidableEq, Repr

/-- The top, above everything. -/
def top : Path := ["/"]

/-- The folders that stand everywhere. -/
def standing : List Path :=
  ["bin", "boot", "dev", "etc", "home", "lib", "media", "mnt", "opt", "proc", "root", "run", "sbin",
    "srv", "sys", "tmp", "usr", "var"].map fun name => top ++ [name]

/-- The file that is always empty. -/
def void : Path := top ++ ["dev", "null"]

/-- The file that is always full. -/
def full : Path := top ++ ["dev", "full"]

/-- The text of a file. -/
def find? (d : Directory) (path : Path) : Option String :=
  (d.files.find? fun file => file.1 == path).map (·.2)

/-- Whether a folder is there. The top is, and so are the folders around this one. -/
def isFolder (d : Directory) (path : Path) : Bool :=
  path == top || path.all (· == "..") || standing.contains path || d.folders.contains path

/-- Whether a file is there. -/
def isFile (d : Directory) (path : Path) : Bool :=
  path == void || path == full || (d.find? path).isSome

/-- The folder around another. -/
def outward (path : Path) : Path :=
  if path = top then top
  else if path.all (· == "..") then path ++ [".."]
  else path.dropLast

/-- The most bytes that a step of a path can have. -/
def longestName : Nat := 255

/-- The most bytes that a path can have. -/
def longestPath : Nat := 4095

/-- Follows steps from a folder. -/
def walk (d : Directory) (here : Path) : List String → Except Fault Target
  | [] => .ok .folder
  | step :: rest =>
    if step = "" ∨ step = "." then d.walk here rest
    else if step = ".." then d.walk (outward here) rest
    else if longestName < step.utf8ByteSize then .error .longName
    else
      let next := here ++ [step]
      if d.isFolder next then d.walk next rest
      else if rest = [] then .ok (.file next)
      else if rest.all (· == "") then .ok (.noFolder next)
      else if d.isFile next then .error .fileOnTheWay
      else .error .missing

/-- The steps of a path: what stands between its slashes. -/
def stepsOf (path : String) : List String := (path.toList.splitOn '/').map String.ofList

/-- Follows a path. -/
def locate (d : Directory) (path : String) : Except Fault Target :=
  if path = "" then .error .missing
  else if path.toList.contains '\x00' then .error .zeroCharacter
  else if longestPath < path.utf8ByteSize then .error .longName
  else
    match stepsOf path with
    | "" :: steps => d.walk top steps
    | steps => d.walk [] steps

/-- The path that a text names, steps up taken back. -/
def pathOf (path : String) : Path :=
  let steps := stepsOf path
  let start := if steps.head? = some "" then top else []
  steps.foldl
    (fun here step =>
      if step = "" ∨ step = "." then here
      else if step = ".." then outward here
      else here ++ [step])
    start

/-- A path as text. -/
def pathText (path : Path) : String :=
  match path with
  | [] => "."
  | first :: rest => if first = "/" then "/" ++ "/".intercalate rest else "/".intercalate path

/-! ### Reading and writing -/

/-- The text of the file at a path. -/
def read (d : Directory) (path : String) : Except Fault String := do
  match ← d.locate path with
  | .file path =>
    match d.find? path with
    | some text => .ok (String.ofList (Reader.unifyLineEnds text.toList))
    | none => if path = void then .ok "" else .error .missing
  | .folder => .error .folder
  | .noFolder path => .error (if d.isFile path then .fileOnTheWay else .missing)

/-- The files with one put in or replaced. -/
def putIn (path : Path) (text : String) : List (Path × String) → List (Path × String)
  | [] => [(path, text)]
  | file :: rest => if file.1 = path then (path, text) :: rest else file :: putIn path text rest

/-- Puts a file at a path, in the place of the one that is there. -/
def write (d : Directory) (path text : String) : Except Fault Directory := do
  match ← d.locate path with
  | .file path =>
    if path = void then .ok d
    else if path = full ∧ text ≠ "" then .error .noSpace
    else .ok { d with files := putIn path text d.files }
  | .folder | .noFolder _ => .error .folder

/-- Puts a file in the place of the one with a name. No file is open that could be named by its
number. -/
def writeNamed (d : Directory) (name : FileName) (text : String) : Except Fault Directory :=
  match name with
  | .path path => d.write path text
  | .number _ => .error .notOpen

/-! ### What was written is read -/

theorem find?_putIn (path : Path) (text : String) (files : List (Path × String)) :
    ((putIn path text files).find? fun file => file.1 == path).map (·.2) = some text := by
  induction files with
  | nil => simp [putIn]
  | cons file rest ih =>
    by_cases here : file.1 = path
    · simp [putIn, here]
    · simp [putIn, here, ih]

theorem find?_putIn_other {path other : Path} (apart : other ≠ path) (text : String)
    (files : List (Path × String)) :
    ((putIn path text files).find? fun file => file.1 == other) =
      files.find? fun file => file.1 == other := by
  induction files with
  | nil => simp [putIn, apart.symm]
  | cons file rest ih =>
    by_cases here : file.1 = path
    · simp [putIn, here, apart.symm]
    · by_cases there : file.1 = other
      · simp [putIn, there, apart]
      · simp [putIn, here, there, ih]

end Directory

end DebugScopes

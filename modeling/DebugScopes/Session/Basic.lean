import DebugScopes.Console.Message
import DebugScopes.Decode.Notice
import DebugScopes.Files.Directory
import DebugScopes.MapFile.Running
import DebugScopes.Settings.Basic
import DebugScopes.Tree.Basic

/-!
# Sessions

A session is everything that lasts from one command to the next: the settings, the state of the
console, the tree that was built last, the files, and the messages posted so far. A session that is
not attached to a console posts nothing.

* `Session.post` posts a message;
* `Session.say` posts a note, which is there only for those who want notes;
* `Session.phrase` puts the parts of a note together, and `Session.note` says them if that can be
  done.
-/

namespace DebugScopes

/-- The state that lasts from one command to the next. The console writes in colours as its `switch`
says, and notes are posted if the session is `voiced`. With `persists`, a setting that is changed is
written to the settings file. -/
structure Session where
  settings : Settings
  switch : Value
  voiced : Bool
  persists : Bool
  attached : Bool
  tree : Option ScopeTree
  directory : Directory
  messages : Array Console.Message

namespace Session

open Console

/-- Why a command fails. -/
inductive Fault
  /-- A setting cannot be read or changed. -/
  | setting (fault : Settings.Fault)
  /-- The settings file cannot hold a value. -/
  | unwritable (refusal : MapFile.Refusal)
  /-- An integer that has to be named has too many digits. -/
  | illegible
  /-- A file cannot be read or written. -/
  | file (path : Value) (fault : Directory.Fault)
  /-- A value names no file. -/
  | noName (value : Value) (fault : FileName.Fault)
  /-- The debug information cannot be decoded. -/
  | decoding (failure : Failure)
  /-- Running the settings file does not come back. -/
  | stopped (stop : MapFile.Stop)
deriving Repr

/-- A command. One that fails leaves what it has done so far. -/
abbrev Action (α : Type) := EStateM Fault Session α

/-! ### Notes in parts -/

/-- How a number in a note is written. -/
inductive NumberStyle
  /-- Like any other value. -/
  | plain
  /-- Base sixteen, in at least that many places. -/
  | hex (places : Nat)
deriving DecidableEq, Repr

/-- The style that a byte string among the parts of a note asks for. -/
def NumberStyle.ofBytes? : List UInt8 → Option NumberStyle
  | [0x00, 0xff, 0x0a] => some .plain
  | [0x00, 0xff, 0x10] => some (.hex 0)
  | [0x00, 0xff, 0x10, 0x04] => some (.hex 4)
  | [0x00, 0xff, 0x10, 0x08] => some (.hex 8)
  | _ => none

/-- A part of a note in a style. Base sixteen counts for numbers only; truth values are numbers. -/
def part (style : NumberStyle) (v : Value) : Words :=
  match style, v.int? with
  | .hex places, some n => Numeral.paddedHex places n
  | _, _ => v.shown

/-- The words of a note in parts. A style among them counts for the part behind it. -/
def phraseFrom (style : NumberStyle) : List Value → Words
  | [] => ""
  | .bytes b :: rest =>
    match NumberStyle.ofBytes? b with
    | some style => phraseFrom style rest
    | none => (Value.bytes b).shown ++ phraseFrom .plain rest
  | v :: rest => part style v ++ phraseFrom .plain rest

/-- The words of a note in parts. -/
def phrase (parts : List Value) : Words := phraseFrom .plain parts

/-- Whether the parts of a note can be put into words. In base sixteen every number can. -/
def phrasableFrom (style : NumberStyle) : List Value → Bool
  | [] => true
  | .bytes b :: rest =>
    match NumberStyle.ofBytes? b with
    | some style => phrasableFrom style rest
    | none => phrasableFrom .plain rest
  | v :: rest =>
    (match style, v.int? with
      | .hex _, some _ => true
      | _, _ => v.legible) && phrasableFrom .plain rest

/-- Whether the parts of a note can be put into words. -/
def phrasable (parts : List Value) : Bool := phrasableFrom .plain parts

/-! ### Posting -/

/-- Posts a message. -/
def post (s : Session) (m : Message) : Session :=
  if s.attached then { s with messages := s.messages.push m } else s

/-- Posts messages in their order. -/
def postAll (s : Session) (messages : List Message) : Session := messages.foldl post s

/-- Posts parts as one message. -/
def tell (s : Session) (level : Value) (parts : List Value) : Session :=
  s.post ⟨Words.join (parts.map (·.shown)), level⟩

/-- Posts a note if notes are shown. -/
def say (s : Session) (parts : List Value) : Session :=
  if s.voiced then s.post (.ofWords .debug (phrase parts)) else s

/-- Posts a note if notes are shown, unless it cannot be put into words. -/
def note (parts : List Value) : Action Unit := fun s =>
  if s.voiced && !phrasable parts then .error .illegible s else .ok () (s.say parts)

/-- Posts what the decoder has noted: warnings always, the rest if notes are shown. -/
def report (s : Session) (n : Notice) : Session :=
  if n.level = .debug && !s.voiced then s else s.post n.message

/-- Posts all that the decoder has noted. -/
def reportAll (s : Session) (notices : List Notice) : Session := notices.foldl report s

/-- The console's colour switch. -/
def colors (s : Session) : Value := s.switch

/-- All that the console has written. -/
def transcript (s : Session) : String := Console.transcript s.colors s.messages.toList

end Session

end DebugScopes

import DebugScopes.CommandLine.Run
import DebugScopes.Proofs.Console.Writing
import DebugScopes.Proofs.Image.Unloaded
import DebugScopes.Proofs.Session.Changes
import DebugScopes.Proofs.Session.Starting

/-!
# When the image cannot be loaded

Without a settings file nothing can stop the program before it has come to the image. If that cannot
be loaded, the program says so in one line and ends with status `1`, whatever else was asked for: a
file that cannot be read or fails, a map of another kind, a newer schema, a number that is no byte
and an item that is no pair are all reported. But a key that is missing from the map, and a value of
a kind that has no place there, stop it short; so do data that do not fit, and a file that leaves
the program. And a version that no console can write keeps it waiting.

* `Program.command_eq`: a command of the session, as a part of the program;
* `Program.exists_overrides`: what the options change before the image is loaded;
* `run_of_unloaded`: how the program ends.
-/

namespace DebugScopes.CommandLine

open Console Session

variable {α β : Type} {machine : MapFile.Machine} {o : Options} {d : Directory} {s s' : Session}
  {args : List String} {fault : Snapshot.Fault} {text : String} {messages : List Message}

namespace Program

/-! ### Parts of the program -/

theorem command_eq (action : Session.Action α) (s : Session) :
    command action s =
      match action s with
      | .ok a s' => .ok a s'
      | .error fault s' => .error (.session fault) s' := by
  rw [command, EStateM.adaptExcept]
  cases action s <;> rfl

theorem command_of_ok {action : Session.Action α} {a : α} (ran : action s = .ok a s') :
    command action s = .ok a s' := by
  rw [command_eq, ran]

/-- Before anything is posted: the session has the files, and the console its colours. -/
structure IsQuiet (d : Directory) (s : Session) : Prop where
  directory : s.directory = d
  attached : s.attached = true
  messages : s.messages = #[]
  switch : s.switch = .bool true
  colors : s.settings.colors = .bool true

theorem transcript_adding (s : Session) (messages : List Message) :
    (s.adding messages).transcript =
      Console.transcript s.switch (s.messages.toList ++ messages) := by
  show Console.transcript s.switch (s.messages ++ messages.toArray).toList = _
  simp

theorem messages_adding (s : Session) (messages : List Message) :
    (s.adding messages).messages.toList = s.messages.toList ++ messages := by
  show (s.messages ++ messages.toArray).toList = _
  simp

/-- What there is to see of a session that has posted nothing but these messages. -/
theorem IsQuiet.report (quiet : IsQuiet d s) (status : Except Crash Nat) (messages : List Message) :
    Report.ofSession status (s.adding messages) =
      ⟨if Console.isWritable messages then status else .error .console,
        Console.transcript (.bool true) messages, d⟩ := by
  have only : (s.adding messages).messages.toList = messages := by
    rw [messages_adding, quiet.messages]
    rfl
  have written : (s.adding messages).transcript = Console.transcript (.bool true) messages := by
    rw [transcript_adding, quiet.switch, quiet.messages]
    rfl
  have directory : (s.adding messages).directory = d := quiet.directory
  rw [Report.ofSession, only, written, directory]

/-- What is posted to a quiet session is all that it posts. -/
theorem IsQuiet.postAll (quiet : IsQuiet d s) (messages : List Message) :
    s.postAll messages = s.adding messages := by
  rw [postAll_eq_adding, quiet.attached]
  rfl

theorem IsQuiet.post (quiet : IsQuiet d s) (messages : List Message) (m : Message) :
    (s.adding messages).post m = s.adding (messages ++ [m]) := by
  have attached : (s.adding messages).attached = true := quiet.attached
  rw [post_eq_adding, attached, if_pos rfl, adding_adding]

/-- What runs a settings file does not matter if there is none. -/
theorem startOn_of_missing (machine : MapFile.Machine)
    (unset : d.read settingsFile = .error .missing) :
    Session.startOn machine .file (blank true d) = Session.start .file (blank true d) := by
  have adopted (machine : MapFile.Machine) :
      adoptSaved machine (blank true d) = adopt .defaults true (blank true d) := by
    have got : (get : Action Session) (blank true d) = .ok (blank true d) (blank true d) := rfl
    have unread : (blank true d).directory.read settingsFile = .error .missing := unset
    rw [adoptSaved, bind_of_ok got, unread]
  have started (machine : MapFile.Machine) : Session.startOn machine .file (blank true d) =
      (adopt .defaults true >>= fun _ => modify tuned >>= fun _ =>
        announce ("Loaded config from file: " ++ settingsFile)) (blank true d) := by
    have ran : adopt .defaults true (blank true d) =
        .ok () { blank true d with settings := .defaults, persists := true } := rfl
    rw [bind_of_ok ran]
    exact bind_of_ok ((adopted machine).trans ran)
  rw [Session.start, started, started]

/-- Without a settings file the program starts with the defaults, and says nothing. -/
theorem start_of_missing (unset : d.read settingsFile = .error .missing) :
    Session.start .file (blank true d) = .ok () (fresh .defaults true true d) := by
  have saved : d.saves = .ok (.defaults, []) := by
    rw [Directory.saves, unset]
  have silent : (fresh .defaults true true d).voiced = false := rfl
  rw [start_file, saved]
  dsimp only
  rw [if_pos rfl, adding_nil, announce_eq, silent, Bool.false_and, if_neg Bool.false_ne_true,
    announced, said, said, silent, Bool.and_false]
  rfl

/-- An override of a setting other than the colours. -/
theorem override_quiet {key : Settings.Key} (quiet : IsQuiet d s) (v : Value)
    (takes : Settings.takes key v) (other : key ≠ .colors) :
    ∃ s', Session.override key.name v s = .ok () s' ∧ IsQuiet d s' := by
  have accepted : (Change.override key.name v).target = .ok key := by
    have named : Settings.Key.ofName? (Change.override key.name v).name = some key :=
      Settings.Key.ofName?_name key
    rw [Change.target, named]
    exact if_pos takes
  have colors : (s.settings.set key v).colors = .bool true :=
    (Settings.get_set_other s.settings other.symm v).trans quiet.colors
  have ran := Change.override_eq (.override key.name v) s
  rw [accepted] at ran
  refine ⟨_, ran, quiet.directory, quiet.attached, quiet.messages, ?_, colors⟩
  rw [giving]
  dsimp only
  split_ifs
  · exact colors
  · exact quiet.switch

/-- The override of the file for the graph, if one is asked for. -/
def graphOverride (o : Options) : Program Unit :=
  match o.graph with
  | some path =>
    if path = "" then pure ()
    else command (Session.override Settings.Key.graphFile.name (.text path))
  | none => pure ()

theorem exists_graphOverride (quiet : IsQuiet d s) (o : Options) :
    ∃ s', graphOverride o s = .ok () s' ∧ IsQuiet d s' := by
  rw [graphOverride]
  cases o.graph with
  | none => exact ⟨s, rfl, quiet⟩
  | some path =>
    dsimp only
    split_ifs
    · exact ⟨s, rfl, quiet⟩
    · obtain ⟨s', ran, quiet'⟩ := @override_quiet d s .graphFile quiet (.text path) rfl (by decide)
      exact ⟨s', command_of_ok ran, quiet'⟩

/-- What the options ask for does not post anything. -/
theorem exists_overrides (quiet : IsQuiet d s) (o : Options) :
    ∃ s', overrides o s = .ok () s' ∧ IsQuiet d s' := by
  have steps : overrides o =
      (if o.verbose then command (Session.override Settings.Key.verbose.name (.bool true))
        else pure ()) >>= fun _ => graphOverride o := by
    rw [overrides]
    cases o.verbose <;> rfl
  rw [steps]
  cases o.verbose with
  | false =>
    obtain ⟨s', ran, quiet'⟩ := exists_graphOverride quiet o
    exact ⟨s', ran, quiet'⟩
  | true =>
    obtain ⟨s₁, first, quiet₁⟩ := @override_quiet d s .verbose quiet (.bool true) rfl (by decide)
    obtain ⟨s₂, second, quiet₂⟩ := exists_graphOverride quiet₁ o
    refine ⟨s₂, ?_, quiet₂⟩
    rw [if_pos rfl, bind_of_ok (command_of_ok first)]
    exact second

/-! ### The image -/

/-- The line about an image that cannot be loaded. -/
def unloaded (reason : String) : Message :=
  .ofLevel .err ("Could not load program image: " ++ reason)

theorem noImage_eq (reason : String) (s : Session) :
    noImage reason s = .ok none (s.post (unloaded reason)) := by
  have told : s.tell Level.err.value [.text ("Could not load program image: " ++ reason)] =
      s.post (unloaded reason) := by
    rw [Session.tell, unloaded, Message.ofLevel, List.map_singleton, Words.join_singleton]
    rfl
  rw [← told]
  rfl

/-- A file that cannot be read. -/
theorem image_of_unreadable {path : String} {fault : Directory.Fault}
    (failed : s.directory.read path = .error fault) :
    image machine path s = .ok none (s.post (unloaded (fault.message (.text path)))) := by
  have got : (get : Program Session) s = .ok s s := rfl
  rw [← noImage_eq, image, bind_of_ok got, failed]

/-- A file that can be read, and holds no image. -/
theorem image_of_faulty {path : String} (read : s.directory.read path = .ok text)
    (failed : Snapshot.loadOn machine path text = (.error fault, messages)) :
    image machine path s =
      if isReported fault then .ok none ((s.postAll messages).post (unloaded fault.message))
      else .error (.snapshot fault) (s.postAll messages) := by
  have got : (get : Program Session) s = .ok s s := rfl
  rw [← noImage_eq, image, bind_of_ok got, read]
  dsimp only
  rw [failed]
  show (if isReported fault then noImage fault.message else throw (.snapshot fault) :
    Program (Option Snapshot)) (s.postAll messages) = _
  cases isReported fault <;> rfl

end Program

/-! ### The end of the program -/

open Program

/-- What there is to see if the program has reported that there is no image. -/
def refusal (d : Directory) (messages : List Message) (reason : String) : Report :=
  ⟨.ok 1, Console.transcript (.bool true) (messages ++ [unloaded reason]), d⟩

/-- What there is to see if the program has been stopped short by an image. -/
def stopped (d : Directory) (messages : List Message) (fault : Snapshot.Fault) : Report :=
  ⟨.error (.snapshot fault), Console.transcript (.bool true) messages, d⟩

/-- What there is to see of a program whose console is stuck at its first message. -/
def waiting (d : Directory) : Report := ⟨.error .console, "", d⟩

theorem isWritable_unloaded (reason : String) : (unloaded reason).isWritable = true :=
  isWritable_ofLevel _ _

theorem isWritable_unknownVersion (file : String) (shown : Words) :
    (MapFile.unknownVersion file shown).isWritable = shown.isWritable := by
  simp [MapFile.unknownVersion, Message.ofWords, Message.isWritable]

/-- Only a version can be such that the message about a file cannot be written. -/
theorem unknownVersion_of_rejected {file map : String} {message : Message}
    (rejected : MapFile.Rejected machine file map text message)
    (stuck : message.isWritable = false) :
    ∃ shown, message = MapFile.unknownVersion file shown ∧ shown.isWritable = false := by
  cases rejected with
  | unread breaks => exact absurd (isWritable_ofLevel _ _) (Bool.eq_false_iff.1 stuck)
  | @version names shown ends unknown named =>
    exact ⟨shown, rfl, (isWritable_unknownVersion file shown).symm.trans stuck⟩
  | format ends known other => exact absurd (isWritable_ofLevel _ _) (Bool.eq_false_iff.1 stuck)

/-- Without a settings file the program comes to the image, and ends there if there is none. -/
theorem exists_quiet (machine : MapFile.Machine) (unset : d.read settingsFile = .error .missing)
    (o : Options) :
    ∃ s, IsQuiet d s ∧ ∀ s',
      (image machine o.image s = .ok none s' → body machine o (blank true d) = .ok 1 s') ∧
      ∀ crash, image machine o.image s = .error crash s' →
        body machine o (blank true d) = .error crash s' := by
  have started := (startOn_of_missing machine unset).trans (start_of_missing unset)
  have quiet : IsQuiet d (fresh .defaults true true d) := ⟨rfl, rfl, rfl, rfl, rfl⟩
  obtain ⟨s, overridden, quiet'⟩ := exists_overrides quiet o
  refine ⟨s, quiet', fun s' => ⟨fun ran => ?_, fun crash ran => ?_⟩⟩
  · rw [body, bind_of_ok (command_of_ok started)]
    exact (bind_of_ok overridden).trans (bind_of_ok ran)
  · rw [body, bind_of_ok (command_of_ok started)]
    exact (bind_of_ok overridden).trans (bind_of_error ran)

theorem run_of_unreadable {fault : Directory.Fault} (parsed : Options.parse args = .options o)
    (unset : d.read settingsFile = .error .missing) (failed : d.read o.image = .error fault) :
    runOn machine args d = refusal d [] (fault.message (.text o.image)) := by
  obtain ⟨s, quiet, ends⟩ := exists_quiet machine unset o
  have ran : image machine o.image s =
      .ok none (s.adding [unloaded (fault.message (.text o.image))]) := by
    rw [image_of_unreadable (quiet.directory.symm ▸ failed), ← adding_nil s, quiet.post [],
      adding_nil]
    rfl
  rw [runOn, parsed]
  dsimp only
  rw [(ends _).1 ran]
  dsimp only
  rw [quiet.report, isWritable_cons, isWritable_unloaded]
  rfl

/-- How the program ends if a file has been read that holds no image. -/
theorem run_of_faulty (parsed : Options.parse args = .options o)
    (unset : d.read settingsFile = .error .missing) (read : d.read o.image = .ok text)
    (failed : Snapshot.loadOn machine o.image text = (.error fault, messages)) :
    runOn machine args d =
      if Console.isWritable messages then
        if isReported fault then refusal d messages fault.message else stopped d messages fault
      else ⟨.error .console, Console.transcript (.bool true) messages, d⟩ := by
  obtain ⟨s, quiet, ends⟩ := exists_quiet machine unset o
  have ran := image_of_faulty (quiet.directory.symm ▸ read) failed
  rw [quiet.postAll, quiet.post] at ran
  rw [runOn, parsed]
  dsimp only
  cases reported : isReported fault with
  | true =>
    rw [reported, if_pos rfl] at ran
    rw [(ends _).1 ran]
    dsimp only
    rw [quiet.report, isWritable_append, isWritable_cons, isWritable_unloaded]
    cases writable : Console.isWritable messages with
    | true => rfl
    | false =>
      rw [transcript_append_of_stuck writable]
      rfl
  | false =>
    rw [reported, if_neg Bool.false_ne_true] at ran
    rw [(ends _).2 _ ran]
    dsimp only
    rw [quiet.report]
    cases Console.isWritable messages <;> rfl

/-- A version that no console can write: half of a surrogate pair. -/
example : Console.isWritable (Snapshot.load "img" "formatversion = '\\ud800'\n").2 = false := by
  decide +kernel

/-- A file that cannot be parsed. -/
def junk : String := "not ( python"

/-- An image without data. -/
def bareImage : String := "formatversion = 1\nimage = \x7b'image_schema': 1\x7d\n"

/-- Whether the program has ended with a status. -/
def Report.isEnded (r : Report) : Bool :=
  match r.status with
  | .ok _ => true
  | .error _ => false

end DebugScopes.CommandLine

import DebugScopes.Proofs.CommandLine.Unloaded
import DebugScopes.Proofs.Image.Foreseen.Building
import DebugScopes.Proofs.Image.Saving
import DebugScopes.Proofs.MapFile.Rows
import DebugScopes.Proofs.Session.Warnings
import DebugScopes.Proofs.Tree.Making

/-!
# What the program reports

Without a settings file the program builds the tree of an image as every session does that has just
started. If that succeeds, the messages of the build are followed by a line about the tree, by a
line for every entry if they are asked for, and by a line for every program counter. If the image is
damaged, they are followed by that, and nothing of the tree is told.

* `Program.Posts`: a part of the program that only posts messages;
* `Program.posts_answers`: the answers, line by line;
* `run_of_saved_image`: the end of the program, if an image has been loaded that was saved.
-/

namespace DebugScopes

open Console Session

namespace CommandLine

/-! ### The lines of a report -/

/-- The line about a tree as a whole. -/
def treeLine (t : ScopeTree) : Message :=
  .ofLevel .success ("Decoded " ++ Numeral.decimal t.size ++ " entries in " ++
    Numeral.decimal t.units.length ++ " units; entry point " ++ Program.startText t)

/-- The line for an entry, indented by two blanks for every entry around it but the root. -/
def entryLine (t : ScopeTree) (i : Nat) : Message :=
  let depth := ((t.ancestors i).filter (· ≠ 0)).length
  .ofLevel .info (String.join (List.replicate depth "  ") ++ Program.entryText t i)

/-- What an entry is called: its name, or its tag if it has none or an empty one. -/
def calledAs (e : Entry) : String :=
  let name := e.name.getD ""
  if name = "" then "<" ++ e.tagName ++ ">" else name

/-- The line for a program counter: what its scopes are called, from the outside in. -/
def counterLine (t : ScopeTree) (pc : Int) : Message :=
  if t.scopes pc = [] then
    .ofLevel .warn (Numeral.paddedHex 8 pc ++ ": no source construct")
  else
    .ofLevel .info (Numeral.paddedHex 8 pc ++ ": " ++
      " > ".intercalate ((t.scopes pc).map fun i => (t.get? i).elim "" calledAs))

/-- All lines about a tree. -/
def answerLines (o : Options) (t : ScopeTree) : List Message :=
  treeLine t :: (if o.list then t.listing.map (entryLine t) else []) ++
    o.counters.map (counterLine t)

/-- The lines about a damage. -/
def damageLines (damage : Damage) : List Message :=
  [.ofWords .err ("Error while reading debug info: " ++ damage.message),
    .ofLevel .err "Could not build source tree. Was the program compiled with -g?"]

namespace Program

variable {o : Options} {d : Directory} {s s' : Session} {t : ScopeTree}
  {messages more : List Message}

/-! ### Posting -/

/-- A part of the program posts messages, and does nothing else. -/
def Posts (p : Program Unit) (messages : List Message) : Prop :=
  ∀ s : Session, s.attached = true → p s = .ok () (s.adding messages)

theorem posts_pure : Posts (pure ()) [] := fun s _ => by
  rw [adding_nil]
  rfl

theorem Posts.bind {p q : Program Unit} (first : Posts p messages) (second : Posts q more) :
    Posts (p >>= fun _ => q) (messages ++ more) := by
  intro s attached
  have ran := second (s.adding messages) attached
  rw [adding_adding] at ran
  exact (bind_of_ok (first s attached)).trans ran

theorem posts_tell (level : Level) (parts : List Value) :
    Posts (tell level parts) [.ofWords level (Words.join (parts.map (·.shown)))] := by
  intro s attached
  show EStateM.Result.ok () (s.tell level.value parts) = _
  rw [Session.tell, post_eq_adding, attached]
  rfl

theorem posts_text (level : Level) (text : String) :
    Posts (tell level [.text text]) [.ofLevel level text] := by
  have told := posts_tell level [.text text]
  rwa [List.map_singleton, Words.join_singleton] at told

theorem posts_forM {α : Type} {f : α → Program Unit} {line : α → Message}
    (each : ∀ a, Posts (f a) [line a]) (row : List α) : Posts (row.forM f) (row.map line) := by
  induction row with
  | nil => exact posts_pure
  | cons a rest ih => exact (each a).bind ih

/-! ### The answers -/

theorem posts_summary (t : ScopeTree) : Posts (summary t) [treeLine t] := posts_text _ _

theorem posts_listed (linked : t.Linked) (i : Nat) : Posts (listed t i) [entryLine t i] := by
  have joined (a b : String) :
      Words.join ([.text a, .text b].map Value.shown) = (a ++ b : String) :=
    (Words.join_map_ofString [a, b]).trans (by simp)
  have told := posts_tell .info [.text (String.join (List.replicate (t.depth i) "  ")),
    .text (entryText t i)]
  rw [joined, ScopeTree.depth_eq linked] at told
  rw [listed, ScopeTree.depth_eq linked]
  exact told

theorem scopeText_eq (t : ScopeTree) (i : Nat) :
    scopeText t i = (t.get? i).elim "" calledAs := by
  unfold scopeText
  cases t.get? i with
  | none => rfl
  | some e =>
    show e.name?.getD _ = calledAs e
    unfold calledAs Description.name?
    cases named : e.name with
    | none => rfl
    | some name =>
      by_cases empty : name = ""
      · subst empty
        rfl
      · simp [empty]

theorem posts_located (t : ScopeTree) (pc : Int) : Posts (located t pc) [counterLine t pc] := by
  unfold located counterLine
  cases t.scopes pc with
  | nil => exact posts_text _ _
  | cons i rest =>
    rw [if_neg (List.cons_ne_nil i rest), ← funext (scopeText_eq t)]
    exact posts_text _ _

theorem posts_answers (linked : t.Linked) (o : Options) :
    Posts (answers o t) (answerLines o t) := by
  have entries : Posts (if o.list then t.listing.forM (listed t) else pure ())
      (if o.list then t.listing.map (entryLine t) else []) := by
    split
    · exact posts_forM (posts_listed linked) t.listing
    · exact posts_pure
  have steps : answers o t = summary t >>= fun _ =>
      (if o.list then t.listing.forM (listed t) else pure ()) >>= fun _ =>
        o.counters.forM (located t) := by
    rw [answers]
    cases o.list <;> rfl
  rw [steps, answerLines, List.cons_append]
  exact (posts_summary t).bind (entries.bind (posts_forM (posts_located t) o.counters))

/-! ### A damage -/

/-- A damage is reported in two lines, if no notes are wanted. -/
theorem reportDamage_eq (attached : s.attached = true) (silent : s.voiced = false)
    (damage : Damage) (failure : Failure) :
    s.reportDamage damage failure = s.adding (damageLines damage) := by
  have told (s : Session) (attached : s.attached = true) (parts : List Value) :
      s.tell Level.err.value parts =
        s.adding [.ofWords .err (Words.join (parts.map (·.shown)))] := by
    rw [Session.tell, post_eq_adding, attached]
    rfl
  have unsaid (s : Session) (silent : s.voiced = false) (parts : List Value) : s.say parts = s :=
    if_neg (by simp [silent])
  have first (text : String) (words : Words) :
      Words.join ([.text text, .ofWords words].map Value.shown) = text ++ words := by
    rw [List.map_cons, Words.join_cons, List.map_singleton, Words.join_singleton,
      Value.shown_ofWords]
    rfl
  have second (text : String) : Words.join ([.text text].map Value.shown) = text := by
    rw [List.map_singleton, Words.join_singleton]
    rfl
  rw [reportDamage, told s attached, told (s.adding _) attached, adding_adding, unsaid, first,
    second]
  · rfl
  · exact silent

/-! ### The image -/

/-- A file that holds an image is read as it was written: no character of it ends a line but the
line feed. -/
theorem read_of_found {image : Image} {path : String} {file : Path}
    (located : d.locate path = .ok (.file file))
    (found : d.find? file = some (Snapshot.draft image).text) :
    d.read path = .ok (Snapshot.draft image).text := by
  have clean : Reader.Clean (Snapshot.draft image).text.toList := by
    refine MapFile.clean_draft (by decide) (MapFile.clean_draftRows ?_)
    rw [Snapshot.entries_ofImage]
    simp [Value.isStorable, Value.hashable]
  rw [Directory.read, located]
  dsimp only [bind, Except.bind]
  rw [found]
  dsimp only
  rw [Reader.unifyLineEnds_of_clean clean, String.ofList_toList]

/-- An image that was saved is loaded without a message. -/
theorem image_of_saved {image : Image} {path : String}
    (whole : (Snapshot.draft image).refused = none)
    (saved : s.directory.read path = .ok (Snapshot.draft image).text) :
    Program.image .plain path s = .ok (some (Snapshot.ofImage image)) s := by
  have legible : image.integers.all Numeral.isLegible := by
    cases short : image.integers.all Numeral.isLegible with
    | true => rfl
    | false =>
      rw [(Snapshot.load_draft_illegible path short).1] at whole
      cases whole
  have loaded : Snapshot.loadOn .plain path (Snapshot.draft image).text =
      (.ok (Snapshot.ofImage image), []) :=
    Snapshot.load_draft_legible path legible
  have got : (get : Program Session) s = .ok s s := rfl
  rw [Program.image, bind_of_ok got, saved]
  dsimp only
  rw [loaded]
  rfl

end Program

/-! ### The end of the program -/

open Program

variable {o : Options} {d : Directory} {args : List String}

/-- What there is to see if building the tree of an image has ended so. -/
def buildReport (o : Options) (d : Directory) :
    EStateM.Result Session.Fault Session ScopeTree → Report
  | .ok t s => ⟨.ok 0, Console.transcript (.bool true) (s.messages.toList ++ answerLines o t), d⟩
  | .error (.decoding failure) s =>
    match failure.damage? with
    | some damage =>
      ⟨.ok 1, Console.transcript (.bool true) (s.messages.toList ++ damageLines damage), d⟩
    | none =>
      ⟨.error (.session (.decoding failure)), Console.transcript (.bool true) s.messages.toList, d⟩
  | .error fault s =>
    ⟨.error (.session fault), Console.transcript (.bool true) s.messages.toList, d⟩

/-- How the program goes on with an image, if it draws no graph and shows no notes. -/
theorem body_of_saved {image : Image} (silent : o.verbose = false) (undrawn : o.graph = none)
    (unset : d.read settingsFile = .error .missing)
    (whole : (Snapshot.draft image).refused = none)
    (saved : d.read o.image = .ok (Snapshot.draft image).text) :
    body .plain o (blank true d) =
      match Session.attempt image.decoder (fresh .defaults true true d) with
      | .ok none s => .ok 1 s
      | .ok (some t) s => (answers o t >>= fun _ => pure 0) s
      | .error fault s => .error (.session fault) s := by
  have started : Session.startOn .plain .file (blank true d) =
      .ok () (fresh .defaults true true d) :=
    start_of_missing unset
  have overridden : overrides o (fresh .defaults true true d) =
      .ok () (fresh .defaults true true d) := by
    rw [overrides, silent, undrawn]
    rfl
  have loaded := @image_of_saved (fresh .defaults true true d) image o.image whole saved
  rw [body, bind_of_ok (command_of_ok started)]
  refine (bind_of_ok overridden).trans ((bind_of_ok loaded).trans ?_)
  dsimp only
  rw [Snapshot.decoder_ofImage]
  have attempted := command_eq (Session.attempt image.decoder) (fresh .defaults true true d)
  cases ran : Session.attempt image.decoder (fresh .defaults true true d) with
  | ok found s' =>
    rw [ran] at attempted
    rw [bind_of_ok attempted]
    cases found <;> rfl
  | error fault s' =>
    rw [ran] at attempted
    rw [bind_of_error attempted]

/-- A session that has just started posts the warnings of a build, and no notes. -/
theorem exists_built (decoder : Decoder) (d : Directory) : ∃ result notices,
    (decoder Settings.defaults.order Settings.defaults.entryPoint).1 = result ∧
    Session.build decoder (fresh .defaults true true d) =
      (fresh .defaults true true d).built result (warnings notices) := by
  cases decoded : decoder Settings.defaults.order Settings.defaults.entryPoint with
  | mk result notices =>
    have silent : (fresh .defaults true true d).postedBy result notices = warnings notices := by
      have heard : (fresh .defaults true true d).heard notices = warnings notices := by
        show List.map _ (List.filter (fun n => n.level != .debug || false) notices) = _
        simp only [Bool.or_false]
        rfl
      cases result with
      | ok t => exact (congrArg (· ++ []) heard).trans (List.append_nil _)
      | error failure => exact heard
    refine ⟨result, notices, rfl, ?_⟩
    rw [build_eq_built decoded rfl, silent]

theorem isWarning_of_mem_warnings {notices : List Notice} {m : Message}
    (mem : m ∈ warnings notices) : m.isWarning := by
  obtain ⟨n, among, rfl⟩ := List.mem_map.1 mem
  have level := (List.mem_filter.1 among).2
  cases n <;> first | rfl | cases level

/-! ### All of it can be written -/

/-- The program does not wait for a console that can write everything. -/
theorem ofSession_of_writable {s : Session} (writable : Console.isWritable s.messages.toList)
    (status : Except Crash Nat) :
    Report.ofSession status s = ⟨status, s.transcript, s.directory⟩ := by
  rw [Report.ofSession, if_pos writable]

theorem isWritable_warnings (notices : List Notice) : Console.isWritable (warnings notices) := by
  rw [Console.isWritable, warnings, List.all_map, List.all_eq_true]
  exact fun n _ => isWritable_ofLevel n.level n.text

theorem isWritable_answerLines (o : Options) (t : ScopeTree) :
    Console.isWritable (answerLines o t) := by
  have counters (pc : Int) : (counterLine t pc).isWritable := by
    rw [counterLine]
    split <;> exact isWritable_ofLevel _ _
  rw [Console.isWritable, List.all_eq_true]
  intro m among
  rcases List.mem_append.1 among with above | located
  · rcases List.mem_cons.1 above with rfl | listed
    · exact isWritable_ofLevel _ _
    · split at listed
      · obtain ⟨i, -, rfl⟩ := List.mem_map.1 listed
        exact isWritable_ofLevel _ _
      · cases listed
  · obtain ⟨pc, -, rfl⟩ := List.mem_map.1 located
    exact counters pc

/-- With the name of the entry point that there is without a settings file, the damage of an image
can be written. -/
theorem isWritable_damageLines {image : Image} {failure : Failure} {damage : Damage}
    (failed : (image.decoder Settings.defaults.order Settings.defaults.entryPoint).1 =
      .error failure)
    (damaged : failure.damage? = some damage) : Console.isWritable (damageLines damage) := by
  have caused : failure.cause = .damage damage := by
    rw [Failure.damage?] at damaged
    split at damaged <;> cases damaged
    assumption
  have words : damage.message.isWritable := by
    have undecoded : (ScopeTree.decode (.of image (.ok .little)) (.text "main")).1 =
        .error failure := failed
    rcases foreseen_decode undecoded with foreseen | ⟨name, shown, missing⟩ | ⟨illegible, -⟩
    · rw [caused] at foreseen
      cases foreseen with
      | damage plain => exact Damage.isWritable_message plain
    · rw [caused] at missing
      cases missing
      cases shown
      simp [Damage.message, Value.shown]
    · rw [caused] at illegible
      cases illegible
  have first :
      (Message.ofWords .err ("Error while reading debug info: " ++ damage.message)).isWritable := by
    simp [Message.isWritable, Message.ofWords, words]
  rw [damageLines, isWritable_cons, first, isWritable_cons, isWritable_ofLevel]
  rfl

/-- The program ends as building the tree of the image does in a session that has just started. -/
theorem run_eq_buildReport {image : Image} (parsed : Options.parse args = .options o)
    (silent : o.verbose = false) (undrawn : o.graph = none)
    (unset : d.read settingsFile = .error .missing)
    (whole : (Snapshot.draft image).refused = none)
    (saved : d.read o.image = .ok (Snapshot.draft image).text) :
    run args d = buildReport o d (Session.build image.decoder (fresh .defaults true true d)) := by
  obtain ⟨result, notices, decoded, built⟩ := exists_built image.decoder d
  have warned : Console.isWritable
      ((fresh .defaults true true d).adding (warnings notices)).messages.toList := by
    rw [messages_adding]
    exact isWritable_warnings notices
  rw [run, runOn, parsed]
  dsimp only
  rw [body_of_saved silent undrawn unset whole saved, Session.attempt, built]
  cases result with
  | ok t =>
    obtain ⟨_, -, formed⟩ := wellFormed_of_decode (decode_of_build built).1
    have answered := posts_answers formed.linked o
      { (fresh .defaults true true d).adding (warnings notices) with tree := some t } rfl
    dsimp only [Session.built]
    rw [bind_of_ok answered]
    show Report.ofSession (.ok 0) ((({ (fresh .defaults true true d).adding (warnings notices) with
      tree := some t } : Session)).adding (answerLines o t)) = (⟨.ok 0, _, d⟩ : Report)
    rw [ofSession_of_writable, transcript_adding]
    · rfl
    · rw [messages_adding, isWritable_append, isWritable_answerLines, Bool.and_true]
      exact warned
  | error failure =>
    dsimp only [Session.built, buildReport]
    cases damaged : failure.damage? with
    | none => exact ofSession_of_writable warned _
    | some damage =>
      dsimp only
      rw [reportDamage_eq rfl rfl, ofSession_of_writable, transcript_adding]
      · rfl
      · rw [messages_adding, isWritable_append, isWritable_damageLines decoded damaged,
          Bool.and_true]
        exact warned

/-- What the program says of an image that is odd in two ways, of its entries and of two program
counters. -/
def strayTexts : List Words := [
  "Warning: abbreviation code 1 redeclared at 0x33; ignored",
  "Warning: unit at 0x17 declares length 0xff but its entries end at 0x23",
  "Decoded 2 entries in 1 units; entry point <DW_TAG_subprogram main @c [10..18)>",
  "<DW_TAG_compile_unit @b>", "  <DW_TAG_subprogram main @c [10..18)>",
  "00000010: main", "-0000001: no source construct"]

end CommandLine

end DebugScopes

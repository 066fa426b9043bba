import DebugScopes.Failure.Damage

/-!
# Failures and their trails

Decoding fails because the debug information is damaged, because the byte order that was asked for
is none, or because the data ends before its usable length does. It also fails where a message would
have to name what cannot be named, and where a snapshot that was written by hand holds something
else than a number. A `Failure` keeps the cause and its trail: the reads that were under way,
outermost first.

A trail can be drawn. Each step is drawn as a stretch of carets; `Step.mark` says how far in it
starts and how wide it is. The text that belongs above the carets is not kept: `hiddenText` stands
for it. Of more than three entries inside each other only three are drawn, and the others counted.

* `within` marks the failures of an action with a step, `refuse` and `checked` fail with a damage;
* `Failure.drawing` draws a trail.
-/

namespace DebugScopes

/-- Why a byte order cannot be used. -/
inductive OrderFault
  /-- It is text, and names no byte order. -/
  | unknownName
  /-- It is not even text. -/
  | notText
deriving DecidableEq, Repr

/-- Why decoding fails. -/
inductive Cause
  | damage (damage : Damage)
  | byteOrder (fault : OrderFault)
  /-- The usable length goes on where the data has ended. -/
  | missingByte
  /-- An integer that a message has to name has too many digits. -/
  | illegible
  /-- What a message has to name in base sixteen is of a kind that has no digits. -/
  | digitless (kind : String)
  /-- A value is of a kind that has no place there. -/
  | wrongKind
deriving DecidableEq, Repr

/-- The reads that a failure can pass on its way out. -/
inductive Step
  | abbreviationTable
  | unitHeader
  | unitEntry
  | childEntry
  | tableCode
  | tableBody
  | headerLength
  | headerVersion
  | headerOffset
  | headerWidth
  | entryCode
  | entryAbbreviation
  | entryDeclaration
  | declaredCode
  | declaredTag
  | declaredChildren
  | declaredAttribute
  | declaredForm
  | septet
  | taken
  | sizedItem
  | formValue
  | nameAddress
  | nameText
  | lowPc
  | highPc
  | listAddress
  | referenceAddress
  | listStart
  | listBound
  | blockDescriptor
  | blockLength
  | itemDescriptor
deriving DecidableEq, Repr

/-- Where the carets of a step start, and how many there are. -/
def Step.mark : Step → Nat × Nat
  | abbreviationTable => (16, 62)
  | unitHeader => (14, 25)
  | unitEntry => (7, 51)
  | childEntry => (8, 58)
  | tableCode => (7, 13)
  | tableBody => (3, 13)
  | headerLength => (14, 13)
  | headerVersion => (10, 13)
  | headerOffset => (0, 13)
  | headerWidth => (12, 13)
  | entryCode => (14, 13)
  | entryAbbreviation => (9, 33)
  | entryDeclaration => (34, 21)
  | declaredCode => (0, 13)
  | declaredTag => (6, 13)
  | declaredChildren => (15, 13)
  | declaredAttribute => (12, 16)
  | declaredForm => (7, 16)
  | septet => (4, 16)
  | taken => (8, 13)
  | sizedItem => (7, 16)
  | formValue => (7, 24)
  | nameAddress => (13, 48)
  | nameText => (13, 41)
  | lowPc => (28, 48)
  | highPc => (8, 48)
  | listAddress => (12, 48)
  | referenceAddress => (8, 48)
  | listStart => (7, 33)
  | listBound => (8, 55)
  | blockDescriptor => (27, 29)
  | blockLength => (9, 53)
  | itemDescriptor => (12, 29)

/-- A cause with the reads that were under way, outermost first. -/
structure Failure where
  cause : Cause
  trail : List Step
deriving DecidableEq, Repr

namespace Failure

/-- A failure that has not passed any step yet. -/
def ofCause (cause : Cause) : Failure := ⟨cause, []⟩

/-- A damage that has not passed any step yet. One that cannot be worded is not told as such. -/
def ofDamage (damage : Damage) : Failure :=
  ofCause (if damage.isLegible then .damage damage else .illegible)

/-- The failure as seen from outside a step. -/
def through (step : Step) (failure : Failure) : Failure :=
  ⟨failure.cause, step :: failure.trail⟩

/-- The failure as seen from outside that many entries, one inside the other. -/
def throughEntries (entries : Nat) (failure : Failure) : Failure :=
  ⟨failure.cause, List.replicate entries .childEntry ++ failure.trail⟩

/-- The damage behind a failure, if it is one. -/
def damage? (failure : Failure) : Option Damage :=
  match failure.cause with
  | .damage damage => some damage
  | _ => none

end Failure

/-- Runs an action as part of a step: a failure of the action has passed the step. -/
def within {σ α : Type} (step : Step) (action : EStateM Failure σ α) : EStateM Failure σ α :=
  fun s =>
    match action s with
    | .ok a s => .ok a s
    | .error e s => .error (e.through step) s

/-- Fails because the debug information is damaged. -/
def refuse {σ α : Type} (damage : Damage) : EStateM Failure σ α := throw (.ofDamage damage)

/-- Takes the result of a check, or fails with what it found damaged. -/
def checked {σ α : Type} : Except Damage α → EStateM Failure σ α
  | .ok a => pure a
  | .error damage => refuse damage

/-! ### Drawing a trail -/

namespace Failure

/-- What stands for text that is not kept. -/
def hiddenText : String := "<traceback>"

/-- The step that builds the tree, which every failure passes last. -/
def outermost : Nat × Nat := (7, 29)

/-- A step: the text that is not kept, and the carets in the next line's place. -/
def drawMark (mark : Nat × Nat) : String :=
  hiddenText ++ String.ofList (List.replicate (4 + mark.1) ' ') ++
    String.ofList (List.replicate mark.2 '^') ++ "\n"

/-- The line that counts the entries that are not drawn. -/
def drawRepeats (entries : Nat) : String :=
  if entries ≤ 3 then ""
  else
    "  [Previous line repeated " ++ Numeral.decimal (entries - 3 : Nat) ++ " more time" ++
      (if entries = 4 then "" else "s") ++ "]\n"

/-- Draws steps, `entries` entries inside each other having come before them. -/
def drawSteps (entries : Nat) : List Step → String
  | [] => drawRepeats entries
  | .childEntry :: rest =>
    (if entries < 3 then drawMark Step.childEntry.mark else "") ++ drawSteps (entries + 1) rest
  | step :: rest => drawRepeats entries ++ drawMark step.mark ++ drawSteps 0 rest

/-- The trail of a failure, from the building of the tree to the read that failed. -/
def drawing (failure : Failure) : String :=
  drawMark outermost ++ drawSteps 0 failure.trail ++ hiddenText

end Failure

end DebugScopes

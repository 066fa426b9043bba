import DebugScopes.Value.Printer

/-!
# Messages and their colours

What the program has to say goes to the console as messages: words and a level. A level is a value,
since a caller may post one of its own; the five known levels count from zero. The console writes a
line per message, in the colour of its level, as long as the colour switch holds a true value. At
the first message that cannot be written it gets stuck, and whoever waits for it waits forever.

* `paint` wraps a text into a colour, or leaves it as it is;
* `colorOf` is the colour of a level;
* `transcript` is what the console writes for a row of messages, and `isWritable` says whether it
  comes to their end.
-/

namespace DebugScopes.Console

/-- The known levels. -/
inductive Level
  | info
  | warn
  | err
  | debug
  | success
deriving DecidableEq, Repr

/-- The number of a level. -/
def Level.code : Level → Int
  | info => 0
  | warn => 1
  | err => 2
  | debug => 3
  | success => 4

/-- A level as the value that messages carry. -/
def Level.value (level : Level) : Value := .int level.code

/-- The known level that a value stands for. -/
def Level.ofValue? (v : Value) : Option Level :=
  [info, warn, err, debug, success].find? fun level => v.same level.value

/-- Words on their way to the console. -/
structure Message where
  words : Words
  level : Value
deriving Repr

/-- Words at a known level. -/
def Message.ofWords (level : Level) (words : Words) : Message := ⟨words, level.value⟩

/-- A text at a known level. -/
def Message.ofLevel (level : Level) (text : String) : Message := .ofWords level text

/-- Whether the words of a message can be written. -/
def Message.isWritable (m : Message) : Bool := m.words.isWritable

/-! ### Colours -/

/-- The terminal's code for white on black, which also ends a colour. -/
def white : String := "\x1b[0m"

/-- The colour of a known level. -/
def Level.color : Level → String
  | info => white
  | warn => "\x1b[93m"
  | err => "\x1b[91m"
  | debug => "\x1b[90m"
  | success => "\x1b[92m"

/-- The colour of a level. An unknown level is written like `info`. -/
def colorOf (level : Value) : String :=
  ((Level.ofValue? level).getD .info).color

/-- A text in a colour. Without a colour, or with the switch off, the text stays what it is. -/
def paint (switch : Value) (text color : Value) : Value :=
  match color with
  | .null => text
  | color => if switch.isTrue then .ofWords (color.shown ++ text.shown ++ white) else text

/-! ### The console -/

/-- The line that the console writes for a message. -/
def line (switch : Value) (message : Message) : Words :=
  (paint switch (.ofWords message.words) (.text (colorOf message.level))).shown ++ "\n"

/-- Whether the console comes to the end of a row of messages. -/
def isWritable (messages : List Message) : Bool := messages.all (·.isWritable)

/-- All that the console writes for a row of messages. -/
def transcript (switch : Value) : List Message → String
  | [] => ""
  | message :: rest =>
    match (line switch message).string? with
    | some text => text ++ transcript switch rest
    | none => ""

/-- The words of the messages at a level; null asks for all of them. -/
def wordsAt (level : Value) (messages : List Message) : List Words :=
  match level with
  | .null => messages.map (·.words)
  | level => (messages.filter fun message => message.level.same level).map (·.words)

end DebugScopes.Console

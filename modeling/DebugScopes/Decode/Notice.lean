import DebugScopes.Console.Message

/-!
# Notices

While it works, the decoder takes notes: of what it has found, and of what is odd and can be lived
with. The notes do not depend on who reads them. Two kinds are warnings and shown to everybody; the
others are shown on request only.
-/

namespace DebugScopes

/-- A note of the decoder. -/
inductive Notice
  /-- The abbreviation table has been scanned; its start may be left open. -/
  | indexed (codes : Nat) (start : Option Int)
  /-- A code is declared a second time, and this declaration does not count. -/
  | redeclared (code : Nat) (offset : Int)
  /-- A range was started and never ended; it only says where the entry's code starts. -/
  | openRange (entry low : Int)
  /-- A unit has no entry. -/
  | emptyUnit (start : Int)
  /-- The entries of a unit end elsewhere than its header says. -/
  | unitLength (start length stop : Int)
  /-- All units have been read. -/
  | decoded (units entries : Nat)
  /-- An entry completes one that there is not. -/
  | unknownTarget (entry target : Int)
deriving DecidableEq, Repr

namespace Notice

/-- The level of a notice. -/
def level : Notice → Console.Level
  | redeclared .. | unitLength .. => .warn
  | _ => .debug

/-- The wording of a notice. -/
def text : Notice → String
  | indexed codes start =>
    "Indexed " ++ Numeral.decimal codes ++ " abbreviation codes at " ++
      start.elim Value.null.written (Numeral.paddedHex 8)
  | redeclared code offset =>
    "Warning: abbreviation code " ++ Numeral.decimal code ++ " redeclared at " ++
      Numeral.markedHex offset ++ "; ignored"
  | openRange entry low =>
    "Entry at " ++ Numeral.paddedHex 8 entry ++ " has low_pc " ++ Numeral.paddedHex 8 low ++
      " without high_pc"
  | emptyUnit start => "Empty unit at " ++ Numeral.paddedHex 8 start
  | unitLength start length stop =>
    "Warning: unit at " ++ Numeral.markedHex start ++ " declares length " ++
      Numeral.markedHex length ++ " but its entries end at " ++ Numeral.markedHex stop
  | decoded units entries =>
    "Read " ++ Numeral.decimal units ++ " units holding " ++ Numeral.decimal entries ++
      " debug entries"
  | unknownTarget entry target =>
    "Entry at " ++ Numeral.paddedHex 8 entry ++ " refers to " ++ Numeral.paddedHex 8 target ++
      " which is not a known entry"

/-- A notice as a message. -/
def message (n : Notice) : Console.Message := .ofLevel n.level n.text

end Notice

end DebugScopes

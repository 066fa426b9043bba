import DebugScopes.Console.Message

/-!
# What the console writes

A colour takes nothing from the words of a message, so a line can be written if the message can. As
long as all messages can, the console writes them line by line; it stops for good in front of the
first one that cannot.

* `Console.isWritable_line`: a line and its message;
* `Console.transcript_of_writable`: everything is written, in order;
* `Console.transcript_append_of_stuck`: nothing is written behind a message that cannot be.
-/

namespace DebugScopes

/-! ### Words as values -/

/-- Words that can be written are the string that they make. -/
theorem Words.ofString_of_isWritable {w : Words} (writable : w.isWritable) :
    ofString (String.ofList (w.codes.map Char.ofNat)) = w := by
  have back : ∀ code ∈ w.codes, (Char.toNat ∘ Char.ofNat) code = code := by
    intro code among
    have valid : code.isValidChar := of_decide_eq_true (List.all_eq_true.1 writable code among)
    rw [Function.comp, Char.ofNat, dif_pos valid]
    rfl
  show (⟨((String.ofList (w.codes.map Char.ofNat)).toList.map Char.toNat)⟩ : Words) = w
  rw [String.toList_ofList, List.map_map, List.map_congr_left back, List.map_id']

/-- Words stay what they are when they are made a value. -/
theorem Value.shown_ofWords (w : Words) : (ofWords w).shown = w := by
  rw [ofWords, ofCodes]
  split
  · next writable => exact Words.ofString_of_isWritable writable
  · rfl

namespace Console

variable {switch : Value} {m : Message} {messages : List Message}

/-! ### Lines -/

/-- A line holds the words of its message, in a colour or without one. -/
theorem line_eq (switch : Value) (m : Message) :
    line switch m =
      if switch.isTrue then
        Words.ofString (colorOf m.level) ++ m.words ++ Words.ofString white ++ Words.ofString "\n"
      else m.words ++ Words.ofString "\n" := by
  rw [line, paint]
  · split
    · rw [Value.shown_ofWords, Value.shown_ofWords]
      rfl
    · rw [Value.shown_ofWords]
  · exact nofun

theorem isWritable_line (switch : Value) (m : Message) :
    (line switch m).isWritable = m.isWritable := by
  rw [line_eq]
  split <;> simp [Message.isWritable]

@[simp] theorem isWritable_ofLevel (level : Level) (text : String) :
    (Message.ofLevel level text).isWritable = true :=
  Words.isWritable_ofString text

/-! ### Rows of messages -/

theorem isWritable_cons : isWritable (m :: messages) = (m.isWritable && isWritable messages) :=
  List.all_cons

theorem isWritable_append (first more : List Message) :
    isWritable (first ++ more) = (isWritable first && isWritable more) :=
  List.all_append

/-- In front of a message that cannot be written the console stops. -/
theorem transcript_cons_of_stuck (stuck : m.isWritable = false) (rest : List Message) :
    transcript switch (m :: rest) = "" := by
  rw [transcript, Words.string?, isWritable_line, stuck]
  rfl

theorem transcript_cons_of_writable (writable : m.isWritable) (rest : List Message) :
    transcript switch (m :: rest) =
      String.ofList ((line switch m).codes.map Char.ofNat) ++ transcript switch rest := by
  rw [transcript, Words.string?, isWritable_line, writable]
  rfl

/-- If all messages can be written, they are, line by line. -/
theorem transcript_of_writable (writable : isWritable messages) :
    Words.ofString (transcript switch messages) = Words.join (messages.map (line switch)) := by
  induction messages with
  | nil => rfl
  | cons m rest ih =>
    rw [isWritable_cons, Bool.and_eq_true] at writable
    have whole : (line switch m).isWritable := by
      rw [isWritable_line]
      exact writable.1
    rw [transcript_cons_of_writable writable.1, Words.ofString_append,
      Words.ofString_of_isWritable whole, ih writable.2, List.map_cons, Words.join_cons]

/-- Nothing is written behind messages of which one cannot be. -/
theorem transcript_append_of_stuck (stuck : isWritable messages = false) (behind : List Message) :
    transcript switch (messages ++ behind) = transcript switch messages := by
  induction messages with
  | nil => cases stuck
  | cons m rest ih =>
    rw [List.cons_append]
    cases writable : m.isWritable with
    | false => rw [transcript_cons_of_stuck writable, transcript_cons_of_stuck writable]
    | true =>
      rw [isWritable_cons, writable, Bool.true_and] at stuck
      rw [transcript_cons_of_writable writable, transcript_cons_of_writable writable, ih stuck]

end Console

end DebugScopes

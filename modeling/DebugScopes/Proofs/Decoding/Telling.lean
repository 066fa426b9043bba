import DebugScopes.Decode.Entry
import Mathlib

/-!
# What attributes tell

Attributes tell one thing of their entry after the other: its name, what it completes, that a range
starts, that the range which has started ends, that there is one more range. `Told` is one such
thing. Whatever attributes are decoded, and whether that succeeds or breaks off, what is known of
the entry changes in such steps alone, so that each of these keeps is kept by all of it.

* `Decode.decodeAll_told`: what is known behind attributes is what was known with things told;
* `Decode.decodeAll_tag`: the tag is not told again;
* `Decode.decodeAll_openCount`: of the ranges, no more than one is ever open.
-/

namespace DebugScopes

open Relation (ReflTransGen)

/-- How many ranges are open. -/
def Description.openCount (d : Description) : Nat := d.ranges.countP (·.isOpen)

/-- One thing that is told of an entry. A range starts while none is open, and the first one that
is open ends if there is one. -/
inductive Told (d : Description) : Description → Prop
  | name (name : Option String) : Told d { d with name := name }
  | target (target : Option Int) : Told d { d with target := target }
  | started (low : Int) (closed : d.pending? = none) :
      Told d { d with ranges := d.ranges ++ [⟨low, none⟩] }
  | ended {r : CodeRange} (high : Int) (pending : d.pending? = some r) :
      Told d { d with ranges := Decode.closeFirst high d.ranges }
  | listed (low high : Int) : Told d { d with ranges := d.ranges ++ [⟨low, some high⟩] }

/-! ### What is kept when something is told -/

theorem pending?_eq_none {d : Description} : d.pending? = none ↔ d.openCount = 0 := by
  rw [Description.pending?, Description.openCount, List.find?_eq_none, List.countP_eq_zero]

/-- Ending the first open range opens none. -/
theorem Decode.countP_closeFirst_le (high : Int) (ranges : List CodeRange) :
    (closeFirst high ranges).countP (·.isOpen) ≤ ranges.countP (·.isOpen) := by
  induction ranges with
  | nil => exact Nat.le_refl _
  | cons r rest ih =>
    by_cases isOpen : r.isOpen
    · rw [closeFirst, if_pos isOpen, List.countP_cons_of_pos isOpen,
        List.countP_cons_of_neg (by exact Bool.false_ne_true)]
      exact Nat.le_succ _
    · rw [closeFirst, if_neg isOpen, List.countP_cons_of_neg isOpen,
        List.countP_cons_of_neg isOpen]
      exact ih

namespace Told

variable {d d' : Description}

theorem tag (told : Told d d') : d'.tag = d.tag := by
  cases told <;> rfl

theorem openCount (told : Told d d') (one : d.openCount ≤ 1) : d'.openCount ≤ 1 := by
  cases told with
  | name => exact one
  | target => exact one
  | started low closed =>
    rw [Description.openCount, List.countP_append]
    have none := pending?_eq_none.1 closed
    rw [Description.openCount] at none
    rw [none]
    exact Nat.le_refl _
  | ended high pending => exact (Decode.countP_closeFirst_le high d.ranges).trans one
  | listed low high =>
    rw [Description.openCount, List.countP_append]
    exact one

theorem tag_eq (told : ReflTransGen Told d d') : d'.tag = d.tag := by
  induction told with
  | refl => rfl
  | tail _ last ih => exact last.tag.trans ih

theorem openCount_le (told : ReflTransGen Told d d') (one : d.openCount ≤ 1) :
    d'.openCount ≤ 1 := by
  induction told with
  | refl => exact one
  | tail _ last ih => exact last.openCount ih

end Told

namespace Decode

variable {α β : Type} {w : Work}

/-- The work that an action leaves behind, whether it succeeds or fails. -/
def left : EStateM.Result Failure Work α → Work
  | .ok _ after => after
  | .error _ after => after

/-- An action changes what is known of the entry in a certain way, whether it succeeds or fails. -/
def Changes (rel : Description → Description → Prop) (action : Decode α) (w : Work) : Prop :=
  rel w.about (left (action w)).about

namespace Changes

variable {rel : Description → Description → Prop}

theorem within {step : Step} {action : Decode α} (inner : Changes rel action w) :
    Changes rel (within step action) w := by
  unfold Changes DebugScopes.within at *
  cases ran : action w with
  | error failure between =>
    rw [ran] at inner
    exact inner
  | ok a between =>
    rw [ran] at inner
    exact inner

theorem describing {f : Description → Description} (told : rel w.about (f w.about)) :
    Changes rel (describing f) w := told

variable [IsPreorder Description rel]

theorem bind {action : Decode α} {next : α → Decode β} (first : Changes rel action w)
    (second : ∀ a between, action w = .ok a between → Changes rel (next a) between) :
    Changes rel (action >>= next) w := by
  show rel w.about (left (EStateM.bind action next w)).about
  rw [EStateM.bind]
  unfold Changes at first
  cases ran : action w with
  | error failure between =>
    rw [ran] at first
    exact first
  | ok a between =>
    rw [ran] at first
    exact IsTrans.trans _ _ _ first (second a between ran)

/-- Leaving alone what is known is a change of any kind. -/
theorem of_eq {action : Decode α} (same : Changes Eq action w) : Changes rel action w := by
  unfold Changes at *
  rw [← same]
  exact refl _

/-- Behind an action that leaves alone what is known, the same is known. -/
theorem about {action : Decode α} {a : α} {between : Work} (same : Changes Eq action w)
    (ran : action w = .ok a between) : between.about = w.about := by
  unfold Changes at same
  rw [ran] at same
  exact same.symm

theorem ofExcept (result : Except Failure α) : Changes rel (MonadExcept.ofExcept result) w :=
  of_eq (by cases result <;> rfl)

theorem checked (result : Except Damage α) : Changes rel (checked result) w :=
  of_eq (by cases result <;> rfl)

theorem reading (read : Read α) : Changes rel (reading read) w := by
  refine of_eq ?_
  unfold Changes Decode.reading
  cases read w.pos <;> rfl

theorem elsewhere (addr : Int) (read : Read α) : Changes rel (elsewhere addr read) w := by
  refine of_eq ?_
  unfold Changes Decode.elsewhere
  cases read addr <;> rfl

end Changes

/-! ### Actions that tell nothing -/

theorem value_silent (src : Source) (entry attr form : Int) (w : Work) :
    Changes Eq (value src entry attr form) w := by
  unfold value
  split
  · exact .reading _
  · rfl

theorem bound_silent (src : Source) (slot : Nat) (w : Work) : Changes Eq (bound src slot) w := by
  refine .bind (.checked _) fun item between _ => ?_
  split
  · exact .elsewhere _ _
  · rfl

theorem item_silent (src : Source) (w : Work) : Changes Eq (item src) w :=
  .bind rfl fun _ _ _ => .checked _

theorem stepData_silent (src : Source) (attr : Int) (skipped : Dwarf.Form.Skipped) (w : Work) :
    Changes Eq (stepData src attr skipped) w := by
  unfold stepData
  split
  · exact .bind (.within (item_silent ..)) fun _ _ _ => .bind (.within (.reading _)) fun _ _ _ =>
      .bind (.reading _) fun _ _ _ => rfl
  · split
    · exact .bind (.within (item_silent ..)) fun _ _ _ => .reading _
    · rfl
  · rfl

theorem stepOver_silent (src : Source) (attr form : Int) (w : Work) :
    Changes Eq (stepOver src attr form) w :=
  .bind (stepData_silent ..) fun _ _ _ => rfl

/-! ### Attributes -/

theorem rangesFrom_told (src : Source) (entry list base : Int) (slot : Nat) (w : Work) :
    Changes (ReflTransGen Told) (rangesFrom src entry list base slot) w := by
  fun_induction rangesFrom src entry list base slot generalizing w with
  | case1 => exact .refl
  | case2 slot ended ih =>
    refine .bind (bound_silent ..).of_eq fun low _ _ =>
      .bind (bound_silent ..).of_eq fun high _ _ => ?_
    split
    · exact .refl
    · exact .bind (.describing (.single (.listed _ _))) fun _ between _ => ih between

/-- Taking an attribute in tells what it says, or nothing if it cannot be read. -/
theorem takeIn_told (src : Source) (subject : Subject) (attr form : Int) (w : Work) :
    Changes (ReflTransGen Told) (takeIn src subject attr form) w := by
  have valued (step : Step) (w : Work) :
      Changes Eq (DebugScopes.within step (value src subject.addr attr form)) w :=
    .within (value_silent ..)
  unfold takeIn
  split
  · split
    · exact .refl
    · exact .bind (valued ..).of_eq fun _ _ _ => .bind (Changes.within (.ofExcept _)).of_eq
        fun _ _ _ => .describing (.single (.name _))
  · refine .bind (.of_eq rfl) fun _ _ got => ?_
    cases got
    split
    · exact .refl
    · next closed =>
      refine .bind (valued ..).of_eq fun low between ran => .describing (.single (.started _ ?_))
      rw [Changes.about (valued ..) ran]
      simpa using closed
  · refine .bind (.of_eq rfl) fun _ _ got => ?_
    cases got
    split
    · exact .refl
    · next pending found =>
      refine .bind (valued ..).of_eq fun n between ran => .describing (.single ?_)
      have still : between.about.pending? = some pending := by
        rw [Changes.about (valued ..) ran]
        exact found
      exact .ended _ still
  · exact .bind (valued ..).of_eq fun _ _ _ => .bind (Changes.within (.checked _)).of_eq
      fun _ _ _ => rangesFrom_told ..
  · split
    · exact .refl
    · exact .bind (valued ..).of_eq fun _ _ _ => .describing (.single (.target _))
  · exact .refl
  · exact .refl

theorem decode_told (src : Source) (subject : Subject) (attr form : Int) (w : Work) :
    Changes (ReflTransGen Told) (decode src subject attr form) w := by
  unfold decode
  split
  · exact .refl
  · exact .bind (takeIn_told ..) fun _ between _ => (stepOver_silent src attr form between).of_eq

/-- Whatever attributes are decoded, things are told of the entry and nothing else changes, also if
the decoding breaks off. -/
theorem decodeAll_told (src : Source) (subject : Subject) (attributes : List (Nat × Nat))
    (w : Work) : Changes (ReflTransGen Told) (decodeAll src subject attributes) w := by
  induction attributes generalizing w with
  | nil => exact .refl
  | cons first rest ih => exact .bind (decode_told ..) fun _ between _ => ih between

/-! ### What is kept -/

/-- Decoding attributes leaves the tag as it was. -/
theorem decodeAll_tag {src : Source} {subject : Subject} {attributes : List (Nat × Nat)}
    {w' : Work} (run : decodeAll src subject attributes w = .ok () w') :
    w'.about.tag = w.about.tag := by
  have told := decodeAll_told src subject attributes w
  unfold Changes at told
  rw [run] at told
  exact Told.tag_eq told

/-- However far attributes are decoded, no more than one range is open behind them. -/
theorem decodeAll_openCount (src : Source) (subject : Subject) (attributes : List (Nat × Nat))
    (one : w.about.openCount ≤ 1) :
    (left (decodeAll src subject attributes w)).about.openCount ≤ 1 :=
  Told.openCount_le (decodeAll_told src subject attributes w) one

end Decode

end DebugScopes

import DebugScopes.Proofs.Decoding.Step

/-!
# What actions promise

`Triple P action Q C` promises two things of an action that is started where `P` holds: that what it
gives and the state that it leaves are as `Q` says, and that it fails only for causes of which `C`
holds. Steps that a failure passes do not change its cause, so they keep every promise.

* `Triple.bind` and `Triple.within`: how promises are put together;
* `Triple.refuse`, `Triple.checked`: promises of the actions that fail on damage;
* `Segment.triple_take`, `Segment.triple_sized`: what reading a segment promises.
-/

namespace DebugScopes

variable {σ α β : Type} {P P' : σ → Prop} {C : Cause → Prop}

/-- What an action promises if it is started where `P` holds. -/
structure Triple (P : σ → Prop) (action : EStateM Failure σ α) (Q : α → σ → Prop)
    (C : Cause → Prop) : Prop where
  ok : ∀ {before a after}, P before → action before = .ok a after → Q a after
  error : ∀ {before e after}, P before → action before = .error e after → C e.cause

namespace Triple

theorem pure {a : α} {Q : α → σ → Prop} (given : ∀ s, P s → Q a s) :
    Triple P (Pure.pure a : EStateM Failure σ α) Q C := by
  constructor
  · intro before b after holds run
    cases run
    exact given before holds
  · intro before e after holds run
    cases run

theorem bind {action : EStateM Failure σ α} {next : α → EStateM Failure σ β} {Q : α → σ → Prop}
    {S : β → σ → Prop} (first : Triple P action Q C) (second : ∀ a, Triple (Q a) (next a) S C) :
    Triple P (action >>= next) S C := by
  constructor
  · intro before b after holds run
    obtain ⟨a, between, ran, run⟩ := bind_eq_ok.1 run
    exact (second a).ok (first.ok holds ran) run
  · intro before e after holds run
    rcases bind_eq_error run with ran | ⟨a, between, ran, run⟩
    · exact first.error holds ran
    · exact (second a).error (first.ok holds ran) run

theorem within {step : Step} {action : EStateM Failure σ α} {Q : α → σ → Prop}
    (inner : Triple P action Q C) : Triple P (within step action) Q C := by
  constructor
  · intro before a after holds run
    exact inner.ok holds (within_eq_ok.1 run)
  · intro before e after holds run
    obtain ⟨e', ran, same⟩ := within_eq_error run
    exact same ▸ inner.error holds ran

/-- A promise holds where more holds, and promises less than what holds. -/
theorem weaken {action : EStateM Failure σ α} {Q S : α → σ → Prop} (triple : Triple P action Q C)
    (before : ∀ s, P' s → P s) (after : ∀ a s, Q a s → S a s) : Triple P' action S C :=
  ⟨fun holds run => after _ _ (triple.ok (before _ holds) run),
    fun holds run => triple.error (before _ holds) run⟩

theorem get : Triple P (MonadState.get : EStateM Failure σ σ) (fun a s => a = s ∧ P s) C := by
  constructor
  · intro before a after holds run
    cases run
    exact ⟨rfl, holds⟩
  · intro before e after holds run
    cases run

theorem modify {f : σ → σ} {Q : Unit → σ → Prop} (given : ∀ s, P s → Q () (f s)) :
    Triple P (modify f : EStateM Failure σ Unit) Q C := by
  constructor
  · intro before a after holds run
    cases run
    exact given before holds
  · intro before e after holds run
    cases run

theorem fail {e : Failure} {Q : α → σ → Prop} (allowed : C e.cause) :
    Triple P (throw e : EStateM Failure σ α) Q C := by
  constructor
  · intro before a after holds run
    cases run
  · intro before e' after holds run
    cases run
    exact allowed

theorem refuse {damage : Damage} {Q : α → σ → Prop} (allowed : C (Failure.ofDamage damage).cause) :
    Triple P (refuse damage : EStateM Failure σ α) Q C := .fail allowed

theorem ofExcept {result : Except Failure α} {Q : α → σ → Prop}
    (given : ∀ a s, result = .ok a → P s → Q a s) (allowed : ∀ e, result = .error e → C e.cause) :
    Triple P (MonadExcept.ofExcept result : EStateM Failure σ α) Q C := by
  cases result with
  | ok a => exact .pure fun s holds => given a s rfl holds
  | error e => exact .fail (allowed e rfl)

theorem checked {result : Except Damage α} {Q : α → σ → Prop}
    (given : ∀ a s, result = .ok a → P s → Q a s)
    (allowed : ∀ damage, result = .error damage → C (Failure.ofDamage damage).cause) :
    Triple P (checked result : EStateM Failure σ α) Q C := by
  cases result with
  | ok a => exact .pure fun s holds => given a s rfl holds
  | error damage => exact .refuse (allowed damage rfl)

/-- What is known of an action anyway can be added to its promise. -/
theorem also {action : EStateM Failure σ α} {Q : α → σ → Prop} {V : α → Prop}
    (triple : Triple P action Q C)
    (known : ∀ {before a after}, action before = .ok a after → V a) :
    Triple P action (fun a s => V a ∧ Q a s) C :=
  ⟨fun holds run => ⟨known run, triple.ok holds run⟩, triple.error⟩

/-- A fact that shows wherever the action starts can be used for its promise. -/
theorem of_fact {fact : Prop} {action : EStateM Failure σ α} {Q : α → σ → Prop}
    (shown : ∀ s, P s → fact) (triple : fact → Triple P action Q C) : Triple P action Q C :=
  ⟨fun holds run => (triple (shown _ holds)).ok holds run,
    fun holds run => (triple (shown _ holds)).error holds run⟩

/-- Where nothing can start, everything is promised. -/
theorem never {action : EStateM Failure σ α} {Q : α → σ → Prop} :
    Triple (fun _ => False) action Q C :=
  ⟨fun impossible => impossible.elim, fun impossible => impossible.elim⟩

end Triple

/-! ### Reads of a segment -/

namespace Segment

variable {s : Segment} {order : ByteOrder}

/-- Bytes that are claimed lie in the usable data, or the claim goes too far. -/
theorem triple_take {count : Int}
    (overrun : ∀ pos, C (Failure.ofDamage (.readPastEnd count pos s.length)).cause) :
    Triple (fun _ => True) (s.take count)
      (fun start after => 0 ≤ start ∧ start + count = after ∧ after ≤ s.length) C := by
  constructor
  · intro pos start after _ run
    obtain ⟨rfl, rfl, positive, -, short⟩ := take_ok run
    exact ⟨positive, rfl, short⟩
  · intro pos e after _ run
    unfold take at run
    split at run
    · cases run
      exact overrun pos
    · cases run

/-- There is a byte wherever one may be claimed. -/
theorem triple_byte (whole : s.length ≤ s.data.size)
    (overrun : ∀ pos, C (Failure.ofDamage (.readPastEnd 1 pos s.length)).cause) :
    Triple (fun _ => True) s.byte (fun _ _ => True) C := by
  refine .bind (.within (triple_take overrun)) fun start => ?_
  cases held : s.data[start.toNat]? with
  | some b => exact .pure fun _ _ => trivial
  | none =>
    refine ⟨fun _ _ => trivial, fun {after e q} inside _ => ?_⟩
    have beyond : s.data.size ≤ start.toNat := Array.getElem?_eq_none_iff.1 held
    omega

theorem triple_number (ordered : s.order = .ok order) {count : Nat}
    (overrun : ∀ pos, C (Failure.ofDamage (.readPastEnd count pos s.length)).cause) :
    Triple (fun _ => True) (s.number count) (fun _ _ => True) C := by
  unfold number
  rw [ordered]
  exact .bind (.within (triple_take overrun)) fun _ => .pure fun _ _ => trivial

/-- A number as wide as is declared: it goes too far, or nothing is that wide. -/
theorem triple_sized (whole : s.length ≤ s.data.size) (ordered : s.order = .ok order) {size : Int}
    (overrun : size = 1 ∨ size = 2 ∨ size = 4 →
      ∀ pos, C (Failure.ofDamage (.readPastEnd size pos s.length)).cause)
    (width : size ≠ 1 → size ≠ 2 → size ≠ 4 →
      ∀ pos, C (Failure.ofDamage (.itemWidth pos size)).cause) :
    Triple (fun _ => True) (s.sized size) (fun _ _ => True) C := by
  unfold sized half word
  split_ifs with one two four
  · subst one
    exact .within (triple_byte whole (overrun (.inl rfl)))
  · subst two
    exact .within (triple_number ordered (overrun (.inr (.inl rfl))))
  · subst four
    exact .within (triple_number ordered (overrun (.inr (.inr rfl))))
  · exact .bind .get fun pos => .refuse (width one two four pos)

end Segment

end DebugScopes

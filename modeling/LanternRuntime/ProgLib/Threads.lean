import LanternRuntime.ProgLib.Prog
/-!
# Threads over a shared object

Code that may retry for ever is no `Prog`. Here it is a function of the place a
thread is in: at each place the thread has ended, or makes one call of the
shared object and goes on to another place with the answer.

`Alone` runs one thread by itself. `Interleaved` runs any number of them, one
call at a time and in any order, and lists every call with the object before
and after it. The object may answer a call in more than one way.
-/

namespace ProgLib

variable {E : Sig} {P σ α ι : Type}

/-- What a thread does at a place: it has ended, or makes a call. -/
inductive Turn (E : Sig) (P α : Type) where
  | done (a : α)
  | call (c : E.Call) (k : E.Ans c → P)

def Turn.map {β : Type} (f : α → β) : Turn E P α → Turn E P β
  | .done a => .done (f a)
  | .call c k => .call c k

/-- From a state, a call may be answered so and leave the object so. -/
abbrev Object (E : Sig) (σ : Type) := (c : E.Call) → σ → E.Ans c → σ → Prop

/-- One call of a thread: from place and state, over an event, to place and state. -/
inductive Advance (code : P → Turn E P α) (obj : Object E σ) : P → σ → Event E → P → σ → Prop
  | call {p s c k a s'} : code p = .call c k → obj c s a s' → Advance code obj p s ⟨c, a⟩ (k a) s'

/-- What is done with a thread's value does not show in its calls. -/
theorem advance_map {β : Type} {code : P → Turn E P α} {f : α → β} {obj : Object E σ} {p q : P} {s s' : σ}
    {e : Event E} : Advance (fun p => (code p).map f) obj p s e q s' ↔ Advance code obj p s e q s' := by
  constructor
  · rintro ⟨hp, hobj⟩
    cases hc : code p with
    | done a =>
      rw [hc] at hp
      cases hp
    | call c k =>
      rw [hc] at hp
      cases hp
      exact .call hc hobj
  · rintro ⟨hp, hobj⟩
    exact .call (by rw [hp]; rfl) hobj

/-! ## One thread -/

/-- A thread by itself leads from place and state to place and state. -/
inductive Alone (code : P → Turn E P α) (obj : Object E σ) : P → σ → P → σ → Prop
  | refl {p s} : Alone code obj p s p s
  | step {p s q s' e r s''} : Alone code obj p s q s' → Advance code obj q s' e r s'' → Alone code obj p s r s''

section Alone
variable {code : P → Turn E P α} {obj : Object E σ} {p q r : P} {s s' s'' : σ}

/-- What every call keeps holds as long as the thread runs. -/
theorem Alone.inv {I : P → σ → Prop} (h : Alone code obj p s q s') (h0 : I p s)
    (hi : ∀ p s e q s', I p s → Advance code obj p s e q s' → I q s') : I q s' := by
  induction h with
  | refl => exact h0
  | step _ ha ih => exact hi _ _ _ _ _ ih ha

theorem Alone.trans (h : Alone code obj p s q s') (h' : Alone code obj q s' r s'') : Alone code obj p s r s'' := by
  induction h' with
  | refl => exact h
  | step _ ha ih => exact ih.step ha

theorem Alone.one {e : Event E} (h : Advance code obj p s e q s') : Alone code obj p s q s' := .step .refl h

end Alone

/-! ## Any number of threads -/

/-- One call of one thread, with the object before and after it. -/
structure Move (E : Sig) (ι σ : Type) where
  thread : ι
  event : Event E
  before : σ
  after : σ

/-- From the places `p₀` and the state `s₀`, the calls of `hist` lead to places and state. -/
inductive Interleaved [DecidableEq ι] (code : P → Turn E P α) (obj : Object E σ) (p₀ : ι → P) (s₀ : σ) :
    List (Move E ι σ) → (ι → P) → σ → Prop
  | nil : Interleaved code obj p₀ s₀ [] p₀ s₀
  | snoc {hist p s i e q s'} : Interleaved code obj p₀ s₀ hist p s → Advance code obj (p i) s e q s' →
      Interleaved code obj p₀ s₀ (hist ++ [⟨i, e, s, s'⟩]) (Function.update p i q) s'

section Interleaved
variable [DecidableEq ι] {code : P → Turn E P α} {obj : Object E σ} {p₀ p : ι → P} {s₀ s : σ}
  {hist : List (Move E ι σ)}

/-- What every call of every thread keeps holds in every interleaving. -/
theorem Interleaved.inv {I : List (Move E ι σ) → (ι → P) → σ → Prop} (h : Interleaved code obj p₀ s₀ hist p s)
    (h0 : I [] p₀ s₀) (hi : ∀ hist p s i e q s', I hist p s → Advance code obj (p i) s e q s' →
      I (hist ++ [⟨i, e, s, s'⟩]) (Function.update p i q) s') : I hist p s := by
  induction h with
  | nil => exact h0
  | snoc _ ha ih => exact hi _ _ _ _ _ _ _ ih ha

end Interleaved

/-! ## The last call of a thread -/

/-- The calls of `i`, in order. -/
def movesOf [DecidableEq ι] (i : ι) (hist : List (Move E ι σ)) : List (Move E ι σ) :=
  hist.filter fun m => m.thread = i

section MovesOf
variable [DecidableEq ι] {i j : ι} {hist : List (Move E ι σ)} {e : Event E} {s s' : σ}

@[simp] theorem movesOf_snoc_self :
    movesOf i (hist ++ [⟨i, e, s, s'⟩]) = movesOf i hist ++ [⟨i, e, s, s'⟩] := by
  simp [movesOf]

@[simp] theorem movesOf_snoc_ne (h : j ≠ i) : movesOf i (hist ++ [⟨j, e, s, s'⟩]) = movesOf i hist := by
  simp [movesOf, h]

end MovesOf

end ProgLib

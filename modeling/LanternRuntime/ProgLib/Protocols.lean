import LanternRuntime.ProgLib.Rules
/-!
# Protocols

A protocol says, for each phase, which events may happen and where they lead.
`Follows step Q p s`: whatever it is answered, the calls of `p` are in the
protocol that is in phase `s`, and what it returns and the phase it ends in
satisfy `Q`. `Follows.sound` turns it into a statement about every run.
-/

namespace ProgLib

variable {E : Sig} {S α β ε : Type} {step : S → Event E → S → Prop}

/-- The events are in the protocol, and lead from one phase to the other. -/
inductive Leads (step : S → Event E → S → Prop) : S → List (Event E) → S → Prop
  | nil (s : S) : Leads step s [] s
  | cons {s s₁ s' e tr} : step s e s₁ → Leads step s₁ tr s' → Leads step s (e :: tr) s'

section Leads
variable {s s' : S} {tr tr' : List (Event E)} {e : Event E}

theorem leads_append : Leads step s (tr ++ tr') s' ↔ ∃ s₁, Leads step s tr s₁ ∧ Leads step s₁ tr' s' := by
  induction tr generalizing s with
  | nil =>
    constructor
    · exact fun h => ⟨s, .nil s, h⟩
    · rintro ⟨_, ⟨⟩, h⟩
      exact h
  | cons e tr ih =>
    constructor
    · rintro (_ | ⟨hstep, h⟩)
      obtain ⟨s₁, hpre, hpost⟩ := ih.1 h
      exact ⟨s₁, .cons hstep hpre, hpost⟩
    · rintro ⟨s₁, _ | ⟨hstep, hpre⟩, hpost⟩
      exact .cons hstep (ih.2 ⟨s₁, hpre, hpost⟩)

/-- Every event happened in a phase that the events before it lead to. -/
theorem Leads.at (h : Leads step s (tr ++ e :: tr') s') :
    ∃ s₁ s₂, Leads step s tr s₁ ∧ step s₁ e s₂ ∧ Leads step s₂ tr' s' := by
  obtain ⟨s₁, hpre, hpost⟩ := leads_append.1 h
  cases hpost with
  | cons hstep hpost => exact ⟨s₁, _, hpre, hstep, hpost⟩

/-- What every step makes true of the history and the phase, is true at the end. -/
theorem Leads.inv {I : List (Event E) → S → Prop} (h : Leads step s tr s') (h0 : I [] s)
    (hstep : ∀ tr s e s', I tr s → step s e s' → I (tr ++ [e]) s') : I tr s' := by
  -- By induction on the run, over what happened before it.
  suffices hinv : ∀ pre, I pre s → I (pre ++ tr) s' from hinv [] h0
  clear h0
  induction h with
  | nil s => exact fun pre hpre => by rwa [List.append_nil]
  | cons he _ ih =>
    intro pre hpre
    rw [List.append_cons]
    exact ih _ (hstep _ _ _ _ hpre he)

end Leads

/-! ## Programs in a protocol -/

def Follows (step : S → Event E → S → Prop) (Q : α → S → Prop) : Prog E α → S → Prop
  | .ret a, s => Q a s
  | .panic _, _ => True
  | .call c k, s => ∀ a, ∃ s', step s ⟨c, a⟩ s' ∧ Follows step Q (k a) s'

section Follows
variable {Q Q' : α → S → Prop} {p : Prog E α} {s : S}

theorem Follows.sound (h : Follows step Q p s) {tr : List (Event E)} {o : Outcome α} (hr : Runs p tr o) :
    ∃ s', Leads step s tr s' ∧ ∀ a, o = .ret a → Q a s' := by
  induction hr generalizing s with
  | ret a =>
    refine ⟨s, .nil s, ?_⟩
    rintro _ ⟨⟩
    exact h
  | panic msg => exact ⟨s, .nil s, nofun⟩
  | call c k a hr ih =>
    obtain ⟨s₁, hstep, hk⟩ := h a
    obtain ⟨s', hleads, hQ⟩ := ih hk
    exact ⟨s', .cons hstep hleads, hQ⟩

theorem Follows.mono (h : Follows step Q p s) (hQ : ∀ a s', Q a s' → Q' a s') : Follows step Q' p s := by
  induction p generalizing s with
  | ret a => exact hQ a s h
  | panic msg => trivial
  | call c k ih =>
    intro a
    obtain ⟨s', hstep, hk⟩ := h a
    exact ⟨s', hstep, ih a hk⟩

/-- The second half goes on in the phase that the first half ended in. -/
theorem Follows.bind {M : α → S → Prop} {Q : β → S → Prop} {f : α → Prog E β} (hp : Follows step M p s)
    (hf : ∀ a s', M a s' → Follows step Q (f a) s') : Follows step Q (p >>= f) s := by
  induction p generalizing s with
  | ret a => exact hf a s hp
  | panic msg => trivial
  | call c k ih =>
    intro a
    obtain ⟨s', hstep, hk⟩ := hp a
    exact ⟨s', hstep, ih a hk⟩

/-- Calls that leave the phase as it is. -/
theorem Ensures.follows {ok : List (Event E) → E.Call → Prop} {R : List (Event E) → Outcome α → Prop}
    {tr : List (Event E)} (h : Ensures ok R p tr) (hok : ∀ {tr c}, ok tr c → ∀ a, step s ⟨c, a⟩ s) :
    Follows step (fun a s' => s' = s ∧ ∃ tr', R tr' (.ret a)) p s := by
  induction p generalizing tr with
  | ret a => exact ⟨rfl, tr, h⟩
  | panic msg => trivial
  | call c k ih => exact fun a => ⟨s, hok h.1 a, ih a (h.2 a)⟩

theorem Only.follows {P : E.Call → Prop} (h : Only P p) (hP : ∀ c, P c → ∀ a, step s ⟨c, a⟩ s) :
    Follows step (fun _ s' => s' = s) p s := by
  induction p with
  | ret a => rfl
  | panic msg => trivial
  | call c k ih => exact fun a => ⟨s, hP c h.1 a, ih a (h.2 a)⟩

end Follows

/-! ## Programs that can fail -/

/-- It succeeded with `M`, or failed in a phase of `F`. -/
def Ends (M : α → S → Prop) (F : S → Prop) : Except ε α → S → Prop
  | .ok a, s => M a s
  | .error _, s => F s

section Ends
variable {M : α → S → Prop} {F : S → Prop} {s : S}

theorem Follows.andThen {N : β → S → Prop} {p : ExceptT ε (Prog E) α} {f : α → ExceptT ε (Prog E) β}
    (hp : Follows step (Ends M F) p.run s) (hf : ∀ a s', M a s' → Follows step (Ends N F) (f a).run s') :
    Follows step (Ends N F) (p >>= f).run s := by
  rw [except_run_bind]
  refine hp.bind ?_
  rintro (e | a) s' h
  · exact h
  · exact hf a s' h

theorem Follows.lift {p : Prog E α} (hp : Follows step M p s) :
    Follows step (Ends M F) (liftM p : ExceptT ε (Prog E) α).run s :=
  hp.bind fun _ _ h => h

end Ends

end ProgLib

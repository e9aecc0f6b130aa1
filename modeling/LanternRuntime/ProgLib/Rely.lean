import LanternRuntime.ProgLib.Rules
/-!
# What a program may rely on

A `Rely` says which answers an outside may give, where `W` is what it remembers
of the past. `Holds` is said of a trace all of whose answers are such.

`Assured R Q p w`: answered as `R` says from `w` on, `p` does not panic, and
ends with a value and a past in `Q`. `Assured.runs` turns it into a statement
about every run, and `Assured.bind` composes it.
-/

namespace ProgLib

variable {E : Sig} {W α β ε : Type}

structure Rely (E : Sig) (W : Type) where
  allows : W → (c : E.Call) → E.Ans c → Prop
  next : W → (c : E.Call) → E.Ans c → W

namespace Rely
variable (R : Rely E W)

/-- Every answer is one that `R` allows by then. -/
def Holds : W → List (Event E) → Prop
  | _, [] => True
  | w, e :: tr => R.allows w e.call e.ans ∧ Holds (R.next w e.call e.ans) tr

/-- What is remembered after `tr`. -/
def after : W → List (Event E) → W
  | w, [] => w
  | w, e :: tr => after (R.next w e.call e.ans) tr

variable {R}

theorem holds_append {w : W} {tr₁ tr₂ : List (Event E)} :
    R.Holds w (tr₁ ++ tr₂) ↔ R.Holds w tr₁ ∧ R.Holds (R.after w tr₁) tr₂ := by
  induction tr₁ generalizing w with
  | nil => exact (and_iff_right trivial).symm
  | cons e tr₁ ih => exact (and_congr_right fun _ => ih).trans and_assoc.symm

/-- A handler whose state is what `R` remembers, and that answers as `R` allows. -/
theorem holds_trace {h : Handler E W} (hmeets : ∀ c w, R.allows w c (h c w).1 ∧ (h c w).2 = R.next w c (h c w).1)
    (p : Prog E α) (w : W) : R.Holds w (p.trace h w) := by
  induction p generalizing w with
  | ret a => trivial
  | panic msg => trivial
  | call c k ih =>
    refine ⟨(hmeets c w).1, ?_⟩
    rw [← (hmeets c w).2]
    exact ih _ _

end Rely

/-! ## Programs that can rely on it -/

/-- Answered as `R` allows, `p` does not panic and ends in `Q`. -/
def Assured (R : Rely E W) (Q : W → α → Prop) : Prog E α → W → Prop
  | .ret a, w => Q w a
  | .panic _, _ => False
  | .call c k, w => ∀ ans, R.allows w c ans → Assured R Q (k ans) (R.next w c ans)

section Assured
variable {R : Rely E W}

theorem Assured.mono {Q Q' : W → α → Prop} {p : Prog E α} {w : W} (h : Assured R Q p w)
    (hQ : ∀ w a, Q w a → Q' w a) : Assured R Q' p w := by
  induction p generalizing w with
  | ret a => exact hQ w a h
  | panic msg => exact h.elim
  | call c k ih => exact fun ans hans => ih ans (h ans hans)

/-- Compose through a condition `M` on what is known in the middle. -/
theorem Assured.bind {M : W → α → Prop} {Q : W → β → Prop} {p : Prog E α} {f : α → Prog E β} {w : W}
    (hp : Assured R M p w) (hf : ∀ w a, M w a → Assured R Q (f a) w) : Assured R Q (p >>= f) w := by
  induction p generalizing w with
  | ret a => exact hf w a hp
  | panic msg => exact hp.elim
  | call c k ih => exact fun ans hans => ih ans (hp ans hans)

/-- `M` holds, and the program succeeded. -/
def Succeeds (M : W → α → Prop) (w : W) (x : Except ε α) : Prop := ∃ a, x = .ok a ∧ M w a

theorem Succeeds.intro {M : W → α → Prop} {w : W} {a : α} (h : M w a) : Succeeds (ε := ε) M w (.ok a) := ⟨a, rfl, h⟩

theorem Assured.andThen {M : W → α → Prop} {Q : W → Except ε β → Prop} {p : ExceptT ε (Prog E) α}
    {f : α → ExceptT ε (Prog E) β} {w : W} (hp : Assured R (Succeeds M) p.run w)
    (hf : ∀ w a, M w a → Assured R Q (f a).run w) : Assured R Q (p >>= f).run w := by
  rw [except_run_bind]
  refine hp.bind ?_
  rintro w x ⟨a, rfl, ha⟩
  exact hf w a ha

/-- A first half that cannot fail. -/
theorem Assured.lift {M : W → α → Prop} {Q : W → Except ε β → Prop} {p : Prog E α}
    {f : α → ExceptT ε (Prog E) β} {w : W} (hp : Assured R M p w) (hf : ∀ w a, M w a → Assured R Q (f a).run w) :
    Assured R Q ((liftM p : ExceptT ε (Prog E) α) >>= f).run w := by
  rw [lift_run_bind]
  exact hp.bind hf

/-- What holds whatever it is answered within `A`, of calls that are not remembered. -/
theorem Returns.assured {A : Event E → Prop} {P : E.Call → Prop} {Q : α → Prop} {p : Prog E α} {w : W}
    (h : Returns A Q p) (hp : Only P p) (hA : ∀ c ans, P c → R.allows w c ans → A ⟨c, ans⟩)
    (hnext : ∀ c ans, P c → R.next w c ans = w) : Assured R (fun w' a => w' = w ∧ Q a) p w := by
  induction p with
  | ret a => exact ⟨rfl, h⟩
  | panic msg => exact h.elim
  | call c k ih =>
    intro ans hans
    rw [hnext c ans hp.1]
    exact ih ans (h ans (hA c ans hp.1 hans)) (hp.2 ans)

/-- In every run that was answered so, the program came to its end. -/
theorem Assured.runs {Q : W → α → Prop} {p : Prog E α} {w : W} (h : Assured R Q p w) {tr : List (Event E)}
    {o : Outcome α} (hr : Runs p tr o) (hR : R.Holds w tr) : ∃ a, o = .ret a ∧ Q (R.after w tr) a := by
  induction hr generalizing w with
  | ret a => exact ⟨a, rfl, h⟩
  | panic msg => exact h.elim
  | call c k a _ ih => exact ih (h a hR.1) hR.2

end Assured

end ProgLib

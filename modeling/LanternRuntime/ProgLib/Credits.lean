import LanternRuntime.ProgLib.Rules
/-!
# Paying for calls

Every call of the outside has a price. `Pays price Q p n`: whatever it is
answered, `p` can pay for its calls with `n` credits, and what it returns and
what it has left then satisfy `Q`. So no run costs more than its credits
(`Pays.sound`), and what one program leaves is what the next can spend.
`Costs price k p` is the case of a price that does not depend on how `p` ends.
-/

namespace ProgLib

variable {E : Sig} {α β ε : Type} {price : E.Call → Nat}

/-- What the calls of a run come to. -/
def cost (price : E.Call → Nat) : List (Event E) → Nat
  | [] => 0
  | e :: tr => price e.call + cost price tr

theorem cost_cons (e : Event E) (tr : List (Event E)) : cost price (e :: tr) = price e.call + cost price tr := rfl

/-- Calls that cost something are no more than what was paid. -/
theorem countP_le_cost {f : E.Call → Bool} (h : ∀ c, f c = true → 1 ≤ price c) (tr : List (Event E)) :
    (tr.countP fun e => f e.call) ≤ cost price tr := by
  induction tr with
  | nil => exact Nat.le_refl 0
  | cons e tr ih =>
    rw [List.countP_cons, cost_cons]
    cases hf : f e.call with
    | false =>
      rw [if_neg Bool.false_ne_true]
      omega
    | true =>
      have he := h e.call hf
      rw [if_pos rfl]
      omega

/-! ## Credits -/

def Pays (price : E.Call → Nat) (Q : α → Nat → Prop) : Prog E α → Nat → Prop
  | .ret a, n => Q a n
  | .panic _, _ => True
  | .call c k, n => price c ≤ n ∧ ∀ a, Pays price Q (k a) (n - price c)

section Pays
variable {Q Q' : α → Nat → Prop} {p : Prog E α} {n m : Nat}

/-- No run costs more than the credits it had. -/
theorem Pays.sound (hp : Pays price Q p n) {tr : List (Event E)} {o : Outcome α} (hr : Runs p tr o) :
    cost price tr ≤ n ∧ ∀ a, o = .ret a → Q a (n - cost price tr) := by
  induction hr generalizing n with
  | ret a =>
    refine ⟨Nat.zero_le n, ?_⟩
    rintro _ ⟨⟩
    exact hp
  | panic msg => exact ⟨Nat.zero_le n, nofun⟩
  | call c k a hr ih =>
    obtain ⟨hc, hk⟩ := hp
    obtain ⟨hcost, hleft⟩ := ih (hk a)
    rw [cost_cons]
    dsimp only
    refine ⟨by omega, fun b hb => ?_⟩
    rw [← Nat.sub_sub]
    exact hleft b hb

/-- With more credits, there is more left. -/
theorem Pays.mono (hp : Pays price Q p n) (hn : n ≤ m) (hQ : ∀ a {k k'}, k ≤ k' → Q a k → Q' a k') :
    Pays price Q' p m := by
  induction p generalizing n m with
  | ret a => exact hQ a hn hp
  | panic msg => trivial
  | call c k ih => exact ⟨Nat.le_trans hp.1 hn, fun a => ih a (hp.2 a) (Nat.sub_le_sub_right hn _)⟩

/-- The second half spends what the first half left. -/
theorem Pays.bind {M : α → Nat → Prop} {Q : β → Nat → Prop} {f : α → Prog E β} (hp : Pays price M p n)
    (hf : ∀ a m, M a m → Pays price Q (f a) m) : Pays price Q (p >>= f) n := by
  induction p generalizing n with
  | ret a => exact hf a n hp
  | panic msg => trivial
  | call c k ih => exact ⟨hp.1, fun a => ih a (hp.2 a)⟩

/-- What every run of it returns. -/
theorem Pays.runs {R : α → Prop} (hp : Pays price Q p n) (hR : ∀ {tr a}, Runs p tr (.ret a) → R a) :
    Pays price (fun a m => R a ∧ Q a m) p n := by
  induction p generalizing n with
  | ret a => exact ⟨hR (.ret a), hp⟩
  | panic msg => trivial
  | call c k ih => exact ⟨hp.1, fun a => ih a (hp.2 a) fun hr => hR (.call c k a hr)⟩

end Pays

/-- What is left matters after a success only. -/
def OnSuccess (Q : α → Nat → Prop) (x : Except ε α) (n : Nat) : Prop := ∀ a, x = .ok a → Q a n

theorem OnSuccess.intro {Q : α → Nat → Prop} {a : α} {n : Nat} (h : Q a n) :
    OnSuccess (ε := ε) Q (.ok a) n := by
  rintro b ⟨⟩
  exact h

theorem Pays.andThen {M : α → Nat → Prop} {Q : β → Nat → Prop} {p : ExceptT ε (Prog E) α}
    {f : α → ExceptT ε (Prog E) β} {n : Nat} (hp : Pays price (OnSuccess M) p.run n)
    (hf : ∀ a m, M a m → Pays price (OnSuccess Q) (f a).run m) : Pays price (OnSuccess Q) (p >>= f).run n := by
  rw [except_run_bind]
  refine hp.bind ?_
  rintro (e | a) m hM
  · exact nofun
  · exact hf a m (hM a rfl)

/-! ## A fixed price -/

/-- Whatever it is answered, `p` costs at most `k`. -/
structure Costs (price : E.Call → Nat) (k : Nat) (p : Prog E α) : Prop where
  afford : ∀ m, Pays price (fun _ left => m ≤ left) p (k + m)

section Costs
variable {p : Prog E α} {k k' : Nat}

theorem costs_ret (a : α) : Costs price 0 (.ret a : Prog E α) := ⟨fun m => Nat.le_of_eq (Nat.zero_add m).symm⟩

theorem costs_panic (msg : String) : Costs price 0 (.panic msg : Prog E α) := ⟨fun _ => trivial⟩

theorem Costs.mono (hp : Costs price k p) (hk : k ≤ k') : Costs price k' p :=
  ⟨fun m => (hp.afford m).mono (Nat.add_le_add_right hk m) fun _ _ _ hle h => Nat.le_trans h hle⟩

theorem costs_call {c : E.Call} {f : E.Ans c → Prog E α} (hf : ∀ a, Costs price k (f a)) :
    Costs price (price c + k) (.call c f) := by
  refine ⟨fun m => ⟨by omega, fun a => ?_⟩⟩
  rw [Nat.add_assoc, Nat.add_sub_cancel_left]
  exact (hf a).afford m

theorem costs_ask (c : E.Call) : Costs price (price c) (Prog.ask c) := costs_call fun a => costs_ret a

theorem Costs.bind {f : α → Prog E β} (hp : Costs price k p) (hf : ∀ a, Costs price k' (f a)) :
    Costs price (k + k') (p >>= f) := by
  refine ⟨fun m => ?_⟩
  rw [Nat.add_assoc]
  refine (hp.afford (k' + m)).bind fun a left hleft => ?_
  exact ((hf a).afford m).mono hleft fun _ _ _ hle h => Nat.le_trans h hle

/-- What comes after is free. -/
theorem Costs.last {f : α → Prog E β} (hp : Costs price k p) (hf : ∀ a, Costs price 0 (f a)) :
    Costs price k (p >>= f) := hp.bind hf

/-- What comes before is. -/
theorem Costs.first {f : α → Prog E β} (hp : Costs price 0 p) (hf : ∀ a, Costs price k (f a)) :
    Costs price k (p >>= f) := (hp.bind hf).mono (Nat.le_of_eq (Nat.zero_add k))

theorem Costs.andThen {p : ExceptT ε (Prog E) α} {f : α → ExceptT ε (Prog E) β} (hp : Costs price k p.run)
    (hf : ∀ a, Costs price k' (f a).run) : Costs price (k + k') (p >>= f).run := by
  rw [except_run_bind]
  refine hp.bind ?_
  rintro (e | a)
  · exact (costs_ret _).mono (Nat.zero_le k')
  · exact hf a

theorem Costs.lift (hp : Costs price k p) : Costs price k (liftM p : ExceptT ε (Prog E) α).run :=
  hp.last fun _ => costs_ret _

/-- What is paid for from `k` credits costs no more. -/
theorem Pays.costs {Q : α → Nat → Prop} (hp : Pays price Q p k) : Costs price k p := by
  refine ⟨fun m => ?_⟩
  induction p generalizing k with
  | ret a => exact Nat.le_add_left m k
  | panic msg => trivial
  | call c f ih =>
    refine ⟨Nat.le_trans hp.1 (Nat.le_add_right k m), fun a => ?_⟩
    rw [Nat.sub_add_comm hp.1]
    exact ih a (hp.2 a)

/-- A price that is paid before something else is. -/
theorem Costs.pays {p : ExceptT ε (Prog E) α} {n : Nat} (hp : Costs price k p.run) (hk : k ≤ n) :
    Pays price (OnSuccess fun _ left => n - k ≤ left) p.run n :=
  (hp.afford (n - k)).mono (by omega) fun _ _ _ hle h _ _ => Nat.le_trans h hle

end Costs

end ProgLib

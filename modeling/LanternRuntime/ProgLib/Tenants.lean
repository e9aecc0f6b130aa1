import LanternRuntime.ProgLib.Session
/-!
# Objects that share a world

Any number of tenants, each an object with a state of its own, serve calls
against one world, each through its own handler. `Shared` is a run of their
calls in any order. A tenant that panics serves no more, the others go on.

To a tenant the rest is an outside that answers as it likes
(`Shared.session`), so what holds of every `Session` holds of it. Three rules
say more: `Shared.inv` for the world and the whole history,
`Shared.isolated` for worlds made of objects that do not depend on each other,
and `Shared.sim` for two ways to reach one world.
-/

namespace ProgLib

variable {E E' : Sig} {ι S S' C R O V σ τ : Type}

/-- The calls of `hist`, each served by its tenant, lead from `s₀` and `w₀` to `s` and `w`, where
a tenant that has panicked is `none`. -/
inductive Shared [DecidableEq ι] (h : ι → Handler E σ) (step : S → C → Prog E (S × R)) (s₀ : ι → S) (w₀ : σ) :
    List (ι × Step E C R) → (ι → Option S) → σ → Prop
  | nil : Shared h step s₀ w₀ [] (fun i => some (s₀ i)) w₀
  | served {hist s w i x c x' r w'} : Shared h step s₀ w₀ hist s w → s i = some x →
      (step x c).run (h i) w = (.ret (x', r), w') →
      Shared h step s₀ w₀ (hist ++ [(i, ⟨c, r, (step x c).trace (h i) w⟩)]) (Function.update s i (some x')) w'
  | panicked {hist s w i x c msg w'} : Shared h step s₀ w₀ hist s w → s i = some x →
      (step x c).run (h i) w = (.panic msg, w') →
      Shared h step s₀ w₀ hist (Function.update s i none) w'

/-- The steps of one tenant. -/
def stepsOf [DecidableEq ι] (i : ι) (hist : List (ι × Step E C R)) : List (Step E C R) :=
  (hist.filter fun e => e.1 = i).map Prod.snd

section Shared
variable [DecidableEq ι] {h : ι → Handler E σ} {step : S → C → Prog E (S × R)} {s₀ : ι → S} {w₀ w : σ}
  {hist : List (ι × Step E C R)} {s : ι → Option S} {i j : ι} {e : Step E C R}

@[simp] theorem stepsOf_snoc_self : stepsOf i (hist ++ [(i, e)]) = stepsOf i hist ++ [e] := by
  simp [stepsOf]

@[simp] theorem stepsOf_snoc_ne (hj : j ≠ i) : stepsOf i (hist ++ [(j, e)]) = stepsOf i hist := by
  simp [stepsOf, hj]

/-- The steps of each tenant are a session of its own. -/
theorem Shared.session (hs : Shared h step s₀ w₀ hist s w) {x : S} (hx : s i = some x) :
    Session step (s₀ i) (stepsOf i hist) x := by
  induction hs generalizing x with
  | nil =>
    cases hx
    exact .nil
  | @served hist s w j y c y' r w' hs hy hr ih =>
    by_cases hj : j = i
    · subst hj
      rw [Function.update_self] at hx
      cases hx
      rw [stepsOf_snoc_self]
      exact (ih hy).snoc (by simpa only [hr] using runs_run (h j) (step y c) w)
    · rw [Function.update_of_ne (Ne.symm hj)] at hx
      rw [stepsOf_snoc_ne hj]
      exact ih hx
  | @panicked hist s w j y c msg w' hs hy hr ih =>
    by_cases hj : j = i
    · subst hj
      rw [Function.update_self] at hx
      cases hx
    · rw [Function.update_of_ne (Ne.symm hj)] at hx
      exact ih hx

/-- Any step was served in a state that the steps before it lead to. -/
theorem Shared.at {pre post : List (ι × Step E C R)} (hs : Shared h step s₀ w₀ (pre ++ (i, e) :: post) s w) :
    ∃ s₁ w₁ x x' w₂, Shared h step s₀ w₀ pre s₁ w₁ ∧ s₁ i = some x ∧
      (step x e.call).run (h i) w₁ = (.ret (x', e.reply), w₂) := by
  generalize hl : pre ++ (i, e) :: post = l at hs
  induction hs generalizing post with
  | nil => simp at hl
  | @served hist s w j x c x' r w' hs hx hr ih =>
    rcases List.eq_nil_or_concat post with rfl | ⟨post', e', rfl⟩
    · obtain ⟨rfl, he⟩ := List.append_inj' hl rfl
      cases he
      exact ⟨s, w, x, x', w', hs, hx, hr⟩
    · rw [List.concat_eq_append, ← List.cons_append, ← List.append_assoc] at hl
      obtain ⟨hl', -⟩ := List.append_inj' hl rfl
      exact ih hl'
  | panicked hs hx hr ih => exact ih hl

/-- What every served call and every panic keeps holds of the world and the whole history. -/
theorem Shared.inv {I : List (ι × Step E C R) → σ → Prop} (hs : Shared h step s₀ w₀ hist s w) (h0 : I [] w₀)
    (hserved : ∀ {hist s w i x c x' r w'}, Shared h step s₀ w₀ hist s w → I hist w → s i = some x →
      (step x c).run (h i) w = (.ret (x', r), w') → I (hist ++ [(i, ⟨c, r, (step x c).trace (h i) w⟩)]) w')
    (hpanicked : ∀ {hist s w i x c msg w'}, Shared h step s₀ w₀ hist s w → I hist w → s i = some x →
      (step x c).run (h i) w = (.panic msg, w') → I hist w') : I hist w := by
  induction hs with
  | nil => exact h0
  | served hs hx hr ih => exact hserved hs ih hx hr
  | panicked hs hx hr ih => exact hpanicked hs ih hx hr

end Shared

/-! ## Worlds made of objects -/

/-- Every call is about one object: it sees that object only, and changes no other. -/
structure Objects (h : ι → Handler E σ) (of : ι → E.Call → O) (V : Type) where
  view : σ → O → V
  answers : ∀ i c w w', view w (of i c) = view w' (of i c) →
    (h i c w).1 = (h i c w').1 ∧ view (h i c w).2 (of i c) = view (h i c w').2 (of i c)
  others : ∀ i c w o, o ≠ of i c → view (h i c w).2 o = view w o

section Objects
variable {h : ι → Handler E σ} {of : ι → E.Call → O} {i : ι} {α : Type} {p : Prog E α} {w w' : σ}

/-- No call changes it. -/
def Objects.Fixed (B : Objects h of V) (o : O) : Prop := ∀ i c w, of i c = o → B.view (h i c w).2 o = B.view w o

/-- A program that may see an object, but not change it. -/
theorem Objects.run_keeps (B : Objects h of V) {o : O} (hp : Only (fun c => of i c = o → B.Fixed o) p) :
    B.view (p.run (h i) w).2 o = B.view w o := by
  induction p generalizing w with
  | ret a => rfl
  | panic msg => rfl
  | call c k ih =>
    rw [Prog.run_call, ih _ (hp.2 _)]
    by_cases hc : of i c = o
    · exact hp.1 hc i c w hc
    · exact B.others i c w o (Ne.symm hc)

/-- From worlds with the same objects in `P`, a program that keeps to `P` runs the same, and
leaves them the same. -/
theorem Objects.run_alike (B : Objects h of V) {P : O → Prop} (hp : Only (fun c => P (of i c)) p)
    (hw : ∀ o, P o → B.view w o = B.view w' o) :
    (p.run (h i) w).1 = (p.run (h i) w').1 ∧ p.trace (h i) w = p.trace (h i) w' ∧
      ∀ o, P o → B.view (p.run (h i) w).2 o = B.view (p.run (h i) w').2 o := by
  induction p generalizing w w' with
  | ret a => exact ⟨rfl, rfl, hw⟩
  | panic msg => exact ⟨rfl, rfl, hw⟩
  | call c k ih =>
    obtain ⟨hans, hview⟩ := B.answers i c w w' (hw _ hp.1)
    have hnext : ∀ o, P o → B.view (h i c w).2 o = B.view (h i c w').2 o := by
      intro o ho
      by_cases hc : o = of i c
      · rw [hc]
        exact hview
      · rw [B.others i c w o hc, B.others i c w' o hc]
        exact hw o ho
    rw [Prog.run_call, Prog.run_call, Prog.trace_call, Prog.trace_call, ← hans]
    obtain ⟨hrun, htrace, hviews⟩ := ih (h i c w).1 (hp.2 _) hnext
    exact ⟨hrun, by rw [htrace], hviews⟩

end Objects

/-! ## Isolation -/

section Isolated
variable [DecidableEq ι] {h : ι → Handler E σ} {of : ι → E.Call → O} {step : S → C → Prog E (S × R)} {s₀ : ι → S}
  {w₀ w w' : σ} {hist : List (ι × Step E C R)} {s s' : ι → Option S} {names : ι → O → Prop} {group : ι → Bool}
  {i : ι} {α : Type} {p : Prog E α}

/-- The tenants of `group` are in the same states, and so are the objects that they name. -/
structure SameTo (B : Objects h of V) (names : ι → O → Prop) (group : ι → Bool) (s s' : ι → Option S) (w w' : σ) :
    Prop where
  states : ∀ i, group i = true → s' i = s i
  objects : ∀ i o, group i = true → names i o → B.view w' o = B.view w o

variable {B : Objects h of V}

/-- What one of them does goes the same in both. -/
theorem SameTo.member (hv : SameTo B names group s s' w w') (hi : group i = true)
    (hp : Only (fun c => names i (of i c)) p) :
    p.run (h i) w' = ((p.run (h i) w).1, (p.run (h i) w').2) ∧ p.trace (h i) w' = p.trace (h i) w ∧
      ∀ y, SameTo B names group (Function.update s i y) (Function.update s' i y) (p.run (h i) w).2
        (p.run (h i) w').2 := by
  obtain ⟨hrun, htrace, hviews⟩ := B.run_alike (P := fun o => ∃ i, group i = true ∧ names i o)
    (hp.mono fun c hc => ⟨i, hi, hc⟩) fun o ⟨i, hi, ho⟩ => hv.objects i o hi ho
  refine ⟨Prod.ext hrun rfl, htrace, fun y => ⟨fun j hj => ?_, fun j o hj ho => hviews o ⟨j, hj, ho⟩⟩⟩
  by_cases hji : j = i
  · rw [hji, Function.update_self, Function.update_self]
  · rw [Function.update_of_ne hji, Function.update_of_ne hji]
    exact hv.states j hj

/-- What another does is not visible, if it shares only fixed objects with them. -/
theorem SameTo.outsider (hv : SameTo B names group s s' w w') (hi : group i = false)
    (hsep : ∀ j o, group j = true → names j o → names i o → B.Fixed o) (hp : Only (fun c => names i (of i c)) p)
    (y : Option S) : SameTo B names group (Function.update s i y) s' (p.run (h i) w).2 w' where
  states j hj := by
    have hji : j ≠ i := by
      rintro rfl
      rw [hi] at hj
      cases hj
    rw [Function.update_of_ne hji]
    exact hv.states j hj
  objects j o hj ho := by
    rw [B.run_keeps (hp.mono fun c hc hof => hsep j o hj ho (hof ▸ hc))]
    exact hv.objects j o hj ho

variable (B names group) in
/-- Take the steps of all tenants outside of `group` out of a run. If no object that a call can
change is named on both sides, the rest is a run, and all is the same to those of `group`. -/
theorem Shared.isolated
    (hnames : ∀ {i hist x}, Session step (s₀ i) hist x → ∀ c, Only (fun c => names i (of i c)) (step x c))
    (hsep : ∀ i j o, group i = true → group j = false → names i o → names j o → B.Fixed o)
    (hs : Shared h step s₀ w₀ hist s w) :
    ∃ s' w', Shared h step s₀ w₀ (hist.filter fun e => group e.1) s' w' ∧ SameTo B names group s s' w w' := by
  induction hs with
  | nil => exact ⟨_, _, .nil, fun _ _ => rfl, fun _ _ _ _ => rfl⟩
  | @served hist s w i x c x' r w₁ hs hx hr ih =>
    -- A step of a member goes the same in both runs; one of an outsider is left out.
    obtain ⟨s', w', hs', hv⟩ := ih
    have hp := hnames (hs.session hx) c
    rw [List.filter_append, List.filter_singleton]
    cases hi : group i with
    | true =>
      obtain ⟨hrun, htrace, hv'⟩ := hv.member hi hp
      rw [hr] at hrun hv'
      rw [cond_true, ← htrace]
      exact ⟨_, _, hs'.served ((hv.states i hi).trans hx) hrun, hv' _⟩
    | false =>
      have hv' := hv.outsider hi (fun j o hj => hsep j i o hj hi) hp (some x')
      rw [hr] at hv'
      rw [cond_false, List.append_nil]
      exact ⟨s', w', hs', hv'⟩
  | @panicked hist s w i x c msg w₁ hs hx hr ih =>
    obtain ⟨s', w', hs', hv⟩ := ih
    have hp := hnames (hs.session hx) c
    cases hi : group i with
    | true =>
      obtain ⟨hrun, -, hv'⟩ := hv.member hi hp
      rw [hr] at hrun hv'
      exact ⟨_, _, hs'.panicked ((hv.states i hi).trans hx) hrun, hv' _⟩
    | false =>
      have hv' := hv.outsider hi (fun j o hj => hsep j i o hj hi) hp none
      rw [hr] at hv'
      exact ⟨s', w', hs', hv'⟩

end Isolated

/-! ## Simulation -/

section Sim
variable [DecidableEq ι] {h : ι → Handler E σ} {h' : ι → Handler E' τ} {step : S → C → Prog E (S × R)}
  {step' : S' → C → Prog E' (S' × R)} {s₀ : ι → S} {s₀' : ι → S'} {w₀ w : σ} {w₀' : τ} {hist : List (ι × Step E C R)}
  {s : ι → Option S} {R' : σ → τ → Prop} {V : ι → S → S' → Prop}

/-- What was asked of whom, and what came back. -/
def visible (e : ι × Step E C R) : ι × C × R := (e.1, e.2.call, e.2.reply)

omit [DecidableEq ι] in
theorem visible_filter {hist : List (ι × Step E C R)} {hist' : List (ι × Step E' C R)}
    (hv : hist'.map visible = hist.map visible) (p : ι → Bool) :
    (hist'.filter fun e => p e.1).map visible = (hist.filter fun e => p e.1).map visible := by
  have h := congrArg (List.filter fun v => p v.1) hv
  rwa [List.filter_map, List.filter_map] at h

theorem rel_update {i : ι} {s' : ι → Option S'} {x : Option S} {x' : Option S'}
    (hv : ∀ i, Option.Rel (V i) (s i) (s' i)) (hx : Option.Rel (V i) x x') (j : ι) :
    Option.Rel (V j) (Function.update s i x j) (Function.update s' i x' j) := by
  by_cases hj : j = i
  · subst hj
    rw [Function.update_self, Function.update_self]
    exact hx
  · rw [Function.update_of_ne hj, Function.update_of_ne hj]
    exact hv j

theorem rel_some {A A' : Type} {W : A → A' → Prop} {a : A} {x' : Option A'} (hx : Option.Rel W (some a) x') :
    ∃ a', x' = some a' ∧ W a a' := by
  cases hx with
  | some hw => exact ⟨_, rfl, hw⟩

/-- What related states agree on. -/
theorem rel_map {A A' α : Type} {W : A → A' → Prop} {f : A → α} {f' : A' → α} (hf : ∀ a a', W a a' → f a = f' a')
    {x : Option A} {x' : Option A'} (hx : Option.Rel W x x') : x.map f = x'.map f' := by
  cases hx with
  | some hw => exact congrArg some (hf _ _ hw)
  | none => rfl

/-- Tenants that are served alike on both sides, each by itself, are served alike together. -/
theorem Shared.sim (hsim : ∀ i, StepSim (fun _ => True) (h i) (h' i) R' (V i) step step')
    (hv₀ : ∀ i, V i (s₀ i) (s₀' i)) (hw₀ : R' w₀ w₀') (hs : Shared h step s₀ w₀ hist s w) :
    ∃ hist' s' w', Shared h' step' s₀' w₀' hist' s' w' ∧ hist'.map visible = hist.map visible ∧
      (∀ i, Option.Rel (V i) (s i) (s' i)) ∧ R' w w' := by
  induction hs with
  | nil => exact ⟨[], _, w₀', .nil, rfl, fun i => .some (hv₀ i), hw₀⟩
  | @served hist s w i x c x₁ r w₁ hs hx hr ih =>
    obtain ⟨hist', s', w', hs', hseen, hv, hw⟩ := ih
    obtain ⟨x', hx', hvi⟩ := rel_some (hx ▸ hv i)
    obtain ⟨hout, hw'⟩ := hsim i c trivial x x' hvi w w' hw
    rw [hr] at hout hw'
    generalize hr' : (step' x' c).run (h' i) w' = y at hout hw'
    obtain ⟨⟨x₁', r'⟩ | msg, w₁'⟩ := y
    · obtain ⟨hv', rfl⟩ := hout
      refine ⟨_, _, w₁', hs'.served hx' hr', ?_, rel_update hv (.some hv'), hw'⟩
      rw [List.map_append, List.map_append, hseen]
      rfl
    · exact hout.elim
  | @panicked hist s w i x c msg w₁ hs hx hr ih =>
    obtain ⟨hist', s', w', hs', hseen, hv, hw⟩ := ih
    obtain ⟨x', hx', hvi⟩ := rel_some (hx ▸ hv i)
    obtain ⟨hout, hw'⟩ := hsim i c trivial x x' hvi w w' hw
    rw [hr] at hout hw'
    generalize hr' : (step' x' c).run (h' i) w' = y at hout hw'
    obtain ⟨⟨x₁', r'⟩ | msg', w₁'⟩ := y
    · exact hout.elim
    · exact ⟨hist', _, w₁', hs'.panicked hx' hr', hseen, rel_update hv .none, hw'⟩

end Sim

end ProgLib

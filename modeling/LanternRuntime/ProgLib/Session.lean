import LanternRuntime.ProgLib.Rules
/-!
# Sessions with a reactive object

An object with state `S` serves calls of type `C`: `step s c` is the code that
serves `c` in state `s`, and returns the next state and a reply.

`Session` is a run of calls against an outside that answers as it likes, and
`Served` one against a handler. Both list what each call did, so a property of
"every finite sequence of calls, in any order" is one about every `Session` or
every `Served`. `serve` is the same as a function of the calls, and `play` lets
a strategy choose each call from the replies so far.
-/

namespace ProgLib

variable {E E' : Sig} {S S' C R σ σ' : Type}

/-- A served call: what was asked, what came back, and what happened outside. -/
structure Step (E : Sig) (C R : Type) where
  call : C
  reply : R
  trace : List (Event E)

/-- The calls of `hist`, served one after the other from `s₀`, lead to `s`. -/
inductive Session (step : S → C → Prog E (S × R)) (s₀ : S) : List (Step E C R) → S → Prop
  | nil : Session step s₀ [] s₀
  | snoc {hist s c tr s' r} : Session step s₀ hist s → Runs (step s c) tr (.ret (s', r)) →
      Session step s₀ (hist ++ [⟨c, r, tr⟩]) s'

/-- As `Session`, against a handler that starts in `w₀` and ends in `w`. -/
inductive Served (h : Handler E σ) (step : S → C → Prog E (S × R)) (s₀ : S) (w₀ : σ) :
    List (Step E C R) → S → σ → Prop
  | nil : Served h step s₀ w₀ [] s₀ w₀
  | snoc {hist s w c s' r w'} : Served h step s₀ w₀ hist s w →
      (step s c).run h w = (.ret (s', r), w') →
      Served h step s₀ w₀ (hist ++ [⟨c, r, (step s c).trace h w⟩]) s' w'

section Session
variable {step : S → C → Prog E (S × R)} {s₀ s : S} {hist : List (Step E C R)}

/-- An invariant of history and state, kept by every served call, holds after every session. -/
theorem Session.inv {I : List (Step E C R) → S → Prop} (h : Session step s₀ hist s) (h0 : I [] s₀)
    (hs : ∀ hist s c tr s' r, I hist s → Runs (step s c) tr (.ret (s', r)) → I (hist ++ [⟨c, r, tr⟩]) s') :
    I hist s := by
  induction h with
  | nil => exact h0
  | snoc _ hr ih => exact hs _ _ _ _ _ _ ih hr

/-- Any step of a session was served in a state that the steps before it lead to. -/
theorem Session.at {pre post : List (Step E C R)} {e : Step E C R}
    (h : Session step s₀ (pre ++ e :: post) s) :
    ∃ s₁ s₂, Session step s₀ pre s₁ ∧ Runs (step s₁ e.call) e.trace (.ret (s₂, e.reply)) := by
  generalize hl : pre ++ e :: post = l at h
  induction h generalizing post with
  | nil => simp at hl
  | @snoc hist s c tr s' r h' hr ih =>
    rcases List.eq_nil_or_concat post with rfl | ⟨post', e', rfl⟩
    · obtain ⟨rfl, he⟩ := List.append_inj' hl rfl
      cases he
      exact ⟨s, s', h', hr⟩
    · rw [List.concat_eq_append, ← List.cons_append, ← List.append_assoc] at hl
      obtain ⟨hl', -⟩ := List.append_inj' hl rfl
      exact ih hl'

variable {h : Handler E σ} {w₀ w : σ}

theorem Served.session (hs : Served h step s₀ w₀ hist s w) : Session step s₀ hist s := by
  induction hs with
  | nil => exact .nil
  | @snoc hist s w c s' r w' _ hr ih => exact ih.snoc (by simpa only [hr] using runs_run h (step s c) w)

theorem Served.inv {I : List (Step E C R) → S → σ → Prop} (hs : Served h step s₀ w₀ hist s w)
    (h0 : I [] s₀ w₀) (hi : ∀ hist s w c s' r w', I hist s w → (step s c).run h w = (.ret (s', r), w') →
      I (hist ++ [⟨c, r, (step s c).trace h w⟩]) s' w') : I hist s w := by
  induction hs with
  | nil => exact h0
  | snoc _ hr ih => exact hi _ _ _ _ _ _ _ ih hr

/-- Sessions compose. -/
theorem Served.append {s₁ : S} {w₁ : σ} {hist' : List (Step E C R)} (h₁ : Served h step s₀ w₀ hist s₁ w₁)
    (h₂ : Served h step s₁ w₁ hist' s w) : Served h step s₀ w₀ (hist ++ hist') s w := by
  induction h₂ with
  | nil => simpa using h₁
  | snoc _ hr ih => rw [← List.append_assoc]; exact ih.snoc hr

end Session

/-! ## Sessions as functions -/

/-- Serve a list of calls. -/
def serve (step : S → C → Prog E (S × R)) : List C → S → Prog E (S × List R)
  | [], s => .ret (s, [])
  | c :: cs, s => do
    let (s', r) ← step s c
    let (s'', rs) ← serve step cs s'
    return (s'', r :: rs)

/-- Serve a list of calls against a handler and keep the history, unless one panics. -/
def replay (h : Handler E σ) (step : S → C → Prog E (S × R)) :
    List C → S → σ → Option (List (Step E C R) × S × σ)
  | [], s, w => some ([], s, w)
  | c :: cs, s, w =>
    match (step s c).run h w with
    | (.ret (s', r), w') =>
      (replay h step cs s' w').map fun (hist, x) => (⟨c, r, (step s c).trace h w⟩ :: hist, x)
    | (.panic _, _) => none

theorem replay_served (h : Handler E σ) (step : S → C → Prog E (S × R)) (cs : List C) {s s' : S} (w w' : σ)
    {hist : List (Step E C R)} (hr : replay h step cs s w = some (hist, s', w')) :
    Served h step s w hist s' w' := by
  induction cs generalizing s w hist with
  | nil => cases hr; exact .nil
  | cons c cs ih =>
    unfold replay at hr
    split at hr
    · next s₁ r w₁ hc =>
      obtain ⟨⟨hist₁, x⟩, h₁, he⟩ := Option.map_eq_some_iff.1 hr
      cases he
      exact (Served.nil.snoc hc).append (ih w₁ h₁)
    · cases hr

/-- Where every call can be served and keeps an invariant, every list of calls can, and does. -/
theorem replay_inv {h : Handler E σ} {step : S → C → Prog E (S × R)} {I : List (Step E C R) → S → σ → Prop}
    (hi : ∀ hist s w c, I hist s w → ∃ s' r w', (step s c).run h w = (.ret (s', r), w') ∧
      I (hist ++ [⟨c, r, (step s c).trace h w⟩]) s' w')
    (cs : List C) {hist : List (Step E C R)} {s : S} {w : σ} (h0 : I hist s w) :
    ∃ hist' s' w', replay h step cs s w = some (hist', s', w') ∧ I (hist ++ hist') s' w' := by
  induction cs generalizing hist s w with
  | nil => exact ⟨[], s, w, rfl, by simpa using h0⟩
  | cons c cs ih =>
    obtain ⟨s₁, r, w₁, hrun, h1⟩ := hi hist s w c h0
    obtain ⟨hist', s', w', hrep, h'⟩ := ih h1
    refine ⟨⟨c, r, (step s c).trace h w⟩ :: hist', s', w', ?_, by simpa using h'⟩
    simp only [replay, hrun, hrep, Option.map_some]

/-- Serve `n` calls, each chosen by `g` from the replies `rs` so far. -/
def play (step : S → C → Prog E (S × R)) (g : List R → C) : Nat → List R → S → Prog E (S × List R)
  | 0, rs, s => .ret (s, rs)
  | n + 1, rs, s => do
    let (s', r) ← step s (g rs)
    play step g n (rs ++ [r]) s'

/-- What was played is a session in which every call was chosen by `g`. -/
theorem play_served {h : Handler E σ} {step : S → C → Prog E (S × R)} {g : List R → C} {n : Nat} {rs rs' : List R}
    {s s' : S} {w w' : σ} (hr : (play step g n rs s).run h w = (.ret (s', rs'), w')) :
    ∃ hist, Served h step s w hist s' w' ∧ rs' = rs ++ hist.map Step.reply ∧
      ∀ pre e post, hist = pre ++ e :: post → e.call = g (rs ++ pre.map Step.reply) := by
  induction n generalizing rs s w with
  | zero =>
    cases hr
    exact ⟨[], .nil, by simp, fun pre e post he => by simp at he⟩
  | succ n ih =>
    unfold play at hr
    cases hc : (step s (g rs)).run h w with
    | mk o w₁ =>
      rw [Prog.run_bind, hc] at hr
      rcases o with ⟨s₁, r⟩ | msg
      · obtain ⟨hist, hs, rfl, hg⟩ := ih hr
        refine ⟨⟨g rs, r, _⟩ :: hist, (Served.nil.snoc hc).append hs, by simp, ?_⟩
        intro pre e post he
        rcases pre with _ | ⟨e', pre⟩
        · cases he
          simp
        · obtain ⟨rfl, htl⟩ := List.cons.inj he
          simpa using hg pre e post htl
      · cases hr

/-! ## Simulation of sessions -/

section Sim
variable {h : Handler E σ} {h' : Handler E' σ'} {R' : σ → σ' → Prop} {V : S → S' → Prop}
  {step : S → C → Prog E (S × R)} {step' : S' → C → Prog E' (S' × R)}

/-- Each call that `P` admits gets the same reply on both sides and leaves related states. -/
def StepSim (P : C → Prop) (h : Handler E σ) (h' : Handler E' σ') (R' : σ → σ' → Prop) (V : S → S' → Prop)
    (step : S → C → Prog E (S × R)) (step' : S' → C → Prog E' (S' × R)) : Prop :=
  ∀ c, P c → ∀ s s', V s s' → Sim h h' R' (fun x y => V x.1 y.1 ∧ x.2 = y.2) (step s c) (step' s' c)

theorem StepSim.flip {P : C → Prop} (hs : StepSim P h h' R' V step step') :
    StepSim P h' h (Function.swap R') (Function.swap V) step' step := by
  intro c hc s' s hv
  refine (hs c hc s s' hv).flip.mono ?_
  rintro x y ⟨hxy, hr⟩
  exact ⟨hxy, hr.symm⟩

/-- Then so does every list of such calls. -/
theorem StepSim.serve {P : C → Prop} (hs : StepSim P h h' R' V step step') {cs : List C} (hcs : ∀ c ∈ cs, P c)
    {s : S} {s' : S'} (hv : V s s') :
    Sim h h' R' (fun x y => V x.1 y.1 ∧ x.2 = y.2) (serve step cs s) (serve step' cs s') := by
  induction cs generalizing s s' with
  | nil => exact .ret ⟨hv, rfl⟩
  | cons c cs ih =>
    have hcs' : ∀ c ∈ cs, P c := fun c hc => hcs c (List.mem_cons_of_mem _ hc)
    refine (hs c (hcs c List.mem_cons_self) s s' hv).bind ?_
    rintro ⟨t, r⟩ ⟨t', r'⟩ ⟨ht, rfl⟩
    refine (ih hcs' ht).bind ?_
    rintro ⟨u, rs⟩ ⟨u', rs'⟩ ⟨hu, rfl⟩
    exact .ret ⟨hu, rfl⟩

/-- And every strategy that makes only such calls. -/
theorem StepSim.play {P : C → Prop} (hs : StepSim P h h' R' V step step') {g : List R → C} (hg : ∀ rs, P (g rs))
    (n : Nat) (rs : List R) {s : S} {s' : S'} (hv : V s s') :
    Sim h h' R' (fun x y => V x.1 y.1 ∧ x.2 = y.2) (play step g n rs s) (play step' g n rs s') := by
  induction n generalizing rs s s' with
  | zero => exact .ret ⟨hv, rfl⟩
  | succ n ih =>
    refine (hs (g rs) (hg rs) s s' hv).bind ?_
    rintro ⟨t, r⟩ ⟨t', r'⟩ ⟨ht, rfl⟩
    exact ih _ ht

end Sim

end ProgLib

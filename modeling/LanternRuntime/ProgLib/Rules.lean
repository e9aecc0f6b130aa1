import LanternRuntime.ProgLib.Prog
/-!
# Proof rules for programs that call outside

Three ways to reason about a `Prog` without running it.

`Ensures ok Q p tr`: started after the history `tr`, every call `p` makes is
allowed by what was answered before it (`ok`), and `Q` holds when it ends,
whatever the outside answers. `Ensures.sound` turns it into a statement about
every run, and `Ensures.bind` composes it.

`Returns A Q p`: answered within `A`, `p` does not panic, and returns a value in
`Q`.

`Sim h h' R V p q`: from states related by `R`, `p` against `h` and `q`
against `h'` end alike, with values related by `V`, in related states.
-/

namespace ProgLib

variable {E E' : Sig} {α β γ δ σ σ' : Type}

/-! ## Calls allowed by the history -/

/-- The weakest condition on the history `tr` under which `p` only makes calls
`ok` allows and ends with `Q`. -/
def Ensures (ok : List (Event E) → E.Call → Prop) (Q : List (Event E) → Outcome α → Prop) :
    Prog E α → List (Event E) → Prop
  | .ret a, tr => Q tr (.ret a)
  | .panic msg, tr => Q tr (.panic msg)
  | .call c k, tr => ok tr c ∧ ∀ a, Ensures ok Q (k a) (tr ++ [⟨c, a⟩])

section Ensures
variable {ok : List (Event E) → E.Call → Prop}

@[simp] theorem ensures_ret {Q : List (Event E) → Outcome α → Prop} {a : α} {tr : List (Event E)} :
    Ensures ok Q (.ret a) tr ↔ Q tr (.ret a) := Iff.rfl

@[simp] theorem ensures_panic {Q : List (Event E) → Outcome α → Prop} {msg : String} {tr : List (Event E)} :
    Ensures ok Q (.panic msg) tr ↔ Q tr (.panic msg) := Iff.rfl

@[simp] theorem ensures_call {Q : List (Event E) → Outcome α → Prop} {c : E.Call}
    {k : E.Ans c → Prog E α} {tr : List (Event E)} :
    Ensures ok Q (.call c k) tr ↔ ok tr c ∧ ∀ a, Ensures ok Q (k a) (tr ++ [⟨c, a⟩]) := Iff.rfl

theorem Ensures.mono {Q Q' : List (Event E) → Outcome α → Prop} {p : Prog E α} {tr : List (Event E)}
    (h : Ensures ok Q p tr) (hQ : ∀ tr o, Q tr o → Q' tr o) : Ensures ok Q' p tr := by
  induction p generalizing tr with
  | ret a => exact hQ _ _ h
  | panic msg => exact hQ _ _ h
  | call c k ih => exact ⟨h.1, fun a => ih a (h.2 a)⟩

/-- After the first half, the second starts from the history it left. -/
theorem ensures_bind {Q : List (Event E) → Outcome β → Prop} {p : Prog E α} {f : α → Prog E β}
    {tr : List (Event E)} :
    Ensures ok Q (p >>= f) tr ↔ Ensures ok (fun tr' o => match o with
      | .ret a => Ensures ok Q (f a) tr'
      | .panic msg => Q tr' (.panic msg)) p tr := by
  induction p generalizing tr with
  | ret a => rfl
  | panic msg => rfl
  | call c k ih => simp only [Prog.call_bind, ensures_call, ih]

/-- Compose through a condition `M` on the history and value in the middle. -/
theorem Ensures.bind {M : List (Event E) → α → Prop} {Q : List (Event E) → Outcome β → Prop}
    {p : Prog E α} {f : α → Prog E β} {tr : List (Event E)}
    (hp : Ensures ok (fun tr' o => match o with
      | .ret a => M tr' a
      | .panic msg => Q tr' (.panic msg)) p tr)
    (hf : ∀ tr' a, M tr' a → Ensures ok Q (f a) tr') : Ensures ok Q (p >>= f) tr := by
  refine ensures_bind.2 (hp.mono fun tr' o ho => ?_)
  cases o with
  | ret a => exact hf tr' a ho
  | panic msg => exact ho

/-- In every run, every call was allowed by the events before it. -/
theorem Ensures.sound {Q : List (Event E) → Outcome α → Prop} {p : Prog E α} {hist : List (Event E)}
    (h : Ensures ok Q p hist) {tr : List (Event E)} {o : Outcome α} (hr : Runs p tr o) :
    Q (hist ++ tr) o ∧ ∀ pre e post, tr = pre ++ e :: post → ok (hist ++ pre) e.call := by
  induction hr generalizing hist with
  | ret a => exact ⟨by simpa using h, fun pre e post he => by simp at he⟩
  | panic msg => exact ⟨by simpa using h, fun pre e post he => by simp at he⟩
  | call c k a hr ih =>
    obtain ⟨hc, hk⟩ := h
    obtain ⟨hQ, hall⟩ := ih (hk a)
    rw [List.append_assoc] at hQ
    refine ⟨hQ, fun pre e post he => ?_⟩
    rcases pre with _ | ⟨e', pre⟩
    · cases he
      simpa using hc
    · obtain ⟨rfl, htl⟩ := List.cons.inj he
      simpa using hall pre e post htl

/-- The history only grows. -/
theorem Ensures.grows {Q : List (Event E) → Outcome α → Prop} {p : Prog E α} {tr : List (Event E)}
    (h : Ensures ok Q p tr) : Ensures ok (fun tr' o => tr <+: tr' ∧ Q tr' o) p tr := by
  induction p generalizing tr with
  | ret a => exact ⟨List.prefix_refl tr, h⟩
  | panic msg => exact ⟨List.prefix_refl tr, h⟩
  | call c k ih =>
    refine ⟨h.1, fun a => (ih a (h.2 a)).mono ?_⟩
    rintro tr' o ⟨hpre, hQ⟩
    exact ⟨(List.prefix_append tr _).trans hpre, hQ⟩

end Ensures

/-! ## Calls of one kind -/

/-- Whatever it is answered, `p` makes no call outside `P`. -/
def Only (P : E.Call → Prop) : Prog E α → Prop
  | .ret _ => True
  | .panic _ => True
  | .call c k => P c ∧ ∀ a, Only P (k a)

section Only
variable {P : E.Call → Prop}

@[simp] theorem only_ret {a : α} : Only P (.ret a : Prog E α) := trivial
@[simp] theorem only_panic {msg : String} : Only P (.panic msg : Prog E α) := trivial
@[simp] theorem only_call {c : E.Call} {k : E.Ans c → Prog E α} :
    Only P (.call c k) ↔ P c ∧ ∀ a, Only P (k a) := Iff.rfl
@[simp] theorem only_ask {c : E.Call} : Only P (Prog.ask c) ↔ P c := by simp [Prog.ask]

theorem Only.bind {p : Prog E α} {f : α → Prog E β} (hp : Only P p) (hf : ∀ a, Only P (f a)) :
    Only P (p >>= f) := by
  induction p with
  | ret a => exact hf a
  | panic msg => trivial
  | call c k ih => exact ⟨hp.1, fun a => ih a (hp.2 a)⟩

theorem Only.mono {P' : E.Call → Prop} {p : Prog E α} (hp : Only P p) (h : ∀ c, P c → P' c) : Only P' p := by
  induction p with
  | ret a => trivial
  | panic msg => trivial
  | call c k ih => exact ⟨h c hp.1, fun a => ih a (hp.2 a)⟩

/-- Calls that are allowed from now on, and a condition on how every run ends. -/
theorem Only.ensures {ok : List (Event E) → E.Call → Prop} {Q : List (Event E) → Outcome α → Prop}
    {p : Prog E α} {hist : List (Event E)} (hp : Only P p) (hok : ∀ tr c, P c → ok (hist ++ tr) c)
    (hQ : ∀ tr o, Runs p tr o → Q (hist ++ tr) o) : Ensures ok Q p hist := by
  induction p generalizing hist with
  | ret a => simpa using hQ [] _ (.ret a)
  | panic msg => simpa using hQ [] _ (.panic msg)
  | call c k ih =>
    refine ⟨by simpa using hok [] c hp.1, fun a => ih a (hp.2 a) ?_ ?_⟩
    · intro tr c' hc'
      simpa using hok (⟨c, a⟩ :: tr) c' hc'
    · intro tr o hr
      simpa using hQ (⟨c, a⟩ :: tr) o (.call c k a hr)

/-- And what the history grows by is of that kind. -/
theorem Only.grows {ok : List (Event E) → E.Call → Prop} {Q : List (Event E) → Outcome α → Prop}
    {p : Prog E α} {hist : List (Event E)} (hp : Only P p) (h : Ensures ok Q p hist) :
    Ensures ok (fun tr o => (∃ more, tr = hist ++ more ∧ ∀ e ∈ more, P e.call) ∧ Q tr o) p hist := by
  induction p generalizing hist with
  | ret a => exact ⟨⟨[], by simp, nofun⟩, h⟩
  | panic msg => exact ⟨⟨[], by simp, nofun⟩, h⟩
  | call c k ih =>
    refine ⟨h.1, fun a => (ih a (hp.2 a) (h.2 a)).mono ?_⟩
    rintro tr o ⟨⟨more, rfl, hmore⟩, hQ⟩
    refine ⟨⟨⟨c, a⟩ :: more, by simp, ?_⟩, hQ⟩
    intro e he
    rcases List.mem_cons.1 he with rfl | he
    · exact hp.1
    · exact hmore e he

theorem Only.runs {p : Prog E α} (hp : Only P p) {tr : List (Event E)} {o : Outcome α} (hr : Runs p tr o) :
    ∀ e ∈ tr, P e.call := by
  induction hr with
  | ret a => exact nofun
  | panic msg => exact nofun
  | call c k a hr ih =>
    intro e he
    rcases List.mem_cons.1 he with rfl | he
    · exact hp.1
    · exact ih (hp.2 a) e he

end Only

/-! ## Programs that return -/

/-- Whatever it is answered within `A`, `p` does not panic and returns a value in `Q`. -/
def Returns (A : Event E → Prop) (Q : α → Prop) : Prog E α → Prop
  | .ret a => Q a
  | .panic _ => False
  | .call c k => ∀ a, A ⟨c, a⟩ → Returns A Q (k a)

section Returns
variable {A : Event E → Prop} {Q : α → Prop}

@[simp] theorem returns_ret {a : α} : Returns A Q (.ret a) ↔ Q a := Iff.rfl
@[simp] theorem returns_panic {msg : String} : ¬ Returns A Q (.panic msg) := id
@[simp] theorem returns_call {c : E.Call} {k : E.Ans c → Prog E α} :
    Returns A Q (.call c k) ↔ ∀ a, A ⟨c, a⟩ → Returns A Q (k a) := Iff.rfl

theorem Returns.bind {R : β → Prop} {p : Prog E α} {f : α → Prog E β} (hp : Returns A Q p)
    (hf : ∀ a, Q a → Returns A R (f a)) : Returns A R (p >>= f) := by
  induction p with
  | ret a => exact hf a hp
  | panic msg => exact hp.elim
  | call c k ih => exact fun a ha => ih a (hp a ha)

theorem Returns.mono {R : α → Prop} {p : Prog E α} (hp : Returns A Q p) (hQ : ∀ a, Q a → R a) : Returns A R p := by
  induction p with
  | ret a => exact hQ a hp
  | panic msg => exact hp
  | call c k ih => exact fun a ha => ih a (hp a ha)

/-- It returns what its runs return. -/
theorem Returns.known {R : α → Prop} {p : Prog E α} (hp : Returns A Q p)
    (hR : ∀ {tr a}, Runs p tr (.ret a) → R a) : Returns A (fun a => Q a ∧ R a) p := by
  induction p with
  | ret a => exact ⟨hp, hR (.ret a)⟩
  | panic msg => exact hp
  | call c k ih => exact fun a ha => ih a (hp a ha) fun hr => hR (.call c k a hr)

/-- Every run that was answered within `A` ends with a value in `Q`. -/
theorem Returns.runs {p : Prog E α} (hp : Returns A Q p) {tr : List (Event E)} {o : Outcome α} (hr : Runs p tr o)
    (hA : ∀ e ∈ tr, A e) : ∃ a, o = .ret a ∧ Q a := by
  induction hr with
  | ret a => exact ⟨a, rfl, hp⟩
  | panic msg => exact hp.elim
  | call c k a hr ih => exact ih (hp a (hA _ List.mem_cons_self)) fun e he => hA e (List.mem_cons_of_mem _ he)

end Returns

/-! ## Programs that can fail -/

section Except
variable {ε : Type} {ok : List (Event E) → E.Call → Prop}

theorem except_run_bind (p : ExceptT ε (Prog E) α) (f : α → ExceptT ε (Prog E) β) :
    (p >>= f).run = p.run >>= fun x => match x with
      | .ok a => (f a).run
      | .error e => .ret (.error e) := by
  refine congrArg (p.run >>= ·) (funext fun x => ?_)
  cases x <;> rfl

/-- As `runs_bind`; the second half does not run after an error. -/
theorem runs_andThen {p : ExceptT ε (Prog E) α} {f : α → ExceptT ε (Prog E) β} {tr : List (Event E)}
    {o : Outcome (Except ε β)} : Runs (p >>= f).run tr o ↔
      (∃ tr₁ tr₂ a, tr = tr₁ ++ tr₂ ∧ Runs p.run tr₁ (.ret (.ok a)) ∧ Runs (f a).run tr₂ o) ∨
      (∃ e, o = .ret (.error e) ∧ Runs p.run tr (.ret (.error e))) ∨
      (∃ msg, o = .panic msg ∧ Runs p.run tr (.panic msg)) := by
  rw [except_run_bind, runs_bind]
  constructor
  · rintro (⟨tr₁, tr₂, e | a, rfl, hp, hf⟩ | hp)
    · obtain ⟨rfl, rfl⟩ := runs_ret.1 hf
      rw [List.append_nil]
      exact .inr (.inl ⟨e, rfl, hp⟩)
    · exact .inl ⟨tr₁, tr₂, a, rfl, hp, hf⟩
    · exact .inr (.inr hp)
  · rintro (⟨tr₁, tr₂, a, rfl, hp, hf⟩ | ⟨e, rfl, hp⟩ | hp)
    · exact .inl ⟨tr₁, tr₂, .ok a, rfl, hp, hf⟩
    · exact .inl ⟨tr, [], .error e, (List.append_nil tr).symm, hp, .ret _⟩
    · exact .inr hp

/-- Both halves of a success succeeded. -/
theorem runs_andThen_ok {p : ExceptT ε (Prog E) α} {f : α → ExceptT ε (Prog E) β} {tr : List (Event E)} {b : β} :
    Runs (p >>= f).run tr (.ret (.ok b)) ↔
      ∃ tr₁ tr₂ a, tr = tr₁ ++ tr₂ ∧ Runs p.run tr₁ (.ret (.ok a)) ∧ Runs (f a).run tr₂ (.ret (.ok b)) := by
  rw [runs_andThen]
  constructor
  · rintro (h | ⟨e, he, -⟩ | ⟨msg, he, -⟩)
    · exact h
    · cases he
    · cases he
  · exact .inl

/-- One of the halves failed. -/
theorem runs_andThen_error {p : ExceptT ε (Prog E) α} {f : α → ExceptT ε (Prog E) β} {tr : List (Event E)} {e : ε} :
    Runs (p >>= f).run tr (.ret (.error e)) ↔
      (∃ tr₁ tr₂ a, tr = tr₁ ++ tr₂ ∧ Runs p.run tr₁ (.ret (.ok a)) ∧ Runs (f a).run tr₂ (.ret (.error e))) ∨
      Runs p.run tr (.ret (.error e)) := by
  rw [runs_andThen]
  constructor
  · rintro (h | ⟨e', he, h⟩ | ⟨msg, he, -⟩)
    · exact .inl h
    · cases he
      exact .inr h
    · cases he
  · rintro (h | h)
    · exact .inl h
    · exact .inr (.inl ⟨e, rfl, h⟩)

/-- A first half that cannot fail. -/
theorem lift_run_bind (p : Prog E α) (f : α → ExceptT ε (Prog E) β) :
    ((liftM p : ExceptT ε (Prog E) α) >>= f).run = p >>= fun a => (f a).run := by
  rw [except_run_bind]
  exact Prog.bind_assoc p _ _

/-- `M` holds if the program succeeds. -/
def OnOk (M : List (Event E) → α → Prop) (tr : List (Event E)) (o : Outcome (Except ε α)) : Prop :=
  ∀ a, o = .ret (.ok a) → M tr a

theorem OnOk.intro {M : List (Event E) → α → Prop} {tr : List (Event E)} {a : α} (h : M tr a) :
    OnOk (ε := ε) M tr (.ret (.ok a)) := by
  rintro b ⟨⟩
  exact h

theorem OnOk.error {M : List (Event E) → α → Prop} {tr : List (Event E)} {e : ε} : OnOk M tr (.ret (.error e)) :=
  nofun

/-- A program that cannot fail. -/
theorem ensures_lift {M : List (Event E) → α → Prop} {p : Prog E α} {tr : List (Event E)}
    (hp : Ensures ok (fun tr' o => ∀ a, o = .ret a → M tr' a) p tr) :
    Ensures ok (OnOk M) (liftM p : ExceptT ε (Prog E) α).run tr := by
  refine ensures_bind.2 (hp.mono ?_)
  rintro tr' (a | msg) hM
  · exact OnOk.intro (hM a rfl)
  · exact nofun

/-- The second half starts from a longer history, of which `M` holds. -/
theorem Ensures.andThen {M : List (Event E) → α → Prop} {N : List (Event E) → β → Prop}
    {p : ExceptT ε (Prog E) α} {f : α → ExceptT ε (Prog E) β} {tr : List (Event E)}
    (hp : Ensures ok (OnOk M) p.run tr)
    (hf : ∀ tr' a, tr <+: tr' → M tr' a → Ensures ok (OnOk N) (f a).run tr') :
    Ensures ok (OnOk N) (p >>= f).run tr := by
  rw [except_run_bind]
  refine ensures_bind.2 (hp.grows.mono ?_)
  rintro tr' o ⟨hpre, hM⟩
  rcases o with (e | a) | msg
  · rintro b ⟨⟩
  · exact hf tr' a hpre (hM a rfl)
  · rintro b ⟨⟩

theorem Only.lift {P : E.Call → Prop} {p : Prog E α} (hp : Only P p) :
    Only P (liftM p : ExceptT ε (Prog E) α).run :=
  hp.bind fun _ => trivial

theorem Only.andThen {P : E.Call → Prop} {p : ExceptT ε (Prog E) α} {f : α → ExceptT ε (Prog E) β}
    (hp : Only P p.run) (hf : ∀ a, Only P (f a).run) : Only P (p >>= f).run := by
  rw [except_run_bind]
  refine hp.bind ?_
  rintro (e | a)
  · trivial
  · exact hf a

end Except

/-! ## Simulation -/

/-- Both return related values, or both panic with the same message. -/
def OutcomeRel (V : α → β → Prop) : Outcome α → Outcome β → Prop
  | .ret a, .ret b => V a b
  | .panic msg, .panic msg' => msg = msg'
  | _, _ => False

/-- From related states, `p` against `h` and `q` against `h'` end alike, in related states. -/
def Sim (h : Handler E σ) (h' : Handler E' σ') (R : σ → σ' → Prop) (V : α → β → Prop)
    (p : Prog E α) (q : Prog E' β) : Prop :=
  ∀ s s', R s s' → OutcomeRel V (p.run h s).1 (q.run h' s').1 ∧ R (p.run h s).2 (q.run h' s').2

section Sim
variable {h : Handler E σ} {h' : Handler E' σ'} {R : σ → σ' → Prop} {V : α → β → Prop}

theorem Sim.ret {a : α} {b : β} (hv : V a b) : Sim h h' R V (.ret a) (.ret b) :=
  fun _ _ hs => ⟨hv, hs⟩

theorem Sim.panic (msg : String) : Sim h h' R V (.panic msg) (.panic msg) :=
  fun _ _ hs => ⟨rfl, hs⟩

theorem Sim.mono {W : α → β → Prop} {p : Prog E α} {q : Prog E' β} (hp : Sim h h' R V p q)
    (hV : ∀ a b, V a b → W a b) : Sim h h' R W p q := by
  intro s s' hs
  obtain ⟨hv, hs'⟩ := hp s s' hs
  refine ⟨?_, hs'⟩
  revert hv
  cases (p.run h s).1 <;> cases (q.run h' s').1 <;> simp only [OutcomeRel, imp_self]
  exact hV _ _

theorem OutcomeRel.flip {x : Outcome α} {y : Outcome β} (h : OutcomeRel V x y) : OutcomeRel (Function.swap V) y x := by
  cases x <;> cases y <;> first | exact h | exact Eq.symm h

/-- A simulation of `p` by `q` is one of `q` by `p`. -/
theorem Sim.flip {p : Prog E α} {q : Prog E' β} (hp : Sim h h' R V p q) :
    Sim h' h (Function.swap R) (Function.swap V) q p := by
  intro s' s hs
  obtain ⟨hv, hs'⟩ := hp s s' hs
  exact ⟨hv.flip, hs'⟩

theorem Sim.bind {W : γ → δ → Prop} {p : Prog E α} {q : Prog E' β} {f : α → Prog E γ} {g : β → Prog E' δ}
    (hp : Sim h h' R V p q) (hf : ∀ a b, V a b → Sim h h' R W (f a) (g b)) :
    Sim h h' R W (p >>= f) (q >>= g) := by
  intro s s' hs
  obtain ⟨hv, hs'⟩ := hp s s' hs
  rw [Prog.run_bind, Prog.run_bind]
  generalize p.run h s = x at hv hs' ⊢
  generalize q.run h' s' = y at hv hs' ⊢
  obtain ⟨a | msg, t⟩ := x <;> obtain ⟨b | msg', t'⟩ := y <;> simp only [OutcomeRel] at hv
  · exact hf a b hv t t' hs'
  · exact ⟨hv, hs'⟩

end Sim

end ProgLib

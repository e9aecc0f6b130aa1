import Mathlib.Logic.Function.Basic
import Mathlib.Data.List.Basic
/-!
# Programs that call outside

A `Prog E α` is code whose only contact with the outside is a list of calls.
`E` says which calls exist and what each can be answered with. A program
returns, panics, or makes a call and goes on with the answer.

`Runs` executes a program against an outside that answers as it likes, so a
theorem about every `Runs` holds for every behaviour of the outside.
`Prog.run` executes it against a `Handler`, an outside with a state of its own.
-/

namespace ProgLib

/-- The calls an outside offers, and what each can be answered with. -/
structure Sig where
  Call : Type
  Ans : Call → Type

inductive Prog (E : Sig) (α : Type) where
  | ret (a : α)
  | panic (msg : String)
  | call (c : E.Call) (k : E.Ans c → Prog E α)

/-- How a program ends. -/
inductive Outcome (α : Type) where
  | ret (a : α)
  | panic (msg : String)
  deriving DecidableEq, Repr

/-- A call together with the answer it got. -/
structure Event (E : Sig) where
  call : E.Call
  ans : E.Ans call

variable {E E' : Sig} {α β γ σ σ' : Type}

/-! ## Sequencing -/

namespace Prog

def bind : Prog E α → (α → Prog E β) → Prog E β
  | .ret a, f => f a
  | .panic msg, _ => .panic msg
  | .call c k, f => .call c (fun a => (k a).bind f)

instance : Monad (Prog E) where
  pure := .ret
  bind := Prog.bind

/-- Make one call and return its answer. -/
def ask (c : E.Call) : Prog E (E.Ans c) := .call c .ret

@[simp] theorem pure_eq (a : α) : (pure a : Prog E α) = .ret a := rfl
@[simp] theorem ret_bind (a : α) (f : α → Prog E β) : (Prog.ret a >>= f) = f a := rfl
@[simp] theorem panic_bind (msg : String) (f : α → Prog E β) :
    ((Prog.panic msg : Prog E α) >>= f) = .panic msg := rfl
@[simp] theorem call_bind (c : E.Call) (k : E.Ans c → Prog E α) (f : α → Prog E β) :
    (Prog.call c k >>= f) = .call c (fun a => k a >>= f) := rfl
@[simp] theorem ask_bind (c : E.Call) (f : E.Ans c → Prog E β) : (ask c >>= f) = .call c f := rfl

theorem bind_ret (p : Prog E α) : (p >>= Prog.ret) = p := by
  induction p with
  | ret a => rfl
  | panic msg => rfl
  | call c k ih => rw [call_bind]; congr 1; funext a; exact ih a

theorem bind_assoc (p : Prog E α) (f : α → Prog E β) (g : β → Prog E γ) :
    (p >>= f >>= g) = p >>= fun a => f a >>= g := by
  induction p with
  | ret a => rfl
  | panic msg => rfl
  | call c k ih => simp only [call_bind]; congr 1; funext a; exact ih a

instance : LawfulMonad (Prog E) := LawfulMonad.mk' _ bind_ret (fun _ _ => rfl) bind_assoc

end Prog

/-! ## Runs against an arbitrary outside -/

/-- `p` ends as `o` when the outside answers its calls as in `tr`. -/
inductive Runs : Prog E α → List (Event E) → Outcome α → Prop
  | ret (a : α) : Runs (.ret a) [] (.ret a)
  | panic (msg : String) : Runs (.panic msg) [] (.panic msg)
  | call (c : E.Call) (k : E.Ans c → Prog E α) (a : E.Ans c) {tr : List (Event E)} {o : Outcome α} :
      Runs (k a) tr o → Runs (.call c k) (⟨c, a⟩ :: tr) o

theorem runs_ret {a : α} {tr : List (Event E)} {o : Outcome α} :
    Runs (.ret a) tr o ↔ tr = [] ∧ o = .ret a := by
  constructor
  · rintro ⟨⟩; exact ⟨rfl, rfl⟩
  · rintro ⟨rfl, rfl⟩; exact .ret a

theorem runs_panic {msg : String} {tr : List (Event E)} {o : Outcome α} :
    Runs (.panic msg) tr o ↔ tr = [] ∧ o = .panic msg := by
  constructor
  · rintro ⟨⟩; exact ⟨rfl, rfl⟩
  · rintro ⟨rfl, rfl⟩; exact .panic msg

theorem runs_call {c : E.Call} {k : E.Ans c → Prog E α} {tr : List (Event E)} {o : Outcome α} :
    Runs (.call c k) tr o ↔ ∃ a tr', tr = ⟨c, a⟩ :: tr' ∧ Runs (k a) tr' o := by
  constructor
  · rintro (_ | _ | ⟨_, _, a, h⟩); exact ⟨a, _, rfl, h⟩
  · rintro ⟨a, tr', rfl, h⟩; exact .call c k a h

/-- A run of `p >>= f` is a run of `p` followed by one of `f`, unless `p` panics. -/
theorem runs_bind {p : Prog E α} {f : α → Prog E β} {tr : List (Event E)} {o : Outcome β} :
    Runs (p >>= f) tr o ↔
      (∃ tr₁ tr₂ a, tr = tr₁ ++ tr₂ ∧ Runs p tr₁ (.ret a) ∧ Runs (f a) tr₂ o) ∨
      (∃ msg, o = .panic msg ∧ Runs p tr (.panic msg)) := by
  induction p generalizing tr with
  | ret a =>
    simp only [Prog.ret_bind, runs_ret, Outcome.ret.injEq, reduceCtorEq, and_false, exists_false, or_false]
    constructor
    · intro h; exact ⟨[], tr, a, rfl, ⟨rfl, rfl⟩, h⟩
    · rintro ⟨_, _, _, rfl, ⟨rfl, rfl⟩, h⟩; exact h
  | panic msg =>
    simp only [Prog.panic_bind, runs_panic, reduceCtorEq, and_false, false_and, exists_false, false_or]
    constructor
    · rintro ⟨rfl, rfl⟩; exact ⟨msg, rfl, rfl, rfl⟩
    · rintro ⟨_, rfl, rfl, h⟩; cases h; exact ⟨rfl, rfl⟩
  | call c k ih =>
    simp only [Prog.call_bind, runs_call, ih]
    constructor
    · rintro ⟨a, tr', rfl, ⟨tr₁, tr₂, b, rfl, h₁, h₂⟩ | ⟨msg, rfl, h⟩⟩
      · exact .inl ⟨⟨c, a⟩ :: tr₁, tr₂, b, rfl, ⟨a, tr₁, rfl, h₁⟩, h₂⟩
      · exact .inr ⟨msg, rfl, a, tr', rfl, h⟩
    · rintro (⟨_, tr₂, b, rfl, ⟨a, tr₁, rfl, h₁⟩, h₂⟩ | ⟨msg, rfl, a, tr', rfl, h⟩)
      · exact ⟨a, tr₁ ++ tr₂, rfl, .inl ⟨tr₁, tr₂, b, rfl, h₁, h₂⟩⟩
      · exact ⟨a, tr', rfl, .inr ⟨msg, rfl, h⟩⟩

/-- Both halves of a run that returns have returned. -/
theorem runs_bind_value {p : Prog E α} {f : α → Prog E β} {tr : List (Event E)} {b : β} :
    Runs (p >>= f) tr (.ret b) ↔ ∃ tr₁ tr₂ a, tr = tr₁ ++ tr₂ ∧ Runs p tr₁ (.ret a) ∧ Runs (f a) tr₂ (.ret b) := by
  rw [runs_bind]
  constructor
  · rintro (h | ⟨msg, h, -⟩)
    · exact h
    · cases h
  · exact .inl

/-- Post-processing a program's value adds nothing to its runs. -/
theorem runs_bind_ret {p : Prog E α} {f : α → β} {tr : List (Event E)} {b : β} :
    Runs (p >>= fun a => .ret (f a)) tr (.ret b) ↔ ∃ a, Runs p tr (.ret a) ∧ b = f a := by
  rw [runs_bind_value]
  constructor
  · rintro ⟨tr₁, tr₂, a, rfl, h, hf⟩
    obtain ⟨rfl, hb⟩ := runs_ret.1 hf
    rw [List.append_nil]
    exact ⟨a, h, Outcome.ret.inj hb⟩
  · rintro ⟨a, h, rfl⟩
    exact ⟨tr, [], a, (List.append_nil tr).symm, h, .ret _⟩

/-- A program that is one call. -/
theorem runs_call_ret {c : E.Call} {f : E.Ans c → α} {tr : List (Event E)} {b : α}
    (h : Runs (.call c fun a => .ret (f a)) tr (.ret b)) : ∃ a, tr = [⟨c, a⟩] ∧ b = f a := by
  obtain ⟨a, tr', rfl, h'⟩ := runs_call.1 h
  obtain ⟨rfl, he⟩ := runs_ret.1 h'
  exact ⟨a, rfl, Outcome.ret.inj he⟩

/-- The answers decide how a program ends. -/
theorem Runs.det {p : Prog E α} {tr : List (Event E)} {o o' : Outcome α} (h : Runs p tr o) (h' : Runs p tr o') :
    o = o' := by
  induction h with
  | ret a => exact (runs_ret.1 h').2.symm
  | panic msg => exact (runs_panic.1 h').2.symm
  | call c k a h ih =>
    obtain ⟨a', tr', he, hk⟩ := runs_call.1 h'
    cases he
    exact ih hk

/-- And where it ends. -/
theorem Runs.split {p : Prog E α} {tr tr' post post' : List (Event E)} {a a' : α} (h : Runs p tr (.ret a))
    (h' : Runs p tr' (.ret a')) (he : tr ++ post = tr' ++ post') : a = a' ∧ post = post' := by
  generalize ho : Outcome.ret a = o at h
  induction h generalizing tr' with
  | ret b =>
    obtain ⟨rfl, hret⟩ := runs_ret.1 h'
    cases ho
    cases hret
    exact ⟨rfl, he⟩
  | panic msg => cases ho
  | call c k b h ih =>
    obtain ⟨b', tr'', rfl, hk⟩ := runs_call.1 h'
    rw [List.cons_append, List.cons_append] at he
    obtain ⟨hb, htail⟩ := List.cons.inj he
    cases hb
    exact ih hk htail ho

/-! ## Runs against a handler -/

/-- An outside with a state: it answers each call from the state and moves on. -/
def Handler (E : Sig) (σ : Type) : Type := (c : E.Call) → σ → E.Ans c × σ

namespace Prog

def run (h : Handler E σ) : Prog E α → σ → Outcome α × σ
  | .ret a, s => (.ret a, s)
  | .panic msg, s => (.panic msg, s)
  | .call c k, s => (k (h c s).1).run h (h c s).2

/-- The calls `p` makes of `h`, with their answers. -/
def trace (h : Handler E σ) : Prog E α → σ → List (Event E)
  | .ret _, _ => []
  | .panic _, _ => []
  | .call c k, s => ⟨c, (h c s).1⟩ :: (k (h c s).1).trace h (h c s).2

section Run
variable (h : Handler E σ) (s : σ)

@[simp] theorem run_ret (a : α) : (Prog.ret a : Prog E α).run h s = (.ret a, s) := rfl
@[simp] theorem run_panic (msg : String) : (Prog.panic msg : Prog E α).run h s = (.panic msg, s) := rfl
@[simp] theorem run_call (c : E.Call) (k : E.Ans c → Prog E α) :
    (Prog.call c k).run h s = (k (h c s).1).run h (h c s).2 := rfl
@[simp] theorem run_ask (c : E.Call) : (ask c).run h s = (.ret (h c s).1, (h c s).2) := rfl
@[simp] theorem trace_ret (a : α) : (Prog.ret a : Prog E α).trace h s = [] := rfl
@[simp] theorem trace_panic (msg : String) : (Prog.panic msg : Prog E α).trace h s = [] := rfl
@[simp] theorem trace_call (c : E.Call) (k : E.Ans c → Prog E α) :
    (Prog.call c k).trace h s = ⟨c, (h c s).1⟩ :: (k (h c s).1).trace h (h c s).2 := rfl

/-- Run the first half, and the second from where it ended unless it panicked. -/
theorem run_bind (p : Prog E α) (f : α → Prog E β) :
    (p >>= f).run h s = match p.run h s with
      | (.ret a, s') => (f a).run h s'
      | (.panic msg, s') => (.panic msg, s') := by
  induction p generalizing s with
  | ret a => rfl
  | panic msg => rfl
  | call c k ih => rw [call_bind, run_call, ih, run_call]

theorem run_bind_ret {p : Prog E α} {f : α → Prog E β} {a : α} {s' : σ} (hp : p.run h s = (.ret a, s')) :
    (p >>= f).run h s = (f a).run h s' := by
  rw [run_bind, hp]

theorem trace_bind_ret {p : Prog E α} {f : α → Prog E β} {a : α} {s' : σ} (hp : p.run h s = (.ret a, s')) :
    (p >>= f).trace h s = p.trace h s ++ (f a).trace h s' := by
  induction p generalizing s with
  | ret b => cases hp; rfl
  | panic msg => cases hp
  | call c k ih =>
    rw [run_call] at hp
    rw [call_bind, trace_call, trace_call, ih _ _ hp, List.cons_append]

theorem run_bind_panic {p : Prog E α} (f : α → Prog E β) {msg : String} {s' : σ}
    (hp : p.run h s = (.panic msg, s')) : (p >>= f).run h s = (.panic msg, s') := by
  rw [run_bind, hp]

theorem trace_bind_panic {p : Prog E α} (f : α → Prog E β) {msg : String} {s' : σ}
    (hp : p.run h s = (.panic msg, s')) : (p >>= f).trace h s = p.trace h s := by
  induction p generalizing s with
  | ret b => cases hp
  | panic msg => rfl
  | call c k ih =>
    rw [run_call] at hp
    rw [call_bind, trace_call, trace_call, ih _ _ hp]

end Run
end Prog

/-- What a handler does is one way for an arbitrary outside to behave. -/
theorem runs_run (h : Handler E σ) (p : Prog E α) (s : σ) : Runs p (p.trace h s) (p.run h s).1 := by
  induction p generalizing s with
  | ret a => exact .ret a
  | panic msg => exact .panic msg
  | call c k ih => exact .call c k _ (ih _ _)

/-- Where a handler is after it answered the calls of `tr`. -/
def after (h : Handler E σ) : List (Event E) → σ → σ
  | [], s => s
  | e :: tr, s => after h tr (h e.call s).2

/-- The answers of `tr` are those of a handler that starts in `s`. -/
def Answered (h : Handler E σ) : List (Event E) → σ → Prop
  | [], _ => True
  | e :: tr, s => e.ans = (h e.call s).1 ∧ Answered h tr (h e.call s).2

theorem run_snd (h : Handler E σ) (p : Prog E α) (s : σ) : (p.run h s).2 = after h (p.trace h s) s := by
  induction p generalizing s with
  | ret a => rfl
  | panic msg => rfl
  | call c k ih => exact ih _ _

theorem trace_answered (h : Handler E σ) (p : Prog E α) (s : σ) : Answered h (p.trace h s) s := by
  induction p generalizing s with
  | ret a => trivial
  | panic msg => trivial
  | call c k ih => exact ⟨rfl, ih _ _⟩

/-- What holds of every answer holds of every event. -/
theorem trace_within {A : Event E → Prop} {h : Handler E σ} (hA : ∀ c s, A ⟨c, (h c s).1⟩) (p : Prog E α) (s : σ) :
    ∀ e ∈ p.trace h s, A e := by
  induction p generalizing s with
  | ret a => exact nofun
  | panic msg => exact nofun
  | call c k ih =>
    intro e he
    rcases List.mem_cons.1 he with rfl | he
    · exact hA c s
    · exact ih _ _ e he

/-! ## A wider outside -/

/-- How the calls of `E` are made of an outside that offers more. -/
structure Part (E E' : Sig) where
  call : E.Call → E'.Call
  ans : ∀ c, E'.Ans (call c) → E.Ans c

namespace Prog

/-- The same program, of the wider outside. -/
def embed (i : Part E E') : Prog E α → Prog E' α
  | .ret a => .ret a
  | .panic msg => .panic msg
  | .call c k => .call (i.call c) fun a => (k (i.ans c a)).embed i

/-- The rest of that outside is not touched. -/
theorem run_embed {τ : Type} {i : Part E E'} {h : Handler E σ} {h' : Handler E' (σ × τ)}
    (hpart : ∀ c s t, i.ans c (h' (i.call c) (s, t)).1 = (h c s).1 ∧ (h' (i.call c) (s, t)).2 = ((h c s).2, t))
    (p : Prog E α) (s : σ) (t : τ) : (p.embed i).run h' (s, t) = ((p.run h s).1, ((p.run h s).2, t)) := by
  induction p generalizing s with
  | ret a => rfl
  | panic msg => rfl
  | call c k ih =>
    obtain ⟨hans, hnext⟩ := hpart c s t
    change ((k (i.ans c (h' (i.call c) (s, t)).1)).embed i).run h' (h' (i.call c) (s, t)).2 = _
    rw [hans, hnext]
    exact ih _ _

end Prog

end ProgLib

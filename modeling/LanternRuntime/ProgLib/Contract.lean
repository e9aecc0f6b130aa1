import LanternRuntime.ProgLib.Rely
import LanternRuntime.ProgLib.Session
/-!
# Contracts

An object under a contract owes its client answers that `R` allows, as long as
the client's calls keep to what `G` admits; `R` remembers what both have to know
of the past. `Meets` says that one call keeps the contract, and `Meets.served`
that every session does, as long as the client keeps to its side.
-/

namespace ProgLib

variable {E : Sig} {W S C A σ : Type}

/-- Every call is one that `G` admits by then. -/
def Rely.Keeps (R : Rely E W) (G : W → E.Call → Prop) : W → List (Event E) → Prop
  | _, [] => True
  | w, e :: tr => G w e.call ∧ R.Keeps G (R.next w e.call e.ans) tr

section Keeps
variable {R : Rely E W} {G : W → E.Call → Prop} {x : W} {tr₁ tr₂ : List (Event E)}

theorem Rely.keeps_append : R.Keeps G x (tr₁ ++ tr₂) ↔ R.Keeps G x tr₁ ∧ R.Keeps G (R.after x tr₁) tr₂ := by
  induction tr₁ generalizing x with
  | nil => exact (and_iff_right trivial).symm
  | cons e tr₁ ih => exact (and_congr_right fun _ => ih).trans and_assoc.symm

theorem Rely.after_append : R.after x (tr₁ ++ tr₂) = R.after (R.after x tr₁) tr₂ := by
  induction tr₁ generalizing x with
  | nil => rfl
  | cons e tr₁ ih => exact ih

end Keeps

/-- What a client of an object with calls `C` sees. -/
abbrev Client (C A : Type) : Sig := ⟨C, fun _ => A⟩

/-- A served call, as its client sees it. -/
def Step.seen (e : Step E C A) : Event (Client C A) := ⟨e.call, e.reply⟩

/-- What the client saw of a session. -/
def seen (hist : List (Step E C A)) : List (Event (Client C A)) := hist.map Step.seen

@[simp] theorem seen_snoc (hist : List (Step E C A)) (e : Step E C A) : seen (hist ++ [e]) = seen hist ++ [e.seen] :=
  List.map_append

/-- In a state that `V` relates to the past `x`, each call that `G` admits is served as `R` allows. -/
def Meets (R : Rely (Client C A) W) (G : W → C → Prop) (h : Handler E σ) (step : S → C → Prog E (S × A))
    (V : S → σ → W → Prop) : Prop :=
  ∀ s w x c, V s w x → G x c → ∃ s' r w', (step s c).run h w = (.ret (s', r), w') ∧ R.allows x c r ∧
    V s' w' (R.next x c r)

section Meets
variable {R : Rely (Client C A) W} {G : W → C → Prop} {h : Handler E σ} {step : S → C → Prog E (S × A)}
  {V : S → σ → W → Prop} (hmeets : Meets R G h step V) {s₀ s : S} {w₀ w : σ} {x₀ : W} {hist : List (Step E C A)}
include hmeets

theorem Meets.inv (hs : Served h step s₀ w₀ hist s w) (h₀ : V s₀ w₀ x₀) (hkeeps : R.Keeps G x₀ (seen hist)) :
    R.Holds x₀ (seen hist) ∧ V s w (R.after x₀ (seen hist)) := by
  induction hs with
  | nil => exact ⟨trivial, h₀⟩
  | @snoc hist s w c s' r w' _ hrun ih =>
    rw [seen_snoc] at hkeeps
    obtain ⟨hbefore, hnow, -⟩ := Rely.keeps_append.1 hkeeps
    obtain ⟨hholds, hv⟩ := ih hbefore
    obtain ⟨_, _, _, hrun', hallowed, hv'⟩ := hmeets _ _ _ _ hv hnow
    cases hrun.symm.trans hrun'
    rw [seen_snoc]
    refine ⟨Rely.holds_append.2 ⟨hholds, hallowed, trivial⟩, ?_⟩
    rw [Rely.after_append]
    exact hv'

/-- Every session whose calls keep to `G` was answered as `R` allows, and so is its next such call. -/
theorem Meets.served (hs : Served h step s₀ w₀ hist s w) (h₀ : V s₀ w₀ x₀) (hkeeps : R.Keeps G x₀ (seen hist)) :
    R.Holds x₀ (seen hist) ∧ ∀ c, G (R.after x₀ (seen hist)) c → ∃ s' r w',
      (step s c).run h w = (.ret (s', r), w') ∧ R.allows (R.after x₀ (seen hist)) c r := by
  obtain ⟨hholds, hv⟩ := hmeets.inv hs h₀ hkeeps
  refine ⟨hholds, fun c hc => ?_⟩
  obtain ⟨s', r, w', hrun, hallowed, -⟩ := hmeets _ _ _ _ hv hc
  exact ⟨s', r, w', hrun, hallowed⟩

end Meets

end ProgLib

import Mathlib.Data.List.Nodup
import LanternRuntime.ProgLib.Threads
/-!
# Calls that take effect at once

`Interleaved` threads make their calls in many accesses, mixed with those of
others. They are linearizable if their answers are those of the same calls made
one after the other, each with the object to itself, in an order that no two
calls contradict of which one was over before the other began.

`Interleaved.linearizes` is the rule for it: every access of a thread either
changes nothing and leaves it underway, or is the one that ends it and does all
that the call was to do.
-/

namespace ProgLib

variable {E : Sig} {P σ α ι : Type}

/-- What the call of a thread may do with the object to itself: the state it finds, its answer, and the
state it leaves. -/
abbrev Calls (ι σ α : Type) := ι → σ → α → σ → Prop

/-- These calls, one after the other, got these answers. -/
inductive OneByOne (spec : Calls ι σ α) (s₀ : σ) : List (ι × α) → σ → Prop
  | nil : OneByOne spec s₀ [] s₀
  | snoc {order s i a s'} : OneByOne spec s₀ order s → spec i s a s' → OneByOne spec s₀ (order ++ [(i, a)]) s'

/-! ## Calls that were over -/

/-- The accesses of `i` were over before those of `j` began. -/
def Precedes (hist : List (Move E ι σ)) (i j : ι) : Prop :=
  ∃ before after, hist = before ++ after ∧ (∀ m ∈ after, m.thread ≠ i) ∧ ∀ m ∈ before, m.thread ≠ j

section Precedes
variable {hist : List (Move E ι σ)} {m : Move E ι σ} {i j : ι}

/-- If `j` had begun by the last access, `i` was over before that. -/
theorem Precedes.of_snoc (h : Precedes (hist ++ [m]) i j) (hj : ∃ m' ∈ hist ++ [m], m'.thread = j) :
    m.thread ≠ i ∧ Precedes hist i j := by
  obtain ⟨before, after, heq, hafter, hbefore⟩ := h
  rcases List.eq_nil_or_concat after with rfl | ⟨after, m', rfl⟩
  · obtain ⟨m', hm', rfl⟩ := hj
    rw [heq, List.append_nil] at hm'
    exact absurd rfl (hbefore m' hm')
  · rw [List.concat_eq_append, ← List.append_assoc] at heq
    obtain ⟨rfl, hm⟩ := List.append_inj' heq rfl
    cases hm
    exact ⟨hafter _ (by simp), before, after, rfl, fun m' hm' => hafter m' (by simp [hm']), hbefore⟩

end Precedes

/-! ## Linearizations -/

/-- The threads that have ended, in an order in which their calls one by one would have got the same answers and
left the same state. -/
structure Linearizes (code : P → Turn E P α) (spec : Calls ι σ α) (s₀ : σ) (hist : List (Move E ι σ)) (p : ι → P)
    (s : σ) (order : List (ι × α)) : Prop where
  ended : ∀ i a, (i, a) ∈ order ↔ code (p i) = .done a
  once : (order.map Prod.fst).Nodup
  oneByOne : OneByOne spec s₀ order s
  realTime : order.Pairwise fun x y => ¬ Precedes hist y.1 x.1

section Linearizes
variable [DecidableEq ι] {code : P → Turn E P α} {obj : Object E σ} {spec : Calls ι σ α} {s₀ s s' : σ}
  {hist : List (Move E ι σ)} {p : ι → P} {order : List (ι × α)} {i : ι} {e : Event E} {q : P}

omit [DecidableEq ι] in
theorem Advance.underway (ha : Advance code obj (p i) s e q s') (a : α) : code (p i) ≠ .done a := by
  obtain ⟨hp, -⟩ := ha
  rw [hp]
  exact nofun

/-- An access that leaves its thread underway. -/
theorem Linearizes.look (h : Linearizes code spec s₀ hist p s order) (hmoved : ∀ x ∈ order, ∃ m ∈ hist, m.thread = x.1)
    (ha : Advance code obj (p i) s e q s') (hq : ∀ a, code q ≠ .done a) (hs : s' = s) :
    Linearizes code spec s₀ (hist ++ [⟨i, e, s, s'⟩]) (Function.update p i q) s' order where
  ended := by
    intro j a
    by_cases hj : j = i
    · subst hj
      rw [Function.update_self, h.ended]
      exact iff_of_false (ha.underway a) (hq a)
    · rw [Function.update_of_ne hj, h.ended]
  once := h.once
  oneByOne := hs ▸ h.oneByOne
  realTime := by
    refine h.realTime.imp_of_mem fun {x y} hx _ hxy hpre => ?_
    obtain ⟨m, hm, hthread⟩ := hmoved x hx
    exact hxy (hpre.of_snoc ⟨m, by simp [hm], hthread⟩).2

/-- An access that ends its thread puts the call last. -/
theorem Linearizes.endCall (h : Linearizes code spec s₀ hist p s order)
    (hmoved : ∀ x ∈ order, ∃ m ∈ hist, m.thread = x.1) (ha : Advance code obj (p i) s e q s') {a : α}
    (hq : code q = .done a) (hspec : spec i s a s') :
    Linearizes code spec s₀ (hist ++ [⟨i, e, s, s'⟩]) (Function.update p i q) s' (order ++ [(i, a)]) := by
  have hnew : ∀ b, (i, b) ∉ order := fun b hb => ha.underway b ((h.ended i b).1 hb)
  refine ⟨?_, ?_, .snoc h.oneByOne hspec, ?_⟩
  · intro j b
    rw [List.mem_append, List.mem_singleton, Prod.mk.injEq]
    by_cases hj : j = i
    · subst hj
      rw [Function.update_self, hq]
      simp only [hnew b, false_or, true_and, Turn.done.injEq, eq_comm]
    · rw [Function.update_of_ne hj, h.ended]
      simp only [hj, false_and, or_false]
  · rw [List.map_append, List.map_cons, List.map_nil, List.nodup_append]
    refine ⟨h.once, List.nodup_singleton i, ?_⟩
    intro j hj k hk
    obtain ⟨⟨j, b⟩, hb, rfl⟩ := List.mem_map.1 hj
    cases List.mem_singleton.1 hk
    rintro rfl
    exact hnew b hb
  · refine List.pairwise_append.2 ⟨?_, List.pairwise_singleton .., ?_⟩
    · refine h.realTime.imp_of_mem fun {x y} hx _ hxy hpre => ?_
      obtain ⟨m, hm, hthread⟩ := hmoved x hx
      exact hxy (hpre.of_snoc ⟨m, by simp [hm], hthread⟩).2
    · -- What is over already cannot have begun after this access.
      intro x hx y hy hpre
      cases List.mem_singleton.1 hy
      obtain ⟨m, hm, hthread⟩ := hmoved x hx
      exact (hpre.of_snoc ⟨m, by simp [hm], hthread⟩).1 rfl

/-- If every access leaves things as they are, or ends its thread and does what its call was to do, then any
interleaving comes to calls one by one. `I` is what a thread knows of itself. -/
theorem Interleaved.linearizes {p₀ : ι → P} (h : Interleaved code obj p₀ s₀ hist p s) {I : ι → P → Prop}
    (h₀ : ∀ i, I i (p₀ i)) (hstart : ∀ i a, code (p₀ i) ≠ .done a)
    (hstep : ∀ i p s e q s', I i p → Advance code obj p s e q s' →
      I i q ∧ ((∃ a, code q = .done a ∧ spec i s a s') ∨ (∀ a, code q ≠ .done a) ∧ s' = s)) :
    ∃ order, Linearizes code spec s₀ hist p s order := by
  refine (h.inv (I := fun hist p s => (∀ i, I i (p i)) ∧ (∀ i, (∀ m ∈ hist, m.thread ≠ i) → p i = p₀ i) ∧
    ∃ order, Linearizes code spec s₀ hist p s order) ⟨h₀, fun _ _ => rfl, [], ?_, .nil, .nil, .nil⟩ ?_).2.2
  · intro i a
    exact iff_of_false List.not_mem_nil (hstart i a)
  rintro hist p s i e q s' ⟨hI, hidle, order, hlin⟩ ha
  -- Who has ended has made an access, so nobody was over before it began.
  have hmoved : ∀ x ∈ order, ∃ m ∈ hist, m.thread = x.1 := by
    rintro ⟨j, a⟩ hx
    by_contra hnone
    have hsame := hidle j fun m hm hthread => hnone ⟨m, hm, hthread⟩
    have hdone := (hlin.ended j a).1 hx
    rw [hsame] at hdone
    exact hstart j a hdone
  obtain ⟨hq, hcases⟩ := hstep i (p i) s e q s' (hI i) ha
  refine ⟨?_, ?_, ?_⟩
  · intro j
    by_cases hj : j = i
    · subst hj
      rwa [Function.update_self]
    · rw [Function.update_of_ne hj]
      exact hI j
  · intro j hj
    have hne : j ≠ i := (hj ⟨i, e, s, s'⟩ (by simp)).symm
    rw [Function.update_of_ne hne]
    exact hidle j fun m hm => hj m (by simp [hm])
  · rcases hcases with ⟨a, hdone, hspec⟩ | ⟨hunder, hs⟩
    · exact ⟨_, hlin.endCall hmoved ha hdone hspec⟩
    · exact ⟨order, hlin.look hmoved ha hunder hs⟩

end Linearizes

end ProgLib

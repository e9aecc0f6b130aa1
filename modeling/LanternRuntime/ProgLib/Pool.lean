import Mathlib.Data.Fintype.Card
import Mathlib.Logic.Function.Basic
/-!
# Bump pools

A pool hands out consecutive units and never the same one twice. A table with
one entry for every unit remembers what is still held, as a span; giving a span
back empties its entry and leaves the bump index alone.

That the spans lie below the bump index and do not meet is part of the type, so
the operations carry the proof, and `free_entry` shows that the table cannot
fill up before the units run out.
-/

namespace ProgLib

/-- A non-empty run of units. -/
structure Span where
  start : Nat
  count : Nat
  pos : 0 < count

namespace Span

def stop (s : Span) : Nat := s.start + s.count

/-- The unit `r` belongs to `s`. -/
def Has (s : Span) (r : Nat) : Prop := s.start ≤ r ∧ r < s.stop

theorem has_start (s : Span) : s.Has s.start := ⟨Nat.le_refl _, Nat.lt_add_of_pos_right s.pos⟩

end Span

/-- A pool of `cap` units, those below `next` handed out, with a table of the spans held. -/
structure Pool (cap : Nat) where
  span : Fin cap → Option Span
  next : Nat
  bounded : next ≤ cap
  inside : ∀ {i s}, span i = some s → s.stop ≤ next
  disjoint : ∀ {i j s t r}, span i = some s → span j = some t → s.Has r → t.Has r → i = j

namespace Pool
variable {cap : Nat} (p : Pool cap)

def empty (cap : Nat) : Pool cap := ⟨fun _ => none, 0, Nat.zero_le _, nofun, nofun⟩

/-- The unit `r` is in a span that is held. -/
def Holds (r : Nat) : Prop := ∃ i s, p.span i = some s ∧ s.Has r

variable {p}

theorem Holds.lt {r : Nat} (h : p.Holds r) : r < p.next := by
  obtain ⟨i, s, hs, -, hr⟩ := h
  exact Nat.lt_of_lt_of_le hr (p.inside hs)

/-- While units are left, so are entries: the starts of held spans are distinct units
below `next`. -/
theorem free_entry (h : p.next < cap) : ∃ i, p.span i = none := by
  by_contra hfull
  have hsome : ∀ i, ∃ s, p.span i = some s := by
    intro i
    cases hs : p.span i with
    | none => exact absurd ⟨i, hs⟩ hfull
    | some s => exact ⟨s, rfl⟩
  choose s hs using hsome
  have hlt : ∀ i, (s i).start < p.next := fun i => Nat.lt_of_lt_of_le (s i).has_start.2 (p.inside (hs i))
  have hinj : Function.Injective (fun i => (⟨(s i).start, hlt i⟩ : Fin p.next)) := by
    intro i j hij
    have hstart : (s i).start = (s j).start := congrArg Fin.val hij
    exact p.disjoint (hs i) (hs j) (s i).has_start (hstart ▸ (s j).has_start)
  have hcard := Fintype.card_le_of_injective _ hinj
  simp only [Fintype.card_fin] at hcard
  omega

/-- Hand out the next `n` units and remember them in the free entry `i`. -/
def claim (p : Pool cap) (i : Fin cap) (n : Nat) (hn : 0 < n) (h : p.next + n ≤ cap) : Pool cap where
  span := Function.update p.span i (some ⟨p.next, n, hn⟩)
  next := p.next + n
  bounded := h
  inside := by
    intro j s hs
    by_cases hj : j = i
    · subst hj
      rw [Function.update_self] at hs
      cases hs
      exact Nat.le_refl _
    · rw [Function.update_of_ne hj] at hs
      exact Nat.le_trans (p.inside hs) (Nat.le_add_right _ _)
  disjoint := by
    -- Whatever was held before ends at `next`, where the new span starts.
    have hnew : ∀ {j s r}, p.span j = some s → s.Has r → ¬ (Span.mk p.next n hn).Has r := by
      intro j s r hs hr hr'
      have hstop := p.inside hs
      have h1 := hr.2
      have h2 : p.next ≤ r := hr'.1
      omega
    intro j k s t r hs ht hr hr'
    by_cases hj : j = i <;> by_cases hk : k = i
    · rw [hj, hk]
    · subst hj
      rw [Function.update_self] at hs
      rw [Function.update_of_ne hk] at ht
      cases hs
      exact absurd hr (hnew ht hr')
    · subst hk
      rw [Function.update_self] at ht
      rw [Function.update_of_ne hj] at hs
      cases ht
      exact absurd hr' (hnew hs hr)
    · rw [Function.update_of_ne hj] at hs
      rw [Function.update_of_ne hk] at ht
      exact p.disjoint hs ht hr hr'

/-- Give the span of entry `i` back. -/
def release (p : Pool cap) (i : Fin cap) : Pool cap where
  span := Function.update p.span i none
  next := p.next
  bounded := p.bounded
  inside := by
    intro j s hs
    by_cases hj : j = i
    · subst hj
      rw [Function.update_self] at hs
      cases hs
    · rw [Function.update_of_ne hj] at hs
      exact p.inside hs
  disjoint := by
    have hold : ∀ {j s}, Function.update p.span i none j = some s → p.span j = some s := by
      intro j s hs
      by_cases hj : j = i
      · subst hj
        rw [Function.update_self] at hs
        cases hs
      · rwa [Function.update_of_ne hj] at hs
    intro j k s t r hs ht hr hr'
    exact p.disjoint (hold hs) (hold ht) hr hr'

variable {i : Fin cap} {n : Nat} {hn : 0 < n} {h : p.next + n ≤ cap}

theorem claim_span (j : Fin cap) :
    (p.claim i n hn h).span j = if j = i then some ⟨p.next, n, hn⟩ else p.span j := by
  by_cases hj : j = i
  · subst hj; simp [claim]
  · simp [claim, hj]

@[simp] theorem claim_next : (p.claim i n hn h).next = p.next + n := rfl

theorem release_span (j : Fin cap) : (p.release i).span j = if j = i then none else p.span j := by
  by_cases hj : j = i
  · subst hj; simp [release]
  · simp [release, hj]

@[simp] theorem release_next : (p.release i).next = p.next := rfl

/-- After a claim there are the spans from before and the new one. -/
theorem claim_span_some (hi : p.span i = none) {j : Fin cap} {t : Span} :
    (p.claim i n hn h).span j = some t ↔ p.span j = some t ∨ (j = i ∧ t = ⟨p.next, n, hn⟩) := by
  rw [claim_span]
  by_cases hj : j = i
  · subst hj
    simp [hi, eq_comm]
  · simp [hj]

/-- After a release there are the spans of the other entries. -/
theorem release_span_some {j : Fin cap} {t : Span} : (p.release i).span j = some t ↔ j ≠ i ∧ p.span j = some t := by
  rw [release_span]
  by_cases hj : j = i
  · simp [hj]
  · simp [hj]

theorem claim_holds (hi : p.span i = none) {r : Nat} :
    (p.claim i n hn h).Holds r ↔ p.Holds r ∨ (p.next ≤ r ∧ r < p.next + n) := by
  constructor
  · rintro ⟨j, s, hs, hr⟩
    rcases (claim_span_some hi).1 hs with hs | ⟨rfl, rfl⟩
    · exact .inl ⟨j, s, hs, hr⟩
    · exact .inr hr
  · rintro (⟨j, s, hs, hr⟩ | hr)
    · exact ⟨j, s, (claim_span_some hi).2 (.inl hs), hr⟩
    · exact ⟨i, _, (claim_span_some hi).2 (.inr ⟨rfl, rfl⟩), hr⟩

theorem release_holds {s : Span} (hs : p.span i = some s) {r : Nat} :
    (p.release i).Holds r ↔ p.Holds r ∧ ¬ s.Has r := by
  constructor
  · rintro ⟨j, t, ht, hr⟩
    obtain ⟨hj, ht⟩ := release_span_some.1 ht
    exact ⟨⟨j, t, ht, hr⟩, fun hr' => hj (p.disjoint ht hs hr hr')⟩
  · rintro ⟨⟨j, t, ht, hr⟩, hn⟩
    have hj : j ≠ i := by
      rintro rfl
      rw [hs] at ht
      cases ht
      exact hn hr
    exact ⟨j, t, release_span_some.2 ⟨hj, ht⟩, hr⟩

end Pool

end ProgLib

/-!
# Regions laid end to end

`Tiles R next` says that the regions of `R`, each with its holder, cover the
numbers below `next` and nothing else, and that no two of them meet. Handing
out the next `n` numbers keeps that.
-/

namespace ProgLib

variable {ι : Type}

/-- `R i lo hi` says that `i` holds the numbers from `lo` to below `hi`. -/
structure Tiles (R : ι → Nat → Nat → Prop) (next : Nat) : Prop where
  inside : ∀ {i lo hi}, R i lo hi → lo ≤ hi ∧ hi ≤ next
  disjoint : ∀ {i j lo hi lo' hi'}, i ≠ j → R i lo hi → R j lo' hi' → hi ≤ lo' ∨ hi' ≤ lo
  covered : ∀ {x}, x < next → ∃ i lo hi, R i lo hi ∧ lo ≤ x ∧ x < hi

namespace Tiles
variable {R R' : ι → Nat → Nat → Prop} {next : Nat}

theorem zero (h : ∀ i lo hi, ¬ R i lo hi) : Tiles R 0 where
  inside hr := absurd hr (h _ _ _)
  disjoint _ hr := absurd hr (h _ _ _)
  covered hx := absurd hx (Nat.not_lt_zero _)

theorem congr (h : Tiles R next) (heq : ∀ i lo hi, R' i lo hi ↔ R i lo hi) : Tiles R' next := by
  have : R' = R := by funext i lo hi; exact propext (heq i lo hi)
  rwa [this]

/-- Hand the next `n` numbers to somebody who held none. -/
theorem grow (h : Tiles R next) {i : ι} {n : Nat} (hnone : ∀ lo hi, ¬ R i lo hi)
    (heq : ∀ j lo hi, R' j lo hi ↔ R j lo hi ∨ (j = i ∧ lo = next ∧ hi = next + n)) : Tiles R' (next + n) where
  inside := by
    intro j lo hi hr
    rcases (heq j lo hi).1 hr with hr | ⟨rfl, rfl, rfl⟩
    · obtain ⟨h1, h2⟩ := h.inside hr
      exact ⟨h1, Nat.le_trans h2 (Nat.le_add_right _ _)⟩
    · exact ⟨Nat.le_add_right _ _, Nat.le_refl _⟩
  disjoint := by
    intro j k lo hi lo' hi' hne hr hr'
    rcases (heq j lo hi).1 hr with hr | ⟨rfl, rfl, rfl⟩ <;> rcases (heq k lo' hi').1 hr' with hr' | ⟨rfl, rfl, rfl⟩
    · exact h.disjoint hne hr hr'
    · exact .inl (h.inside hr).2
    · exact .inr (h.inside hr').2
    · exact absurd rfl hne
  covered := by
    intro x hx
    rcases Nat.lt_or_ge x next with hlt | hge
    · obtain ⟨j, lo, hi, hr, hx'⟩ := h.covered hlt
      exact ⟨j, lo, hi, (heq j lo hi).2 (.inl hr), hx'⟩
    · exact ⟨i, next, next + n, (heq _ _ _).2 (.inr ⟨rfl, rfl, rfl⟩), hge, hx⟩

end Tiles

end ProgLib

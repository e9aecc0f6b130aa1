import Mathlib.Data.List.Infix
import Mathlib.Data.List.Basic
/-!
# Markers in text

When a marker occurs in a text that was put together from pieces. A piece
without the first letter of the marker can be left out, and a letter that the
text has once says where the marker is. So values of any length can stand in
the text, as long as it is known what letters they are written with.
-/

namespace ProgLib

section Infix
variable {α : Type} {p q a b : List α} {x : α}

/-- No occurrence starts in a piece that lacks its first letter. -/
theorem infix_append_iff (hx : x ∉ a) : x :: p <:+: a ++ b ↔ x :: p <:+: b := by
  induction a with
  | nil => rfl
  | cons y a ih =>
    have hxy : x ≠ y := fun he => hx (he ▸ List.mem_cons_self)
    have hnot : ¬ x :: p <+: y :: (a ++ b) := fun h => hxy (List.cons_prefix_cons.1 h).1
    rw [List.cons_append, List.infix_cons_iff, ih fun h => hx (List.mem_cons_of_mem _ h)]
    simp only [hnot, false_or]

/-- A letter that occurs once in the text is the one of the marker. -/
theorem infix_around_iff (ha : x ∉ a) (hb : x ∉ b) : p ++ x :: q <:+: a ++ x :: b ↔ p <:+ a ∧ q <+: b := by
  constructor
  · rintro ⟨s, t, h⟩
    have h : (s ++ p) ++ x :: (q ++ t) = a ++ x :: b := by simpa using h
    obtain ⟨hsp, -, hqt⟩ := (List.append_cons_inj_of_notMem ha hb).1 h.symm
    exact ⟨⟨s, hsp.symm⟩, ⟨t, hqt.symm⟩⟩
  · rintro ⟨⟨s, rfl⟩, ⟨t, rfl⟩⟩
    exact ⟨s, t, by simp⟩

end Infix

/-! ## Numbers -/

theorem notMem_repr {c : Char} {n : Nat} (hc : c.isDigit = false) : c ∉ n.repr.toList := by
  rw [Nat.toList_repr]
  intro h
  rw [Nat.isDigit_of_mem_toDigits (by decide) (by decide) h] at hc
  cases hc

end ProgLib

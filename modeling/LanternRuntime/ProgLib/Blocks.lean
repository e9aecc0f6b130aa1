import Mathlib.Data.List.Basic
import Mathlib.Logic.Function.Basic
/-!
# Private blocks

`Blocks α` are stretches of cells that do not meet, each found by its first
address: what a program believes its memory to be. `Shows m b` says that the
flat memory `m` holds their contents, and is kept by what a program does to its
blocks, as long as it stays inside of them.
-/

namespace ProgLib

variable {α : Type}

/-! ## One block -/

/-- The contents of a block at `p`, after `x` was put into the `n` cells from `a` on. -/
def overwrite (a n : Nat) (x : α) (p : Nat) (d : List α) : List α :=
  d.mapIdx fun i y => if a ≤ p + i ∧ p + i < a + n then x else y

section Overwrite
variable (a n : Nat) (x : α) (p : Nat) (d : List α)

@[simp] theorem length_overwrite : (overwrite a n x p d).length = d.length := List.length_mapIdx

theorem getElem?_overwrite (i : Nat) : (overwrite a n x p d)[i]? =
    d[i]?.map fun y => if a ≤ p + i ∧ p + i < a + n then x else y := List.getElem?_mapIdx

/-- No cell. -/
@[simp] theorem overwrite_zero : overwrite a 0 x p d = d := by
  refine List.ext_getElem? fun i => ?_
  rw [getElem?_overwrite]
  cases d[i]? with
  | none => rfl
  | some y => exact congrArg some (if_neg (by omega))

/-- One cell, and then those after it. -/
theorem overwrite_succ : overwrite (a + 1) n x p (overwrite a 1 x p d) = overwrite a (n + 1) x p d := by
  refine List.ext_getElem? fun i => ?_
  rw [getElem?_overwrite, getElem?_overwrite, getElem?_overwrite]
  cases d[i]? with
  | none => rfl
  | some y =>
    simp only [Option.map_some]
    by_cases h : a ≤ p + i ∧ p + i < a + (n + 1)
    · rw [if_pos h]
      by_cases hi : p + i = a
      · rw [if_neg (by omega), if_pos (by omega)]
      · rw [if_pos (by omega)]
    · rw [if_neg h, if_neg (by omega), if_neg (by omega)]

end Overwrite

/-! ## Blocks -/

/-- Blocks by their first address, none of which meets another. -/
structure Blocks (α : Type) where
  block : Nat → Option (List α)
  apart : ∀ {p q d e}, block p = some d → block q = some e → p ≠ q → p + d.length ≤ q ∨ q + e.length ≤ p

namespace Blocks
variable (b : Blocks α)

def empty (α : Type) : Blocks α := ⟨fun _ => none, nofun⟩

/-- No block starts at `p` or meets the `n` cells from there on. -/
def Vacant (p n : Nat) : Prop := ∀ {q e}, b.block q = some e → q ≠ p ∧ (p + n ≤ q ∨ q + e.length ≤ p)

/-- The `n` cells from `a` on belong to one block. -/
def Owns (a n : Nat) : Prop := ∃ p d, b.block p = some d ∧ p ≤ a ∧ a + n ≤ p + d.length

/-- The cell at `a` belongs to a block, and holds `x`. -/
def Reads (a : Nat) (x : α) : Prop := ∃ p d, b.block p = some d ∧ p ≤ a ∧ d[a - p]? = some x

/-- A new block. -/
def new (p : Nat) (d : List α) (h : b.Vacant p d.length) : Blocks α where
  block := Function.update b.block p (some d)
  apart := by
    intro q r e f hq hr hne
    by_cases hqp : q = p <;> by_cases hrp : r = p
    · exact absurd (hqp.trans hrp.symm) hne
    · subst hqp
      rw [Function.update_self] at hq
      rw [Function.update_of_ne hrp] at hr
      cases hq
      exact (h hr).2
    · subst hrp
      rw [Function.update_self] at hr
      rw [Function.update_of_ne hqp] at hq
      cases hr
      exact (h hq).2.symm
    · rw [Function.update_of_ne hqp] at hq
      rw [Function.update_of_ne hrp] at hr
      exact b.apart hq hr hne

/-- One block less. -/
def free (p : Nat) : Blocks α where
  block := Function.update b.block p none
  apart := by
    have hold : ∀ {q d}, Function.update b.block p none q = some d → b.block q = some d := by
      intro q d hq
      by_cases hqp : q = p
      · subst hqp
        rw [Function.update_self] at hq
        cases hq
      · rwa [Function.update_of_ne hqp] at hq
    intro q r d e hq hr
    exact b.apart (hold hq) (hold hr)

/-- `x` in the `n` cells from `a` on. -/
def fill (a n : Nat) (x : α) : Blocks α where
  block p := (b.block p).map (overwrite a n x p)
  apart := by
    intro p q d e hp hq hne
    obtain ⟨d, hd, rfl⟩ := Option.map_eq_some_iff.1 hp
    obtain ⟨e, he, rfl⟩ := Option.map_eq_some_iff.1 hq
    rw [length_overwrite, length_overwrite]
    exact b.apart hd he hne

variable {b} {a p q n : Nat} {d e : List α} {x y : α}

theorem ext_block {b' : Blocks α} (h : b.block = b'.block) : b = b' := by
  cases b
  cases b'
  cases h
  rfl

theorem new_block {h : b.Vacant p d.length} : (b.new p d h).block q = some e ↔ (q = p ∧ e = d) ∨ b.block q = some e := by
  have hnone : b.block p ≠ some e := fun he => (h he).1 rfl
  by_cases hq : q = p
  · subst hq
    simp [new, hnone, eq_comm]
  · simp [new, hq]

theorem free_block : (b.free p).block q = some e ↔ q ≠ p ∧ b.block q = some e := by
  by_cases hq : q = p
  · subst hq
    simp [free]
  · simp [free, hq]

theorem fill_block : (b.fill a n x).block q = some e ↔ ∃ d, b.block q = some d ∧ overwrite a n x q d = e :=
  Option.map_eq_some_iff

theorem fill_zero : b.fill a 0 x = b := by
  refine ext_block (funext fun q => ?_)
  exact (congrArg (Option.map · (b.block q)) (funext fun d => overwrite_zero a x q d)).trans Option.map_id'

/-- One cell, and then those after it. -/
theorem fill_succ : (b.fill a 1 x).fill (a + 1) n x = b.fill a (n + 1) x := by
  refine ext_block (funext fun q => ?_)
  exact Option.map_map .. |>.trans (congrArg (Option.map · (b.block q)) (funext fun d => overwrite_succ a n x q d))

theorem Owns.fill {a' n' : Nat} (h : b.Owns a n) : (b.fill a' n' x).Owns a n := by
  obtain ⟨p, d, hd, hp, hle⟩ := h
  exact ⟨p, _, fill_block.2 ⟨d, hd, rfl⟩, hp, by rwa [length_overwrite]⟩

theorem Owns.mono {a' n' : Nat} (h : b.Owns a n) (ha : a ≤ a') (hn : a' + n' ≤ a + n) : b.Owns a' n' := by
  obtain ⟨p, d, hd, hp, hle⟩ := h
  exact ⟨p, d, hd, Nat.le_trans hp ha, Nat.le_trans hn hle⟩

end Blocks

/-! ## A flat memory -/

/-- The memory holds the contents of every block. -/
def Shows (m : Nat → α) (b : Blocks α) : Prop :=
  ∀ p d, b.block p = some d → ∀ i < d.length, d[i]? = some (m (p + i))

section Shows
variable {m m' : Nat → α} {b : Blocks α} {a p n : Nat} {d : List α} {x : α}

theorem shows_empty : Shows m (Blocks.empty α) := nofun

theorem Shows.new (h : Shows m b) (hv : b.Vacant p d.length) (hd : ∀ i < d.length, d[i]? = some (m (p + i))) :
    Shows m (b.new p d hv) := by
  intro q e he
  rcases Blocks.new_block.1 he with ⟨rfl, rfl⟩ | hold
  · exact hd
  · exact h q e hold

theorem Shows.free (h : Shows m b) : Shows m (b.free p) := fun q d hd => h q d (Blocks.free_block.1 hd).2

theorem Shows.fill (h : Shows m b) : Shows (fun c => if a ≤ c ∧ c < a + n then x else m c) (b.fill a n x) := by
  intro p e he i hi
  obtain ⟨d, hd, rfl⟩ := Blocks.fill_block.1 he
  rw [length_overwrite] at hi
  rw [getElem?_overwrite, h p d hd i hi, Option.map_some]

/-- Only cells of blocks matter. -/
theorem Shows.congr (h : Shows m b) (heq : ∀ p d, b.block p = some d → ∀ i < d.length, m' (p + i) = m (p + i)) :
    Shows m' b := by
  intro p d hd i hi
  rw [heq p d hd i hi]
  exact h p d hd i hi

theorem Shows.reads (h : Shows m b) (hown : b.Owns a 1) : b.Reads a (m a) := by
  obtain ⟨p, d, hd, hp, hle⟩ := hown
  have hread := h p d hd (a - p) (by omega)
  rw [Nat.add_sub_cancel' hp] at hread
  exact ⟨p, d, hd, hp, hread⟩

end Shows

end ProgLib

import LanternRuntime.Platform.Arena
/-!
# Regions, as numbers

Region `i` is mapped from `frame i` at `vaddr i`. While the arena fits the
address space, no arithmetic of `backing` wraps.
-/
open ProgLib

namespace LanternRuntime.Platform.backing

/-- The frame capability of a region. -/
def frame (i : Nat) : Usize := ARENA_FRAME_CPTR_BASE + UInt64.ofNat i

/-- Its address. -/
def vaddr (i : Nat) : Usize := vaddr_of (UInt64.ofNat i)

/-- The arena of `R` regions ends inside the address space. -/
def Fits (R : Nat) : Prop := ARENA_VADDR.toNat + R * MEGAPAGE_BYTES.toNat ≤ 2 ^ 64

theorem arena_vaddr_toNat : ARENA_VADDR.toNat = 0x88200000 := by decide
theorem megapage_bytes_toNat : MEGAPAGE_BYTES.toNat = 2097152 := by decide

/-! ## Regions of any arena -/

theorem ofNat_succ (i : Nat) : UInt64.ofNat i + 1 = UInt64.ofNat (i + 1) :=
  (UInt64.ofNat_add i 1).symm

/-- A loop over regions starts with the first of them. -/
theorem for_range_go_succ (body : Usize → Prog Frames Unit) (n k : Nat) :
    for_range.go body (n + 1) (UInt64.ofNat k) =
      body (UInt64.ofNat k) >>= fun _ => for_range.go body n (UInt64.ofNat (k + 1)) := by
  rw [← ofNat_succ]
  rfl

theorem ofNat_toNat {R i : Nat} (hR : R < 2 ^ 64) (hi : i ≤ R) : (UInt64.ofNat i).toNat = i :=
  UInt64.toNat_ofNat_of_lt' (by simp only [UInt64.size]; omega)

/-- No two regions have one frame. -/
theorem frame_inj {R i j : Nat} (hR : R < 2 ^ 64) (hi : i < R) (hj : j < R) (h : frame i = frame j) : i = j := by
  have hij : UInt64.ofNat i = UInt64.ofNat j := (UInt64.add_right_inj _).1 h
  have hn := congrArg UInt64.toNat hij
  rwa [ofNat_toNat hR (Nat.le_of_lt hi), ofNat_toNat hR (Nat.le_of_lt hj)] at hn

section Fits
variable {R : Nat} (hfit : Fits R) {i j : Nat}
include hfit

theorem Fits.lt : R < 2 ^ 43 := by
  unfold Fits at hfit
  rw [arena_vaddr_toNat, megapage_bytes_toNat] at hfit
  omega

theorem Fits.index : R < 2 ^ 64 := by
  have hlt := hfit.lt
  omega

theorem Fits.mono (h : i ≤ R) : Fits i := by
  unfold Fits at hfit ⊢
  exact Nat.le_trans (Nat.add_le_add_left (Nat.mul_le_mul_right _ h) _) hfit

theorem Fits.ofNat_toNat (hi : i ≤ R) : (UInt64.ofNat i).toNat = i :=
  backing.ofNat_toNat hfit.index hi

theorem Fits.vaddr_toNat (hi : i < R) : (vaddr i).toNat = ARENA_VADDR.toNat + i * MEGAPAGE_BYTES.toNat := by
  have hle := hfit
  unfold Fits at hle
  unfold vaddr vaddr_of
  rw [UInt64.toNat_add, UInt64.toNat_mul, hfit.ofNat_toNat (Nat.le_of_lt hi)]
  rw [arena_vaddr_toNat, megapage_bytes_toNat] at hle ⊢
  omega

theorem Fits.vaddr_inj (hi : i < R) (hj : j < R) (h : vaddr i = vaddr j) : i = j := by
  have hn := congrArg UInt64.toNat h
  rw [hfit.vaddr_toNat hi, hfit.vaddr_toNat hj, megapage_bytes_toNat] at hn
  omega

theorem Fits.frame_inj (hi : i < R) (hj : j < R) (h : frame i = frame j) : i = j :=
  backing.frame_inj hfit.index hi hj h

/-- `dealloc` finds the region of an address again. -/
theorem Fits.region_of_vaddr (hi : i < R) : (vaddr i - ARENA_VADDR) / MEGAPAGE_BYTES = UInt64.ofNat i := by
  have hv := hfit.vaddr_toNat hi
  have hle : ARENA_VADDR ≤ vaddr i := by rw [UInt64.le_iff_toNat_le, hv]; omega
  apply UInt64.toNat_inj.1
  rw [UInt64.toNat_div, UInt64.toNat_sub_of_le _ _ hle, hv, Nat.add_sub_cancel_left,
    hfit.ofNat_toNat (Nat.le_of_lt hi)]
  exact Nat.mul_div_cancel i (by decide)

end Fits

/-! ## Sizes -/

/-- `ceil(size / 2 MiB)`, and at least one. -/
theorem regions_for_toNat (size : Usize) :
    (regions_for size).toNat = max 1 ((size.toNat + (MEGAPAGE_BYTES.toNat - 1)) / MEGAPAGE_BYTES.toNat) := by
  have hdiv : (div_ceil size MEGAPAGE_BYTES).toNat =
      (size.toNat + (MEGAPAGE_BYTES.toNat - 1)) / MEGAPAGE_BYTES.toNat := by
    have hs := size.toNat_lt
    unfold div_ceil
    by_cases hm : size % MEGAPAGE_BYTES > 0
    · rw [if_pos hm, UInt64.toNat_add, UInt64.toNat_div]
      have hm' : 0 < size.toNat % MEGAPAGE_BYTES.toNat := by
        have := UInt64.lt_iff_toNat_lt.1 hm
        rwa [UInt64.toNat_mod] at this
      have h1 : (1 : UInt64).toNat = 1 := rfl
      rw [megapage_bytes_toNat] at hm' ⊢
      omega
    · rw [if_neg hm, UInt64.toNat_div]
      have hm' : size.toNat % MEGAPAGE_BYTES.toNat = 0 := by
        have := mt UInt64.lt_iff_toNat_lt.2 hm
        rw [UInt64.toNat_mod] at this
        exact Nat.eq_zero_of_not_pos this
      rw [megapage_bytes_toNat] at hm' ⊢
      omega
  have h1 : (1 : UInt64).toNat = 1 := rfl
  rw [← hdiv]
  change (if div_ceil size MEGAPAGE_BYTES ≤ 1 then (1 : Usize) else div_ceil size MEGAPAGE_BYTES).toNat = _
  by_cases hle : div_ceil size MEGAPAGE_BYTES ≤ 1
  · rw [if_pos hle]
    have := UInt64.le_iff_toNat_le.1 hle
    omega
  · rw [if_neg hle]
    have := mt UInt64.le_iff_toNat_le.2 hle
    omega

theorem regions_for_pos (size : Usize) : 0 < (regions_for size).toNat := by
  rw [regions_for_toNat]
  omega

/-- They hold the size. -/
theorem size_le_regions (size : Usize) : size.toNat ≤ (regions_for size).toNat * MEGAPAGE_BYTES.toNat := by
  rw [regions_for_toNat, megapage_bytes_toNat]
  omega

end LanternRuntime.Platform.backing

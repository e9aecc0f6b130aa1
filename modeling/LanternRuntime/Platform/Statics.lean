import LanternRuntime.ProgLib.Pool
import LanternRuntime.Platform.Regions
/-!
# The statics, as a pool

`Represents a p`: the table and the bump index of `backing` are the pool `p`.
Over such statics `alloc` is a loop that maps the units the pool claims, and
`dealloc` one that unmaps the units it releases. Both equations say nothing of
the kernel.
-/
open ProgLib

namespace LanternRuntime.Platform.backing

variable {R : Nat} {a : Arena R} {p : Pool R}

/-! ## `alloc`, by how many regions are left -/

/-- What the search of `alloc` finds, once the bump index is at `end`. -/
def freeEntry (a : Arena R) («end» : Usize) : Option (Fin R) :=
  (List.finRange R).find? fun i => { a with next_region := «end» }.alloc_count i = 0

/-- What it returns then. -/
def allocated (a : Arena R) (size : Usize) : Arena R × Option Usize :=
  match freeEntry a (a.next_region + regions_for size) with
  | none => ({ a with next_region := a.next_region + regions_for size }, none)
  | some slot => ({ a with next_region := a.next_region + regions_for size }.set_slot slot (vaddr_of a.next_region)
      (regions_for size), some (vaddr_of a.next_region))

section Alloc
variable (hR : R < 2 ^ 64) {size : Usize}
include hR

theorem alloc_too_many (hn : R < a.next_region.toNat + (regions_for size).toNat) :
    alloc a size = .ret (a, none) := by
  unfold alloc checked_add
  by_cases hadd : a.next_region.toNat + (regions_for size).toNat < 2 ^ 64
  · have hend : (a.next_region + regions_for size).toNat > R := by
      rw [UInt64.toNat_add]
      omega
    simp only [if_pos hadd, if_pos hend, Prog.pure_eq]
  · simp only [if_neg hadd, Prog.pure_eq]

theorem end_toNat (hn : a.next_region.toNat + (regions_for size).toNat ≤ R) :
    (a.next_region + regions_for size).toNat = a.next_region.toNat + (regions_for size).toNat := by
  rw [UInt64.toNat_add]
  omega

/-- The loop that maps, and then the search. -/
theorem alloc_enough (hn : a.next_region.toNat + (regions_for size).toNat ≤ R) :
    alloc a size = for_range.go (map_region ((MapPerms.READ.union .WRITE).union .USER)) (regions_for size).toNat
      a.next_region >>= fun _ => .ret (allocated a size) := by
  have hend := end_toNat hR hn
  have hadd : checked_add a.next_region (regions_for size) = some (a.next_region + regions_for size) :=
    if_pos (by omega)
  have hgt : ¬ (a.next_region + regions_for size).toNat > R := by omega
  have hcount : (a.next_region + regions_for size).toNat - a.next_region.toNat = (regions_for size).toNat := by omega
  simp only [alloc, hadd, if_neg hgt, for_range, hcount]
  congr 1
  funext _
  unfold allocated freeEntry
  generalize List.find? _ (List.finRange R) = found
  cases found <;> rfl

end Alloc

/-! ## The pool behind the statics -/

structure Represents (a : Arena R) (p : Pool R) : Prop where
  next : a.next_region = UInt64.ofNat p.next
  free : ∀ {i}, p.span i = none → a.alloc_count i = 0
  count : ∀ {i s}, p.span i = some s → a.alloc_count i = UInt64.ofNat s.count
  addr : ∀ {i s}, p.span i = some s → a.alloc_vaddr i = vaddr s.start

theorem represents_empty : Represents (Arena.empty R) (Pool.empty R) where
  next := rfl
  free := fun _ => alloc_count_empty _
  count := nofun
  addr := nofun

/-- A write to one entry of the table, which then holds `o`. -/
theorem Represents.set (h : Represents a p) {q : Pool R} {e v n : Usize} (i : Fin R) (o : Option Span)
    (hnext : e = UInt64.ofNat q.next) (hspan : ∀ j, q.span j = if j = i then o else p.span j)
    (hnone : o = none → n = 0) (hsome : ∀ s, o = some s → n = UInt64.ofNat s.count ∧ v = vaddr s.start) :
    Represents ({ a with next_region := e }.set_slot i v n) q where
  next := hnext
  free := by
    intro j hj
    rw [hspan] at hj
    rw [alloc_count_set]
    by_cases hji : j = i
    · rw [if_pos hji] at hj ⊢
      exact hnone hj
    · rw [if_neg hji] at hj ⊢
      exact h.free hj
  count := by
    intro j t hj
    rw [hspan] at hj
    rw [alloc_count_set]
    by_cases hji : j = i
    · rw [if_pos hji] at hj ⊢
      exact (hsome t hj).1
    · rw [if_neg hji] at hj ⊢
      exact h.count hj
  addr := by
    intro j t hj
    rw [hspan] at hj
    rw [alloc_vaddr_set]
    by_cases hji : j = i
    · rw [if_pos hji] at hj ⊢
      exact (hsome t hj).2
    · rw [if_neg hji] at hj ⊢
      exact h.addr hj

section Index
variable (hR : R < 2 ^ 64) (h : Represents a p)
include hR h

theorem Represents.next_toNat : a.next_region.toNat = p.next := by
  rw [h.next, ofNat_toNat hR p.bounded]

theorem Represents.count_toNat {i : Fin R} {s : Span} (hs : p.span i = some s) :
    (a.alloc_count i).toNat = s.count := by
  have hstop := p.inside hs
  have hle := p.bounded
  unfold Span.stop at hstop
  rw [h.count hs, ofNat_toNat hR (by omega)]

theorem Represents.count_ne_zero {i : Fin R} {s : Span} (hs : p.span i = some s) : a.alloc_count i ≠ 0 := by
  intro hz
  have hc := h.count_toNat hR hs
  have hpos := s.pos
  rw [hz, UInt64.toNat_zero] at hc
  omega

theorem Represents.free_iff (i : Fin R) : a.alloc_count i = 0 ↔ p.span i = none := by
  constructor
  · intro hz
    cases hs : p.span i with
    | none => rfl
    | some s => exact absurd hz (h.count_ne_zero hR hs)
  · exact h.free

omit hR h in
/-- A span that is held starts below the bump index. -/
theorem start_lt_next {i : Fin R} {s : Span} (hs : p.span i = some s) : s.start < p.next := by
  have hstop := p.inside hs
  have hpos := s.pos
  unfold Span.stop at hstop
  omega

omit hR h in
theorem start_lt {i : Fin R} {s : Span} (hs : p.span i = some s) : s.start < R :=
  Nat.lt_of_lt_of_le (start_lt_next hs) p.bounded

omit hR h in
/-- Two spans with one address are one. -/
theorem span_unique (hfit : Fits p.next) {i j : Fin R} {s t : Span} (hs : p.span i = some s) (ht : p.span j = some t)
    (he : vaddr t.start = vaddr s.start) : j = i := by
  have hstart := hfit.vaddr_inj (start_lt_next ht) (start_lt_next hs) he
  exact p.disjoint ht hs t.has_start (hstart ▸ s.has_start)

/-! ## `alloc` -/

/-- Not enough regions are left. -/
theorem Represents.alloc_exhausted {size : Usize} (hn : R < p.next + (regions_for size).toNat) :
    alloc a size = .ret (a, none) := by
  have hnext := h.next_toNat hR
  exact alloc_too_many hR (by omega)

/-- The search of `alloc` for a free entry succeeds. -/
theorem Represents.find_free (hlt : p.next < R) («end» : Usize) :
    ∃ i, freeEntry a «end» = some i ∧ p.span i = none := by
  obtain ⟨j, hj⟩ := p.free_entry hlt
  have hfree : ∀ i, { a with next_region := «end» }.alloc_count i = a.alloc_count i := fun _ => rfl
  cases hf : freeEntry a «end» with
  | none =>
    have hnot := List.find?_eq_none.1 hf j (List.mem_finRange j)
    simp [hfree, h.free hj] at hnot
  | some i =>
    have hz : a.alloc_count i = 0 := by simpa [hfree] using List.find?_some hf
    exact ⟨i, rfl, (h.free_iff hR i).1 hz⟩

/-- Otherwise the pool claims the next regions, in an entry that is free. -/
theorem Represents.alloc_claims {size : Usize} (hn : p.next + (regions_for size).toNat ≤ R) :
    ∃ i a', p.span i = none ∧ Represents a' (p.claim i _ (regions_for_pos size) hn) ∧
      alloc a size = (for_range.go (map_region ((MapPerms.READ.union .WRITE).union .USER))
        (regions_for size).toNat (UInt64.ofNat p.next) >>= fun _ => .ret (a', some (vaddr p.next))) := by
  have hnext := h.next_toNat hR
  have hpos := regions_for_pos size
  obtain ⟨i, hfind, hi⟩ := h.find_free hR (by omega) (a.next_region + regions_for size)
  have hcount : UInt64.ofNat (regions_for size).toNat = regions_for size := UInt64.ofNat_toNat
  refine ⟨i, { a with next_region := a.next_region + regions_for size }.set_slot i (vaddr p.next) (regions_for size),
    hi, ?_, ?_⟩
  · refine h.set i _ ?_ Pool.claim_span nofun ?_
    · apply UInt64.toNat_inj.1
      rw [Pool.claim_next, end_toNat hR (by omega), ofNat_toNat hR hn, hnext]
    · rintro s ⟨⟩
      exact ⟨hcount.symm, rfl⟩
  · rw [alloc_enough hR (by omega), allocated, hfind, h.next]
    rfl

/-! ## `dealloc` -/

omit hR in
/-- No entry has the address: nothing happens. -/
theorem Represents.dealloc_unknown {ptr : Usize} (hptr : ∀ i s, p.span i = some s → ptr ≠ vaddr s.start) :
    dealloc a ptr = .ret a := by
  have hfind : (List.finRange R).find? (fun i => decide (a.alloc_count i ≠ 0 ∧ a.alloc_vaddr i = ptr)) = none := by
    apply List.find?_eq_none.2
    intro i _ hi
    obtain ⟨hne, haddr⟩ : a.alloc_count i ≠ 0 ∧ a.alloc_vaddr i = ptr := by simpa using hi
    cases hs : p.span i with
    | none => exact hne (h.free hs)
    | some s => exact hptr i s hs (haddr.symm.trans (h.addr hs))
  unfold dealloc
  rw [hfind]
  rfl

omit hR in
/-- Writing zeros to an entry releases its span. -/
theorem Represents.released (i : Fin R) : Represents (a.set_slot i 0 0) (p.release i) :=
  h.set i none h.next Pool.release_span (fun _ => rfl) nofun

/-- Otherwise the entry that has it is found, its regions are unmapped, and it is zeroed. -/
theorem Represents.dealloc_eq (hfit : Fits p.next) {i : Fin R} {s : Span} (hs : p.span i = some s) :
    dealloc a (vaddr s.start) =
      (for_range.go unmap_region s.count (UInt64.ofNat s.start) >>= fun _ => .ret (a.set_slot i 0 0)) := by
  have hstop := p.inside hs
  have hle := p.bounded
  unfold Span.stop at hstop
  have hfind : (List.finRange R).find?
      (fun j => decide (a.alloc_count j ≠ 0 ∧ a.alloc_vaddr j = vaddr s.start)) = some i := by
    have hmatch : a.alloc_count i ≠ 0 ∧ a.alloc_vaddr i = vaddr s.start := ⟨h.count_ne_zero hR hs, h.addr hs⟩
    cases hf : (List.finRange R).find? (fun j => decide (a.alloc_count j ≠ 0 ∧ a.alloc_vaddr j = vaddr s.start)) with
    | none => exact absurd (decide_eq_true hmatch) (List.find?_eq_none.1 hf i (List.mem_finRange i))
    | some j =>
      obtain ⟨hne, haddr⟩ : a.alloc_count j ≠ 0 ∧ a.alloc_vaddr j = vaddr s.start := by simpa using List.find?_some hf
      cases ht : p.span j with
      | none => exact absurd (h.free ht) hne
      | some t => rw [span_unique hfit hs ht ((h.addr ht).symm.trans haddr)]
  have hend : (UInt64.ofNat s.start + a.alloc_count i).toNat = s.start + s.count := by
    rw [UInt64.toNat_add, ofNat_toNat hR (by omega), h.count_toNat hR hs]
    omega
  unfold dealloc
  simp only [hfind, hfit.region_of_vaddr (start_lt_next hs), for_range, hend,
    ofNat_toNat hR (Nat.le_of_lt (start_lt hs))]
  rw [Nat.add_sub_cancel_left]
  rfl

end Index
end LanternRuntime.Platform.backing

import LanternRuntime.Platform.Kernel
import LanternRuntime.Platform.Statics
/-!
# One call, against a kernel

`Backs K w₀ p w`: the kernel has mapped the regions that the pool holds, each at
its address, and every other frame as it was in `w₀`. Both entry points keep
`Represents` and `Backs`, and the lemmas below say what else they do.
-/
open ProgLib

namespace LanternRuntime.Platform
open backing

variable {σ : Type} {h : Handler Frames σ} {R granted : Nat}

/-- The kernel maps what the pool holds. -/
structure Backs (K : FrameKernel h granted) (w₀ : σ) (p : Pool R) (w : σ) : Prop where
  held : ∀ {r}, p.Holds r → K.mapped w (frame r) = some (vaddr r)
  other : ∀ {f}, (∀ r, p.Holds r → f ≠ frame r) → K.mapped w f = K.mapped w₀ f

/-- No frame of the arena is mapped yet. -/
def Fresh (K : FrameKernel h granted) (w₀ : σ) : Prop := ∀ i < granted, K.mapped w₀ (frame i) = none

theorem mmapCall_new (a : Arena R) (size ret : Usize) :
    mmapCall a (.mmap_new size ret) = alloc a size >>= fun x => .ret (x.1, .mapped (match x.2 with
      | none => ⟨1, ret⟩
      | some ptr => ⟨0, ptr⟩)) := by
  simp only [mmapCall, wasmtime_mmap_new]
  rw [Prog.bind_assoc]
  congr 1
  funext x
  obtain ⟨a', _ | ptr⟩ := x <;> rfl

theorem mmapCall_munmap (a : Arena R) (ptr size : Usize) :
    mmapCall a (.munmap ptr size) = dealloc a ptr >>= fun a' => .ret (a', .rc 0) := by
  simp only [mmapCall, wasmtime_munmap]
  rw [Prog.bind_assoc]
  rfl

section Backs
variable {K : FrameKernel h granted} {w₀ w : σ} {a : Arena R} {p : Pool R}

theorem backs_empty : Backs K w₀ (Pool.empty R) w₀ where
  held := by rintro r ⟨i, s, hs, -⟩; cases hs
  other := fun _ => rfl

variable (hfit : Fits R) (hgR : granted ≤ R) (hfresh : Fresh K w₀)
include hfit

theorem Backs.idle (hb : Backs K w₀ p w) {r : Nat} (hr : r < R) (hidle : ¬ p.Holds r) :
    K.mapped w (frame r) = K.mapped w₀ (frame r) := by
  apply hb.other
  intro r' hr' he
  have hlt := hr'.lt
  have hle := p.bounded
  exact hidle (hfit.frame_inj hr (by omega) he ▸ hr')

include hgR hfresh

/-- The regions not claimed yet can be mapped. -/
theorem Backs.free (hb : Backs K w₀ p w) {r : Nat} (hnext : p.next ≤ r) (hr : r < granted) : Free K w r where
  in_grant := hr
  unmapped := by
    rw [hb.idle hfit (by omega) fun hh => absurd hh.lt (by omega)]
    exact hfresh r hr
  vacant := by
    intro j hj
    -- Another frame at this address would be one that is held, and held regions are below `next`.
    by_cases hh : p.Holds j
    · rw [hb.held hh]
      intro he
      have := hfit.vaddr_inj (by omega) (by omega) (Option.some.inj he)
      have := hh.lt
      omega
    · rw [hb.idle hfit (by omega) hh, hfresh j hj]
      exact nofun

/-- `wasmtime_mmap_new`, with enough granted regions left. -/
theorem mmap_new_claims (hrep : Represents a p) (hb : Backs K w₀ p w) {size : Usize} (ret : Usize)
    (hn : p.next + (regions_for size).toNat ≤ granted) :
    ∃ i a' w', p.span i = none ∧
      Represents a' (p.claim i _ (regions_for_pos size) (Nat.le_trans hn hgR)) ∧
      Backs K w₀ (p.claim i _ (regions_for_pos size) (Nat.le_trans hn hgR)) w' ∧
      (mmapCall a (.mmap_new size ret)).run h w = (.ret (a', .mapped ⟨0, vaddr p.next⟩), w') ∧
      framesMapped ((mmapCall a (.mmap_new size ret)).trace h w) =
        (List.range' p.next (regions_for size).toNat).map frame := by
  obtain ⟨i, a', hi, hrep', halloc⟩ := hrep.alloc_claims hfit.index (Nat.le_trans hn hgR)
  obtain ⟨w', hrun, htr, hin, hout⟩ := map_loop hfit ((MapPerms.READ.union .WRITE).union .USER)
    (regions_for size).toNat (Nat.le_trans hn hgR)
    (fun r h1 h2 => hb.free hfit hgR hfresh h1 (by omega))
  refine ⟨i, a', w', hi, hrep', ⟨?_, ?_⟩, ?_, ?_⟩
  · intro r hr
    rcases (Pool.claim_holds hi).1 hr with hold | hnew
    · -- The loop ran above `next`, and what was held is below.
      rw [hout, hb.held hold]
      intro r' h1 h2 he
      have hlt := hold.lt
      have := hfit.frame_inj (by omega) (by omega) he
      omega
    · exact hin r hnew.1 hnew.2
  · intro f hf
    rw [hout f fun r h1 h2 => hf r ((Pool.claim_holds hi).2 (.inr ⟨h1, h2⟩))]
    exact hb.other fun r hr => hf r ((Pool.claim_holds hi).2 (.inl hr))
  · rw [mmapCall_new, halloc, Prog.bind_assoc, Prog.run_bind_ret _ _ hrun]
    rfl
  · rw [mmapCall_new, halloc, Prog.bind_assoc, Prog.trace_bind_ret _ _ hrun, framesMapped_append, htr]
    simp

omit hgR hfresh

/-- `wasmtime_mmap_new`, with too few regions left in the arena. -/
theorem mmap_new_exhausted (hrep : Represents a p) {size : Usize} (ret : Usize)
    (hn : R < p.next + (regions_for size).toNat) :
    mmapCall a (.mmap_new size ret) = .ret (a, .mapped ⟨1, ret⟩) := by
  rw [mmapCall_new, hrep.alloc_exhausted hfit.index hn]
  rfl

omit hfit in
/-- `wasmtime_munmap` of an address that is not in the table. -/
theorem munmap_unknown (hrep : Represents a p) {ptr : Usize} (size : Usize)
    (hptr : ∀ i s, p.span i = some s → ptr ≠ vaddr s.start) :
    mmapCall a (.munmap ptr size) = .ret (a, .rc 0) := by
  rw [mmapCall_munmap, hrep.dealloc_unknown hptr]
  rfl

/-- `wasmtime_munmap` of an address that is. -/
theorem munmap_releases (hrep : Represents a p) (hb : Backs K w₀ p w) (hfresh : Fresh K w₀)
    (hnext : p.next ≤ granted) {i : Fin R} {s : Span} (hs : p.span i = some s) (size : Usize) :
    ∃ a' w', Represents a' (p.release i) ∧ Backs K w₀ (p.release i) w' ∧
      (mmapCall a (.munmap (vaddr s.start) size)).run h w = (.ret (a', .rc 0), w') ∧
      framesMapped ((mmapCall a (.munmap (vaddr s.start) size)).trace h w) = [] := by
  have hdealloc := hrep.dealloc_eq hfit.index (hfit.mono p.bounded) hs
  have hstop := p.inside hs
  have hle := p.bounded
  unfold Span.stop at hstop
  have hheld : ∀ r, s.start ≤ r → r < s.start + s.count → p.Holds r := fun r h1 h2 => ⟨i, s, hs, h1, h2⟩
  obtain ⟨w', hrun, htr, hin, hout⟩ := unmap_loop hfit s.count (k := s.start) (by omega)
    (fun r h1 h2 => ⟨by omega, hb.held (hheld r h1 h2)⟩)
  refine ⟨_, w', hrep.released i, ⟨?_, ?_⟩, ?_, ?_⟩
  · intro r hr
    obtain ⟨hold, hnot⟩ := (Pool.release_holds hs).1 hr
    -- A region of another span is not in the loop.
    rw [hout, hb.held hold]
    intro r' h1 h2 he
    have hlt := hold.lt
    have := hfit.frame_inj (by omega) (by omega) he
    exact hnot ⟨by omega, by unfold Span.stop; omega⟩
  · -- A frame of the span is unmapped now, as it was at first.
    intro f hf
    by_cases hspan : ∃ r, s.start ≤ r ∧ r < s.start + s.count ∧ f = frame r
    · obtain ⟨r, h1, h2, rfl⟩ := hspan
      rw [hin r h1 h2, hfresh r (by omega)]
    · rw [hout f fun r h1 h2 he => hspan ⟨r, h1, h2, he⟩]
      apply hb.other
      intro r hr he
      by_cases hhas : s.Has r
      · exact hspan ⟨r, hhas.1, hhas.2, he⟩
      · exact hf r ((Pool.release_holds hs).2 ⟨hr, hhas⟩) he
  · rw [mmapCall_munmap, hdealloc, Prog.bind_assoc, Prog.run_bind_ret _ _ hrun]
    rfl
  · rw [mmapCall_munmap, hdealloc, Prog.bind_assoc, Prog.trace_bind_ret _ _ hrun, framesMapped_append, htr]
    simp

end Backs
end LanternRuntime.Platform

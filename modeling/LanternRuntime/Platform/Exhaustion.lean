import LanternRuntime.Platform.History
/-!
# When the grant is smaller than the arena

A loader may grant fewer frames than `REGIONS`. `Clean` is a
`wasmtime_mmap_new` that succeeds or fails as a whole, and maps only granted
frames. It does so exactly where `Settled` holds: `alloc` compares the end of
the range with `REGIONS` only, moves the bump index, and panics at the first
frame that was not granted.
-/
open ProgLib

namespace LanternRuntime.Platform
open backing

variable {σ : Type} {h : Handler Frames σ} {R granted : Nat}

/-- `wasmtime_mmap_new(size)` returns, passes only granted frames to `Map`, and either returns 0
with every region of the range newly mapped, or leaves statics and mappings as they were. -/
def Clean (K : FrameKernel h granted) (a : Arena R) (w : σ) (size ret : Usize) : Prop :=
  ∃ a' m w', (mmapCall a (.mmap_new size ret)).run h w = (.ret (a', .mapped m), w') ∧
    (∀ f ∈ framesMapped ((mmapCall a (.mmap_new size ret)).trace h w), ∃ i < granted, f = frame i) ∧
    ((m.rc = 0 ∧ ∃ k, m.ret = vaddr k ∧ ∀ r, k ≤ r → r < k + (regions_for size).toNat →
        K.mapped w (frame r) = none ∧ K.mapped w' (frame r) = some (vaddr r)) ∨
     (m.rc ≠ 0 ∧ a' = a ∧ K.mapped w' = K.mapped w))

section Reached
variable {K : StrictKernel h granted} {w₀ w : σ} {p : Pool R} {hist : List MmapStep} {a : Arena R}
  (hfit : Fits R) (hgR : granted ≤ R) (hfresh : Fresh K.toFrameKernel w₀)
include hfit hfresh

/-- The grant runs out before the arena does. -/
theorem mmap_new_panics (hr : Reached K.toFrameKernel w₀ p hist a w) (size ret : Usize)
    (hlo : granted < p.next + (regions_for size).toNat) (hhi : p.next + (regions_for size).toNat ≤ R) :
    ∃ msg w', (mmapCall a (.mmap_new size ret)).run h w = (.panic msg, w') ∧
      frame granted ∈ framesMapped ((mmapCall a (.mmap_new size ret)).trace h w) := by
  obtain ⟨i, a', -, -, halloc⟩ := hr.rep.alloc_claims hfit.index hhi
  obtain ⟨msg, w', hrun, hmem⟩ := map_loop_panics hfit K (by omega) ((MapPerms.READ.union .WRITE).union .USER)
    (regions_for size).toNat hr.in_grant hlo
    (fun r h1 h2 => hr.backs.free hfit (by omega) hfresh h1 h2)
  refine ⟨msg, w', ?_, ?_⟩
  · rw [mmapCall_new, halloc, Prog.bind_assoc, Prog.run_bind_panic _ _ _ hrun]
  · rw [mmapCall_new, halloc, Prog.bind_assoc, Prog.trace_bind_panic _ _ _ hrun]
    exact hmem

/-- A `wasmtime_mmap_new` that returns was settled. -/
theorem Reached.settled_of_ret (hr : Reached K.toFrameKernel w₀ p hist a w) {size ret : Usize}
    {x : Arena R × MmapReply} {w' : σ} (hrun : (mmapCall a (.mmap_new size ret)).run h w = (.ret x, w')) :
    Settled granted a size := by
  unfold Settled
  rw [hr.rep.next_toNat hfit.index]
  by_contra hnot
  obtain ⟨msg, w'', hpanic, -⟩ := mmap_new_panics hfit hfresh hr size ret (by omega) (by omega)
  rw [hrun] at hpanic
  cases hpanic

include hgR

/-- The invariant holds in every reachable state. -/
theorem reached_of_served (hs : Served h mmapCall (Arena.empty R) w₀ hist a w) :
    ∃ p, Reached K.toFrameKernel w₀ p hist a w := by
  refine hs.inv (I := fun hist a w => ∃ p, Reached K.toFrameKernel w₀ p hist a w) ⟨_, reached_empty⟩ ?_
  rintro hist a w c a' r w' ⟨p, hr⟩ hrun
  have hset : ∀ size ret, c = .mmap_new size ret → Settled granted a size := by
    rintro size ret rfl
    exact hr.settled_of_ret hfit hfresh hrun
  obtain ⟨q, a'', r', w'', hrun', -, hr'⟩ := hr.call hfit hgR hfresh c hset
  rw [hrun] at hrun'
  cases hrun'
  exact ⟨q, hr'⟩

/-- A settled `wasmtime_mmap_new` is clean. -/
theorem Reached.clean (hr : Reached K.toFrameKernel w₀ p hist a w) {size : Usize} (ret : Usize)
    (hset : Settled granted a size) : Clean K.toFrameKernel a w size ret := by
  unfold Settled at hset
  rw [hr.rep.next_toNat hfit.index] at hset
  rcases hset with hn | hn
  · obtain ⟨i, a', w', hi, -, hbacks, hrun, htr⟩ := mmap_new_claims hfit hgR hfresh hr.rep hr.backs ret hn
    refine ⟨a', ⟨0, vaddr p.next⟩, w', hrun, ?_, .inl ⟨rfl, p.next, rfl, ?_⟩⟩
    · rw [htr]
      intro f hf
      obtain ⟨r, hmem, rfl⟩ := List.mem_map.1 hf
      have hrange := List.mem_range'_1.1 hmem
      exact ⟨r, by omega, rfl⟩
    · intro r h1 h2
      exact ⟨(hr.backs.free hfit hgR hfresh h1 (by omega)).unmapped,
        hbacks.held ((Pool.claim_holds hi).2 (.inr ⟨h1, h2⟩))⟩
  · have heq := mmap_new_exhausted hfit hr.rep ret hn
    refine ⟨a, ⟨1, ret⟩, w, by rw [heq]; rfl, ?_, .inr ⟨Int.one_ne_zero, rfl, rfl⟩⟩
    rw [heq]
    exact nofun

end Reached

/-! ## Whole runs -/

/-- In every reachable state, `wasmtime_mmap_new(size)` is clean if and only if its range ends
inside the grant, or beyond the arena. -/
theorem mmap_new_clean_iff {h : Handler Frames σ} (hfit : Fits R) (hgR : granted ≤ R) (K : StrictKernel h granted)
    {w₀ : σ} (hfresh : Fresh K.toFrameKernel w₀) {hist : List MmapStep} {a : Arena R} {w : σ}
    (hs : Served h mmapCall (Arena.empty R) w₀ hist a w) (size ret : Usize) :
    Clean K.toFrameKernel a w size ret ↔ Settled granted a size := by
  obtain ⟨p, hr⟩ := reached_of_served hfit hgR hfresh hs
  constructor
  · rintro ⟨a', m, w', hrun, -⟩
    exact hr.settled_of_ret hfit hfresh hrun
  · exact hr.clean hfit hgR hfresh ret

/-- With two of four regions taken and three granted, a request for one more. -/
theorem mmap_new_clean_iff_third_frame :
    ∃ hist a w, Served (tableKernel 3) mmapCall (Arena.empty 4) (fun _ => none) hist a w ∧
      (Clean (tableKernel_strict 3).toFrameKernel a w 0x1000 0 ↔ Settled 3 a 0x1000) := by
  have hserved := replay_served (tableKernel 3) mmapCall [.mmap_new 0x400000 0] (s := Arena.empty 4)
    (fun _ => none) _ rfl
  refine ⟨_, _, _, hserved, ?_⟩
  exact mmap_new_clean_iff (by unfold Fits; decide) (by decide) _ (fun _ _ => rfl) hserved 0x1000 0

/-- 8 MiB from an empty arena of four regions, three of them granted: `alloc` invokes `Map` on slot
10, where `confined-runtime` has its revocation notification, and panics. -/
theorem mmap_new_not_clean_fourth_frame :
    (∃ msg w, (mmapCall (Arena.empty 4) (.mmap_new 0x800000 0)).run (tableKernel 3) (fun _ => none) = (.panic msg, w)) ∧
    10 ∈ framesMapped ((mmapCall (Arena.empty 4) (.mmap_new 0x800000 0)).trace (tableKernel 3) (fun _ => none)) ∧
    ¬ Clean (tableKernel_strict 3).toFrameKernel (Arena.empty 4) (fun _ => none) 0x800000 0 := by
  have hcount : (regions_for 0x800000).toNat = 4 := by decide
  have hempty : Reached (tableKernel_strict 3).toFrameKernel (fun _ => none) (Pool.empty 4) [] (Arena.empty 4)
      fun _ => none := reached_empty
  obtain ⟨msg, w, hrun, hmem⟩ := mmap_new_panics (by unfold Fits; decide) (fun _ _ => rfl) hempty 0x800000 0
    (by rw [hcount]; decide) (by rw [hcount]; decide)
  refine ⟨⟨msg, w, hrun⟩, hmem, ?_⟩
  rintro ⟨a', m, w', hret, -⟩
  rw [hrun] at hret
  cases hret

end LanternRuntime.Platform

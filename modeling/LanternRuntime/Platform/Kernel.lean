import Mathlib.Logic.Function.Basic
import LanternRuntime.Platform.Regions
/-!
# The kernel, and the loops over it

`FrameKernel` is what the arena relies on of the kernel: a granted frame that
is not mapped can be mapped at a free address, and a mapped one unmapped. The
lemmas below run the two loops of `backing` against such a kernel.
-/
open ProgLib

namespace LanternRuntime.Platform
open backing

variable {σ : Type}

/-- A kernel that granted the frames of the first `granted` regions, and nothing else at
their addresses. -/
structure FrameKernel (h : Handler Frames σ) (granted : Nat) where
  /-- Where each frame capability is mapped. -/
  mapped : σ → Usize → Option Usize
  map_ok : ∀ {i v s} perms, i < granted → mapped s (frame i) = none →
    (∀ j < granted, mapped s (frame j) ≠ some v) →
    (h (.map (frame i) SELF_VSPACE_CPTR v perms) s).1 = .ok () ∧
    mapped (h (.map (frame i) SELF_VSPACE_CPTR v perms) s).2 = Function.update (mapped s) (frame i) (some v)
  unmap_ok : ∀ {i v s}, i < granted → mapped s (frame i) = some v →
    (h (.unmap (frame i) SELF_VSPACE_CPTR) s).1 = .ok () ∧
    mapped (h (.unmap (frame i) SELF_VSPACE_CPTR) s).2 = Function.update (mapped s) (frame i) none

/-- The frames that a trace passed to `Map`. -/
def framesMapped (tr : List (Event Frames)) : List Usize :=
  tr.filterMap fun e => match e.call with
    | .map f _ _ _ => some f
    | .unmap _ _ => none

@[simp] theorem framesMapped_nil : framesMapped [] = [] := rfl

@[simp] theorem framesMapped_append (tr tr' : List (Event Frames)) :
    framesMapped (tr ++ tr') = framesMapped tr ++ framesMapped tr' :=
  List.filterMap_append ..

/-! ## A loop over regions -/

section Loops
variable {h : Handler Frames σ} {R granted : Nat} (hfit : Fits R) (K : FrameKernel h granted)

/-- What `body` does to a region in `Pre`: `val` is then where its frame is mapped, and `maps`
are the frames it passes to `Map`. -/
def Changes (body : Usize → Prog Frames Unit) (Pre : σ → Nat → Prop) (val : Nat → Option Usize)
    (maps : Nat → List Usize) : Prop :=
  ∀ s r, Pre s r → ∃ s', (body (UInt64.ofNat r)).run h s = (.ret (), s') ∧
    framesMapped ((body (UInt64.ofNat r)).trace h s) = maps r ∧
    K.mapped s' = Function.update (K.mapped s) (frame r) (val r)

variable {K} {body : Usize → Prog Frames Unit} {Pre : σ → Nat → Prop} {val : Nat → Option Usize}
  {maps : Nat → List Usize}

include hfit in
/-- A loop over the regions `k, …, k + n - 1` changes each of them, provided a step keeps the
others in `Pre`. -/
theorem Changes.loop (hbody : Changes K body Pre val maps)
    (hpre : ∀ {s s' k r}, k < R → r < R → r ≠ k → Pre s r →
      K.mapped s' = Function.update (K.mapped s) (frame k) (val k) → Pre s' r)
    (n : Nat) {k : Nat} {s : σ} (hkn : k + n ≤ R) (hall : ∀ r, k ≤ r → r < k + n → Pre s r) :
    ∃ s', (for_range.go body n (UInt64.ofNat k)).run h s = (.ret (), s') ∧
      framesMapped ((for_range.go body n (UInt64.ofNat k)).trace h s) = (List.range' k n).flatMap maps ∧
      (∀ r, k ≤ r → r < k + n → K.mapped s' (frame r) = val r) ∧
      (∀ f, (∀ r, k ≤ r → r < k + n → f ≠ frame r) → K.mapped s' f = K.mapped s f) := by
  -- By induction on how many regions are left. The first step is `k`, and keeps the rest in `Pre`.
  induction n generalizing k s with
  | zero => exact ⟨s, rfl, rfl, fun r h1 h2 => by omega, fun f _ => rfl⟩
  | succ n ih =>
    have hk : k < R := by omega
    obtain ⟨s₁, hrun, htr, hs₁⟩ := hbody s k (hall k (Nat.le_refl k) (by omega))
    have hall₁ : ∀ r, k + 1 ≤ r → r < k + 1 + n → Pre s₁ r := by
      intro r h1 h2
      exact hpre hk (by omega) (by omega) (hall r (by omega) (by omega)) hs₁
    obtain ⟨s₂, hrun₂, htr₂, hin, hout⟩ := ih (by omega) hall₁
    have hgo := for_range_go_succ body n k
    refine ⟨s₂, ?_, ?_, ?_, ?_⟩
    · rw [hgo, Prog.run_bind_ret _ _ hrun, hrun₂]
    · rw [hgo, Prog.trace_bind_ret _ _ hrun, framesMapped_append, htr, htr₂, List.range'_succ, List.flatMap_cons]
    · -- The rest of the loop leaves `k` as its own step left it.
      intro r h1 h2
      by_cases hr : r = k
      · subst hr
        rw [hout, hs₁, Function.update_self]
        intro r' h1' h2' he
        have := hfit.frame_inj hk (by omega) he
        omega
      · exact hin r (by omega) (by omega)
    · intro f hf
      rw [hout f fun r h1 h2 => hf r (by omega) (by omega), hs₁,
        Function.update_of_ne (hf k (Nat.le_refl k) (by omega))]

/-! ## The loop that maps -/

/-- One call, then its answer. -/
theorem map_region_eq (perms : MapPerms) (r : Nat) :
    map_region perms (UInt64.ofNat r) = .call (.map (frame r) SELF_VSPACE_CPTR (vaddr r) perms) fun
      | .ok () => .ret ()
      | .error _ => .panic "a granted arena Frame must map into this program's own VSpace" := by
  refine congrArg (Prog.call (E := Frames) (.map (frame r) SELF_VSPACE_CPTR (vaddr r) perms)) ?_
  funext ans
  rcases ans with e | ⟨⟩ <;> rfl

variable (K) in
/-- Region `r` can be mapped. -/
structure Free (s : σ) (r : Nat) : Prop where
  in_grant : r < granted
  unmapped : K.mapped s (frame r) = none
  vacant : ∀ j < granted, K.mapped s (frame j) ≠ some (vaddr r)

theorem map_region_changes (perms : MapPerms) :
    Changes K (map_region perms) (Free K) (fun r => some (vaddr r)) (fun r => [frame r]) := by
  intro s r hr
  obtain ⟨hok, hm⟩ := K.map_ok perms hr.in_grant hr.unmapped hr.vacant
  refine ⟨_, ?_, ?_, hm⟩
  · simp [map_region_eq, hok]
  · simp [map_region_eq, framesMapped, hok]

include hfit in
/-- Free regions stay free while another one is mapped. -/
theorem Free.of_update {s s' : σ} {k r : Nat} (hk : k < R) (hrR : r < R) (hne : r ≠ k) (hr : Free K s r)
    (hs : K.mapped s' = Function.update (K.mapped s) (frame k) (some (vaddr k))) : Free K s' r where
  in_grant := hr.in_grant
  unmapped := by
    rw [hs, Function.update_of_ne fun he => hne (hfit.frame_inj hrR hk he)]
    exact hr.unmapped
  vacant := by
    intro j hj
    rw [hs]
    by_cases hf : frame j = frame k
    · rw [hf, Function.update_self]
      intro he
      exact hne (hfit.vaddr_inj hk hrR (Option.some.inj he)).symm
    · rw [Function.update_of_ne hf]
      exact hr.vacant j hj

include hfit in
/-- Mapping the regions `k, …, k + n - 1`, all of them free. -/
theorem map_loop (perms : MapPerms) (n : Nat) {k : Nat} {s : σ} (hkn : k + n ≤ R)
    (hfree : ∀ r, k ≤ r → r < k + n → Free K s r) :
    ∃ s', (for_range.go (map_region perms) n (UInt64.ofNat k)).run h s = (.ret (), s') ∧
      framesMapped ((for_range.go (map_region perms) n (UInt64.ofNat k)).trace h s) = (List.range' k n).map frame ∧
      (∀ r, k ≤ r → r < k + n → K.mapped s' (frame r) = some (vaddr r)) ∧
      (∀ f, (∀ r, k ≤ r → r < k + n → f ≠ frame r) → K.mapped s' f = K.mapped s f) := by
  rw [List.map_eq_flatMap]
  exact (map_region_changes perms).loop hfit (fun hk hr hne hf hs => hf.of_update hfit hk hr hne hs) n hkn hfree

/-! ## The loop that unmaps -/

variable (K) in
/-- Region `r` is mapped. -/
def InUse (s : σ) (r : Nat) : Prop := r < granted ∧ K.mapped s (frame r) = some (vaddr r)

theorem unmap_region_changes : Changes K unmap_region (InUse K) (fun _ => none) (fun _ => []) :=
  fun _ _ hr => ⟨_, rfl, rfl, (K.unmap_ok hr.1 hr.2).2⟩

include hfit in
/-- Unmapping the regions `k, …, k + n - 1`, all of them mapped. -/
theorem unmap_loop (n : Nat) {k : Nat} {s : σ} (hkn : k + n ≤ R)
    (hused : ∀ r, k ≤ r → r < k + n → InUse K s r) :
    ∃ s', (for_range.go unmap_region n (UInt64.ofNat k)).run h s = (.ret (), s') ∧
      framesMapped ((for_range.go unmap_region n (UInt64.ofNat k)).trace h s) = [] ∧
      (∀ r, k ≤ r → r < k + n → K.mapped s' (frame r) = none) ∧
      (∀ f, (∀ r, k ≤ r → r < k + n → f ≠ frame r) → K.mapped s' f = K.mapped s f) := by
  have hkeep : ∀ {s s' k r}, k < R → r < R → r ≠ k → InUse K s r →
      K.mapped s' = Function.update (K.mapped s) (frame k) none → InUse K s' r := by
    intro s s' k r hk hr hne hu hs
    refine ⟨hu.1, ?_⟩
    rw [hs, Function.update_of_ne fun he => hne (hfit.frame_inj hr hk he)]
    exact hu.2
  obtain ⟨s', hrun, htr, hin, hout⟩ := unmap_region_changes.loop hfit hkeep n hkn hused
  exact ⟨s', hrun, htr.trans (by simp), hin, hout⟩

/-! ## A grant that runs out -/

/-- A kernel that grants no more: it refuses to map whatever is not a granted, unmapped frame. -/
structure StrictKernel (h : Handler Frames σ) (granted : Nat) extends FrameKernel h granted where
  map_err : ∀ {f s} v perms, (∀ i < granted, f = frame i → mapped s f ≠ none) →
    ∃ e, (h (.map f SELF_VSPACE_CPTR v perms) s).1 = .error e

include hfit in
/-- The loop that maps comes to the first region that was not granted, and panics there. -/
theorem map_loop_panics (K : StrictKernel h granted) (hgR : granted < R) (perms : MapPerms) (n : Nat) {k : Nat}
    {s : σ} (hk : k ≤ granted) (hn : granted < k + n) (hfree : ∀ r, k ≤ r → r < granted → Free K.toFrameKernel s r) :
    ∃ msg s', (for_range.go (map_region perms) n (UInt64.ofNat k)).run h s = (.panic msg, s') ∧
      frame granted ∈ framesMapped ((for_range.go (map_region perms) n (UInt64.ofNat k)).trace h s) := by
  -- By induction on how many regions are left: `k` is granted and mapped, or it is the first that is not.
  induction n generalizing k s with
  | zero => omega
  | succ n ih =>
    rw [for_range_go_succ]
    rcases Nat.lt_or_ge k granted with hlt | hge
    · obtain ⟨s₁, hrun, -, hs₁⟩ := map_region_changes perms s k (hfree k (Nat.le_refl k) hlt)
      have hfree₁ : ∀ r, k + 1 ≤ r → r < granted → Free K.toFrameKernel s₁ r := by
        intro r h1 h2
        exact (hfree r (by omega) h2).of_update hfit (by omega) (by omega) (by omega) hs₁
      obtain ⟨msg, s₂, hrun₂, hmem⟩ := ih hlt (by omega) hfree₁
      refine ⟨msg, s₂, ?_, ?_⟩
      · rw [Prog.run_bind_ret _ _ hrun, hrun₂]
      · rw [Prog.trace_bind_ret _ _ hrun, framesMapped_append]
        exact List.mem_append_right _ hmem
    · -- No granted frame is the frame of region `granted`.
      obtain rfl : k = granted := by omega
      have hnot : ∀ i < k, frame k = frame i → K.mapped s (frame k) ≠ none := by
        intro i hi he
        have := hfit.frame_inj hgR (by omega) he
        omega
      obtain ⟨e, he⟩ := K.map_err (vaddr k) perms hnot
      have hpanic : (map_region perms (UInt64.ofNat k)).run h s =
          (.panic "a granted arena Frame must map into this program's own VSpace",
            (h (.map (frame k) SELF_VSPACE_CPTR (vaddr k) perms) s).2) := by
        simp [map_region_eq, he]
      refine ⟨_, _, Prog.run_bind_panic _ _ _ hpanic, ?_⟩
      rw [Prog.trace_bind_panic _ _ _ hpanic]
      simp [map_region_eq, framesMapped]

end Loops

/-! ## A kernel -/

section Table
variable (granted : Nat) (m : Usize → Option Usize)

/-- The frame is granted, and neither it nor the address is in use. -/
def Mappable (f v : Usize) : Prop := (∃ i < granted, f = frame i) ∧ m f = none ∧ ∀ j < granted, m (frame j) ≠ some v

instance (f v : Usize) : Decidable (Mappable granted m f v) := inferInstanceAs (Decidable (_ ∧ _ ∧ _))

end Table

/-- A kernel that keeps a table of what is mapped where. -/
def tableKernel (granted : Nat) : Handler Frames (Usize → Option Usize)
  | .map f vspace v _, m =>
    if vspace = SELF_VSPACE_CPTR ∧ Mappable granted m f v then (.ok (), Function.update m f (some v)) else (.error 1, m)
  | .unmap f _, m => if m f = none then (.error 1, m) else (.ok (), Function.update m f none)

def tableKernel_strict (granted : Nat) : StrictKernel (tableKernel granted) granted where
  mapped := id
  map_ok := by
    intro i v m perms hi hm hv
    have hmap : Mappable granted m (frame i) v := ⟨⟨i, hi, rfl⟩, hm, hv⟩
    exact ⟨congrArg Prod.fst (if_pos ⟨rfl, hmap⟩), congrArg Prod.snd (if_pos ⟨rfl, hmap⟩)⟩
  unmap_ok := by
    intro i v m hi hm
    -- What is mapped is in the table.
    have hsome : ¬ m (frame i) = none := fun he => nomatch he.symm.trans hm
    exact ⟨congrArg Prod.fst (if_neg hsome), congrArg Prod.snd (if_neg hsome)⟩
  map_err := by
    intro f m v perms hf
    have hnot : ¬ (SELF_VSPACE_CPTR = SELF_VSPACE_CPTR ∧ Mappable granted m f v) := by
      rintro ⟨-, ⟨i, hi, he⟩, hm, -⟩
      exact hf i hi he hm
    exact ⟨1, congrArg Prod.fst (if_neg hnot)⟩

end LanternRuntime.Platform

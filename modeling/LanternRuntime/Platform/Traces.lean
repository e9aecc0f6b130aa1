import LanternRuntime.Platform.Mapping
/-!
# The system calls of one call, however they are answered

Which frames `backing` maps and unmaps depends on its statics alone. The lemmas
here are about every run: the kernel may answer as it likes, and a `Map` that it
refuses ends the run in a panic.
-/
open ProgLib

namespace LanternRuntime.Platform
open backing

variable {R : Nat} {a a' : Arena R} {tr : List (Event Frames)} {n k : Nat}

/-! ## Loops -/

/-- The loop that maps comes to its end only if every `Map` succeeded. -/
theorem map_loop_runs {perms : MapPerms} (h : Runs (for_range.go (map_region perms) n (UInt64.ofNat k)) tr (.ret ())) :
    tr = (List.range' k n).map fun r => ⟨.map (frame r) SELF_VSPACE_CPTR (vaddr r) perms, .ok ()⟩ := by
  induction n generalizing k tr with
  | zero => exact (runs_ret.1 h).1
  | succ n ih =>
    rw [for_range_go_succ, map_region_eq] at h
    obtain ⟨ans, tr', rfl, h'⟩ := runs_call.1 h
    rcases ans with e | ⟨⟩
    · cases (runs_panic.1 h').2
    · rw [List.range'_succ, List.map_cons, ih h']

/-- The loop that unmaps always comes to its end. -/
theorem unmap_loop_runs {o : Outcome Unit} (h : Runs (for_range.go unmap_region n (UInt64.ofNat k)) tr o) :
    o = .ret () ∧ tr.map Event.call = (List.range' k n).map fun r => .unmap (frame r) SELF_VSPACE_CPTR := by
  induction n generalizing k tr with
  | zero =>
    obtain ⟨rfl, rfl⟩ := runs_ret.1 h
    exact ⟨rfl, rfl⟩
  | succ n ih =>
    rw [for_range_go_succ] at h
    obtain ⟨ans, tr', rfl, h'⟩ := runs_call.1 h
    obtain ⟨rfl, htr⟩ := ih h'
    refine ⟨rfl, ?_⟩
    rw [List.map_cons, htr, List.range'_succ, List.map_cons]
    rfl

/-- The frames of a trace are those of its calls. -/
theorem framesMapped_eq (tr : List (Event Frames)) :
    framesMapped tr = (tr.map Event.call).filterMap fun
      | .map f _ _ _ => some f
      | .unmap _ _ => none := by
  rw [List.filterMap_map]
  rfl

theorem framesMapped_map_loop {perms : MapPerms}
    (h : Runs (for_range.go (map_region perms) n (UInt64.ofNat k)) tr (.ret ())) :
    framesMapped tr = (List.range' k n).map frame := by
  rw [map_loop_runs h]
  induction List.range' k n with
  | nil => rfl
  | cons r l ih => exact congrArg (frame r :: ·) ih

theorem framesMapped_unmaps {l : List Nat}
    (h : tr.map Event.call = l.map fun r => .unmap (frame r) SELF_VSPACE_CPTR) : framesMapped tr = [] := by
  rw [framesMapped_eq, h]
  simp

/-! ## Entry points -/

theorem runs_mmap_new {size ret : Usize} {r : MmapReply}
    (h : Runs (mmapCall a (.mmap_new size ret)) tr (.ret (a', r))) :
    ∃ o, Runs (alloc a size) tr (.ret (a', o)) ∧ r = .mapped (match o with
      | none => ⟨1, ret⟩
      | some ptr => ⟨0, ptr⟩) := by
  rw [mmapCall_new] at h
  obtain ⟨⟨a'', o⟩, ha, he⟩ := runs_bind_ret.1 h
  cases he
  exact ⟨o, ha, rfl⟩

theorem runs_munmap {ptr size : Usize} {r : MmapReply} (h : Runs (mmapCall a (.munmap ptr size)) tr (.ret (a', r))) :
    Runs (dealloc a ptr) tr (.ret a') ∧ r = .rc 0 := by
  rw [mmapCall_munmap] at h
  obtain ⟨a'', ha, he⟩ := runs_bind_ret.1 h
  cases he
  exact ⟨ha, rfl⟩

/-- `alloc` returned: it changed nothing, or mapped its regions and took them. -/
theorem runs_alloc (hR : R < 2 ^ 64) {size : Usize} {o : Option Usize} (h : Runs (alloc a size) tr (.ret (a', o))) :
    (R < a.next_region.toNat + (regions_for size).toNat ∧ tr = [] ∧ a' = a ∧ o = none) ∨
    (a.next_region.toNat + (regions_for size).toNat ≤ R ∧ (a', o) = allocated a size ∧
      Runs (for_range.go (map_region ((MapPerms.READ.union .WRITE).union .USER)) (regions_for size).toNat
        (UInt64.ofNat a.next_region.toNat)) tr (.ret ())) := by
  rcases Nat.lt_or_ge R (a.next_region.toNat + (regions_for size).toNat) with hn | hn
  · rw [alloc_too_many hR hn] at h
    obtain ⟨rfl, he⟩ := runs_ret.1 h
    cases he
    exact .inl ⟨hn, rfl, rfl, rfl⟩
  · rw [alloc_enough hR hn] at h
    obtain ⟨⟨⟩, hloop, he⟩ := runs_bind_ret.1 h
    rw [UInt64.ofNat_toNat]
    exact .inr ⟨hn, he, hloop⟩

/-- `dealloc` returned: it did nothing, or zeroed an entry after a loop that unmaps. -/
theorem runs_dealloc {ptr : Usize} (h : Runs (dealloc a ptr) tr (.ret a')) :
    (tr = [] ∧ a' = a) ∨
    (∃ (slot : Fin R) (l : List Nat), a' = a.set_slot slot 0 0 ∧
      tr.map Event.call = l.map fun r => .unmap (frame r) SELF_VSPACE_CPTR) := by
  unfold dealloc at h
  split at h
  · obtain ⟨rfl, he⟩ := runs_ret.1 h
    cases he
    exact .inl ⟨rfl, rfl⟩
  · next slot _ =>
    obtain ⟨⟨⟩, hloop, rfl⟩ := runs_bind_ret.1 h
    unfold for_range at hloop
    rw [← UInt64.ofNat_toNat (x := (ptr - ARENA_VADDR) / MEGAPAGE_BYTES)] at hloop
    exact .inr ⟨slot, _, rfl, (unmap_loop_runs hloop).2⟩

end LanternRuntime.Platform

import LanternRuntime.Platform.Mapping
/-!
# Runs of the arena

`Sound` is what holds after every list of `wasmtime_mmap_new` and
`wasmtime_munmap` calls: the table, the bump index and the kernel's mappings
agree, what is live is backed, and nothing was ever mapped or handed out twice.
It is read off the statics alone. `Reached` is the invariant behind it, which
follows the pool that the statics represent.
-/
open ProgLib

namespace LanternRuntime.Platform
open backing

variable {σ : Type} {R : Nat}

/-! ## What the statics say -/

namespace backing

/-- The first region of entry `i`, as `dealloc` computes it. -/
def Arena.first (a : Arena R) (i : Fin R) : Nat := ((a.alloc_vaddr i - ARENA_VADDR) / MEGAPAGE_BYTES).toNat

/-- Entry `i` is occupied, and region `r` is one of its own. -/
def Arena.Covers (a : Arena R) (i : Fin R) (r : Nat) : Prop :=
  a.alloc_count i ≠ 0 ∧ a.first i ≤ r ∧ r < a.first i + (a.alloc_count i).toNat

/-- Occupied entries are disjoint runs of regions below the bump index. -/
structure Arena.WellFormed (a : Arena R) : Prop where
  bounded : a.next_region.toNat ≤ R
  inside : ∀ {i}, a.alloc_count i ≠ 0 → a.first i + (a.alloc_count i).toNat ≤ a.next_region.toNat
  address : ∀ {i}, a.alloc_count i ≠ 0 → a.alloc_vaddr i = vaddr (a.first i)
  disjoint : ∀ {i j r}, a.Covers i r → a.Covers j r → i = j

section Represents
variable {a : Arena R} {p : Pool R} (hfit : Fits R) (h : Represents a p)
include hfit h

theorem Represents.first_eq {i : Fin R} {s : Span} (hs : p.span i = some s) : a.first i = s.start := by
  unfold Arena.first
  rw [h.addr hs, hfit.region_of_vaddr (start_lt hs), hfit.ofNat_toNat (Nat.le_of_lt (start_lt hs))]

omit hfit in
theorem Represents.span_of_occupied {i : Fin R} (hi : a.alloc_count i ≠ 0) : ∃ s, p.span i = some s := by
  cases hs : p.span i with
  | none => exact absurd (h.free hs) hi
  | some s => exact ⟨s, rfl⟩

theorem Represents.covers_iff {i : Fin R} {r : Nat} : a.Covers i r ↔ ∃ s, p.span i = some s ∧ s.Has r := by
  constructor
  · rintro ⟨hne, h1, h2⟩
    obtain ⟨s, hs⟩ := h.span_of_occupied hne
    rw [h.first_eq hfit hs] at h1 h2
    rw [h.count_toNat hfit.index hs] at h2
    exact ⟨s, hs, h1, h2⟩
  · rintro ⟨s, hs, h1, h2⟩
    refine ⟨h.count_ne_zero hfit.index hs, ?_, ?_⟩
    · rwa [h.first_eq hfit hs]
    · rwa [h.first_eq hfit hs, h.count_toNat hfit.index hs]

/-- What the pool's type says, read off the statics. -/
theorem Represents.wellFormed : a.WellFormed where
  bounded := by
    rw [h.next_toNat hfit.index]
    exact p.bounded
  inside := by
    intro i hi
    obtain ⟨s, hs⟩ := h.span_of_occupied hi
    rw [h.first_eq hfit hs, h.count_toNat hfit.index hs, h.next_toNat hfit.index]
    exact p.inside hs
  address := by
    intro i hi
    obtain ⟨s, hs⟩ := h.span_of_occupied hi
    rw [h.first_eq hfit hs, h.addr hs]
  disjoint := by
    intro i j r hi hj
    obtain ⟨s, hs, hsr⟩ := (h.covers_iff hfit).1 hi
    obtain ⟨t, ht, htr⟩ := (h.covers_iff hfit).1 hj
    exact p.disjoint hs ht hsr htr

end Represents
end backing

/-! ## What the history says -/

abbrev MmapStep := Step Frames MmapCall MmapReply

def returnedBy (e : MmapStep) : Option (Usize × Usize) :=
  match e.call, e.reply with
  | .mmap_new size _, .mapped m => if m.rc = 0 then some (m.ret, size) else none
  | _, _ => none

/-- The allocations that succeeded: the address returned, and the size asked for. -/
def returned (hist : List MmapStep) : List (Usize × Usize) := hist.filterMap returnedBy

def liveStep (l : List (Usize × Usize)) (e : MmapStep) : List (Usize × Usize) :=
  match e.call, e.reply with
  | .mmap_new size _, .mapped m => if m.rc = 0 then l ++ [(m.ret, size)] else l
  | .munmap ptr _, _ => l.filter fun x => x.1 ≠ ptr
  | _, _ => l

/-- Those that were not unmapped since. -/
def live (hist : List MmapStep) : List (Usize × Usize) := hist.foldl liveStep []

@[simp] theorem live_snoc (hist : List MmapStep) (e : MmapStep) :
    live (hist ++ [e]) = liveStep (live hist) e := by simp [live]

@[simp] theorem returned_snoc (hist : List MmapStep) (e : MmapStep) :
    returned (hist ++ [e]) = returned hist ++ (returnedBy e).toList := by
  cases he : returnedBy e <;> simp [returned, he]

/-- What holds after a run from the empty arena, with the kernel in `w₀` at first and in `w` now. -/
structure Sound {h : Handler Frames σ} (K : FrameKernel h R) (w₀ : σ) (hist : List MmapStep) (a : Arena R) (w : σ) :
    Prop where
  table : a.WellFormed
  mapped : ∀ r < R, ∀ v, K.mapped w (frame r) = some v ↔ (∃ i, a.Covers i r) ∧ v = vaddr r
  others : ∀ f, (∀ r < R, f ≠ frame r) → K.mapped w f = K.mapped w₀ f
  live : ∀ ptr size, (ptr, size) ∈ live hist → ∃ i : Fin R, a.alloc_count i ≠ 0 ∧ a.alloc_vaddr i = ptr ∧
    size.toNat ≤ (a.alloc_count i).toNat * MEGAPAGE_BYTES.toNat ∧ ARENA_VADDR.toNat ≤ ptr.toNat ∧
    ptr.toNat + (a.alloc_count i).toNat * MEGAPAGE_BYTES.toNat ≤ ARENA_VADDR.toNat + R * MEGAPAGE_BYTES.toNat
  mapped_once : (framesMapped (hist.flatMap Step.trace)).Nodup
  returned_once : ((returned hist).map Prod.fst).Nodup

/-! ## The invariant -/

variable {granted : Nat} {h : Handler Frames σ}

/-- After `hist` the statics are the pool `p`. -/
structure Reached (K : FrameKernel h granted) (w₀ : σ) (p : Pool R) (hist : List MmapStep) (a : Arena R) (w : σ) :
    Prop where
  rep : Represents a p
  backs : Backs K w₀ p w
  in_grant : p.next ≤ granted
  maps : framesMapped (hist.flatMap Step.trace) = (List.range p.next).map frame
  starts : ∃ ks : List Nat, (returned hist).map Prod.fst = ks.map vaddr ∧ ks.Pairwise (· < ·) ∧ ∀ k ∈ ks, k < p.next
  lives : ∀ ptr size, (ptr, size) ∈ live hist → ∃ i s, p.span i = some s ∧ ptr = vaddr s.start ∧
    size.toNat ≤ s.count * MEGAPAGE_BYTES.toNat

/-- `wasmtime_mmap_new(size)` either finds its regions granted or the arena exhausted. -/
def Settled (granted : Nat) (a : Arena R) (size : Usize) : Prop :=
  a.next_region.toNat + (regions_for size).toNat ≤ granted ∨
  R < a.next_region.toNat + (regions_for size).toNat

section Reached
variable {K : FrameKernel h granted} {w₀ w : σ} {p : Pool R} {hist : List MmapStep} {a : Arena R}

theorem reached_empty : Reached K w₀ (Pool.empty R) [] (Arena.empty R) w₀ where
  rep := represents_empty
  backs := backs_empty
  in_grant := Nat.zero_le _
  maps := rfl
  starts := ⟨[], rfl, .nil, nofun⟩
  lives := nofun

variable (hfit : Fits R) (hgR : granted ≤ R) (hfresh : Fresh K w₀)
include hfit hgR hfresh

/-- One `wasmtime_mmap_new`. -/
theorem Reached.mmap_new (hr : Reached K w₀ p hist a w) {size : Usize} (ret : Usize) (hset : Settled granted a size) :
    ∃ q a' m w', (mmapCall a (.mmap_new size ret)).run h w = (.ret (a', .mapped m), w') ∧ p.next ≤ q.next ∧
      Reached K w₀ q (hist ++ [⟨.mmap_new size ret, .mapped m, (mmapCall a (.mmap_new size ret)).trace h w⟩])
        a' w' := by
  unfold Settled at hset
  rw [hr.rep.next_toNat hfit.index] at hset
  rcases hset with hn | hn
  · -- The regions are claimed above all earlier ones, hence a new start and new frames.
    obtain ⟨i, a', w', hi, hrep, hbacks, hrun, htr⟩ := mmap_new_claims hfit hgR hfresh hr.rep hr.backs ret hn
    refine ⟨_, a', ⟨0, vaddr p.next⟩, w', hrun, Nat.le_add_right _ _, hrep, hbacks, hn, ?_, ?_, ?_⟩
    · rw [List.flatMap_append, framesMapped_append, hr.maps, List.flatMap_singleton, htr, ← List.map_append]
      simp [List.range_eq_range', ← List.range'_append_1]
    · obtain ⟨ks, hks, hsorted, hlt⟩ := hr.starts
      refine ⟨ks ++ [p.next], ?_, ?_, ?_⟩
      · simp [hks, returnedBy]
      · exact List.pairwise_append.2 ⟨hsorted, List.pairwise_singleton .., by simpa using hlt⟩
      · have hpos := regions_for_pos size
        intro k hk
        rw [Pool.claim_next]
        rcases List.mem_append.1 hk with hk | hk
        · have := hlt k hk
          omega
        · have := List.mem_singleton.1 hk
          omega
    · intro ptr sz hmem
      simp only [live_snoc, liveStep, if_pos, List.mem_append, List.mem_singleton, Prod.mk.injEq] at hmem
      rcases hmem with hold | ⟨rfl, rfl⟩
      · obtain ⟨j, s, hs, hptr, hsz⟩ := hr.lives ptr sz hold
        -- Entry `i` was free, so what was live keeps its own.
        exact ⟨j, s, (Pool.claim_span_some hi).2 (.inl hs), hptr, hsz⟩
      · exact ⟨i, _, (Pool.claim_span_some hi).2 (.inr ⟨rfl, rfl⟩), rfl, size_le_regions sz⟩
  · -- Exhausted: nothing was called and nothing changed.
    have heq := mmap_new_exhausted hfit hr.rep ret hn
    refine ⟨p, a, ⟨1, ret⟩, w, by rw [heq]; rfl, Nat.le_refl _, ?_⟩
    refine ⟨hr.rep, hr.backs, hr.in_grant, ?_, ?_, ?_⟩
    · simpa [heq] using hr.maps
    · simpa [returnedBy] using hr.starts
    · simpa [liveStep] using hr.lives

omit hgR in
/-- One `wasmtime_munmap`. -/
theorem Reached.munmap (hr : Reached K w₀ p hist a w) (ptr size : Usize) :
    ∃ q a' w', (mmapCall a (.munmap ptr size)).run h w = (.ret (a', .rc 0), w') ∧ q.next = p.next ∧
      Reached K w₀ q (hist ++ [⟨.munmap ptr size, .rc 0, (mmapCall a (.munmap ptr size)).trace h w⟩]) a' w' := by
  by_cases hptr : ∃ i s, p.span i = some s ∧ ptr = vaddr s.start
  · obtain ⟨i, s, hs, rfl⟩ := hptr
    obtain ⟨a', w', hrep, hbacks, hrun, htr⟩ :=
      munmap_releases hfit hr.rep hr.backs hfresh hr.in_grant hs size
    refine ⟨p.release i, a', w', hrun, rfl, hrep, hbacks, hr.in_grant, ?_, ?_, ?_⟩
    · rw [List.flatMap_append, framesMapped_append, hr.maps, List.flatMap_singleton, htr, List.append_nil]
      rfl
    · simpa [returnedBy] using hr.starts
    · -- What stays live has another address, so another entry.
      intro ptr sz hmem
      simp only [live_snoc, liveStep, List.mem_filter, decide_eq_true_eq] at hmem
      obtain ⟨j, t, ht, hptr, hsz⟩ := hr.lives ptr sz hmem.1
      have hji : j ≠ i := by
        rintro rfl
        rw [hs] at ht
        cases ht
        exact hmem.2 hptr
      exact ⟨j, t, Pool.release_span_some.2 ⟨hji, ht⟩, hptr, hsz⟩
  · -- Not an address of the table, so not one of a live allocation either.
    have heq := munmap_unknown hr.rep size fun i s hs he => hptr ⟨i, s, hs, he⟩
    rw [heq]
    refine ⟨p, a, w, rfl, rfl, hr.rep, hr.backs, hr.in_grant, ?_, ?_, ?_⟩
    · simpa using hr.maps
    · simpa [returnedBy] using hr.starts
    · intro ptr' sz hmem
      simp only [live_snoc, liveStep, List.mem_filter] at hmem
      exact hr.lives ptr' sz hmem.1

/-- One call. -/
theorem Reached.call (hr : Reached K w₀ p hist a w) (c : MmapCall)
    (hset : ∀ size ret, c = .mmap_new size ret → Settled granted a size) :
    ∃ q a' r w', (mmapCall a c).run h w = (.ret (a', r), w') ∧ p.next ≤ q.next ∧
      Reached K w₀ q (hist ++ [⟨c, r, (mmapCall a c).trace h w⟩]) a' w' := by
  rcases c with ⟨size, ret⟩ | ⟨ptr, size⟩
  · obtain ⟨q, a', m, w', hrun, hle, hr'⟩ := hr.mmap_new hfit hgR hfresh ret (hset size ret rfl)
    exact ⟨q, a', .mapped m, w', hrun, hle, hr'⟩
  · obtain ⟨q, a', w', hrun, heq, hr'⟩ := hr.munmap hfit hfresh ptr size
    exact ⟨q, a', .rc 0, w', hrun, Nat.le_of_eq heq.symm, hr'⟩

omit hgR hfresh in
/-- The invariant, read off the statics. -/
theorem Reached.sound {K : FrameKernel h R} (hfresh : Fresh K w₀) (hr : Reached K w₀ p hist a w) :
    Sound K w₀ hist a w where
  table := hr.rep.wellFormed hfit
  mapped := by
    intro r hrR v
    have hcov : (∃ i, a.Covers i r) ↔ p.Holds r := exists_congr fun i => hr.rep.covers_iff hfit
    rw [hcov]
    constructor
    · intro hv
      by_cases hh : p.Holds r
      · rw [hr.backs.held hh] at hv
        exact ⟨hh, (Option.some.inj hv).symm⟩
      · rw [hr.backs.idle hfit hrR hh, hfresh r hrR] at hv
        cases hv
    · rintro ⟨hh, rfl⟩
      exact hr.backs.held hh
  others := by
    intro f hf
    apply hr.backs.other
    intro r hh
    exact hf r (Nat.lt_of_lt_of_le hh.lt p.bounded)
  live := by
    intro ptr size hmem
    obtain ⟨i, s, hs, rfl, hsize⟩ := hr.lives ptr size hmem
    have hstop := p.inside hs
    have hle := p.bounded
    unfold Span.stop at hstop
    have hcount := hr.rep.count_toNat hfit.index hs
    rw [megapage_bytes_toNat] at hsize
    refine ⟨i, hr.rep.count_ne_zero hfit.index hs, hr.rep.addr hs, ?_⟩
    rw [hcount, hfit.vaddr_toNat (start_lt hs), megapage_bytes_toNat]
    omega
  mapped_once := by
    rw [hr.maps]
    apply List.Nodup.map_on _ List.nodup_range
    intro i hi j hj he
    have hle := p.bounded
    exact hfit.frame_inj (by have := List.mem_range.1 hi; omega) (by have := List.mem_range.1 hj; omega) he
  returned_once := by
    obtain ⟨ks, hks, hsorted, hlt⟩ := hr.starts
    have hle := p.bounded
    rw [hks]
    apply List.Nodup.map_on _ (hsorted.imp Nat.ne_of_lt)
    intro i hi j hj he
    have := hlt i hi
    have := hlt j hj
    exact hfit.vaddr_inj (by omega) (by omega) he

end Reached

/-! ## Whole runs -/

/-- Every list of calls, from the empty arena with all its frames granted, is served without a
panic and leaves the arena sound. The next call is served too, and only moves the bump index up. -/
theorem arena_sound {h : Handler Frames σ} (hfit : Fits R) (K : FrameKernel h R) {w₀ : σ} (hfresh : Fresh K w₀)
    (cs : List MmapCall) :
    ∃ hist a w, replay h mmapCall cs (Arena.empty R) w₀ = some (hist, a, w) ∧ Sound K w₀ hist a w ∧
      ∀ c, ∃ a' r w', (mmapCall a c).run h w = (.ret (a', r), w') ∧
        a.next_region.toNat ≤ a'.next_region.toNat := by
  -- With every frame granted there is no third case.
  have hset : ∀ (a : Arena R) (c : MmapCall) size ret, c = .mmap_new size ret → Settled R a size :=
    fun a c size ret _ => Nat.lt_or_ge R _ |>.symm
  have hstep : ∀ hist (a : Arena R) w c, (∃ p, Reached K w₀ p hist a w) → ∃ a' r w',
      (mmapCall a c).run h w = (.ret (a', r), w') ∧
      ∃ p, Reached K w₀ p (hist ++ [⟨c, r, (mmapCall a c).trace h w⟩]) a' w' := by
    rintro hist a w c ⟨p, hr⟩
    obtain ⟨q, a', r, w', hrun, -, hr'⟩ := hr.call hfit (Nat.le_refl R) hfresh c (hset a c)
    exact ⟨a', r, w', hrun, q, hr'⟩
  obtain ⟨hist, a, w, hrep, p, hr⟩ := replay_inv hstep cs ⟨_, reached_empty⟩
  refine ⟨hist, a, w, hrep, hr.sound hfit hfresh, ?_⟩
  intro c
  obtain ⟨q, a', r, w', hrun, hle, hr'⟩ := hr.call hfit (Nat.le_refl R) hfresh c (hset a c)
  refine ⟨a', r, w', hrun, ?_⟩
  rw [hr.rep.next_toNat hfit.index, hr'.rep.next_toNat hfit.index]
  exact hle

/-- Four regions: two allocations, of one and of two megapages, one given back, and a third that
takes the last region. -/
theorem arena_sound_four_regions :
    ∃ hist a w, replay (tableKernel 4) mmapCall
        [.mmap_new 0x35000 0, .mmap_new 0x400000 0, .munmap 0x88200000 0x35000, .mmap_new 0 0]
        (Arena.empty 4) (fun _ => none) = some (hist, a, w) ∧
      Sound (tableKernel_strict 4).toFrameKernel (fun _ => none) hist a w ∧
      ∀ c, ∃ a' r w', (mmapCall a c).run (tableKernel 4) w = (.ret (a', r), w') ∧
        a.next_region.toNat ≤ a'.next_region.toNat :=
  arena_sound (by unfold Fits; decide) _ (fun _ _ => rfl) _

end LanternRuntime.Platform

import LanternRuntime.Platform.Entries
/-!
# What `wasmtime_munmap` undoes

`wasmtime_munmap` knows the address only. It finds the entry by it and computes
the frames from it. `munmap_exact` shows that these are the frames that the
`wasmtime_mmap_new` of this address mapped, and that nothing else is touched;
every other address is ignored.
-/
open ProgLib

namespace LanternRuntime.Platform
open backing

variable {R : Nat} {a a' : Arena R} {hist : List MmapStep} {tr : List (Event Frames)}

/-! ## Live allocations -/

/-- The address that a successful `wasmtime_mmap_new` returned. -/
def base (e : MmapStep) : Option Usize := (returnedBy e).map Prod.fst

def keepLive (l : List MmapStep) (e : MmapStep) : List MmapStep :=
  match e.call with
  | .mmap_new _ _ => if base e = none then l else l ++ [e]
  | .munmap ptr _ => l.filter fun e' => base e' ≠ some ptr

/-- The successful `wasmtime_mmap_new`s whose address was not unmapped since. -/
def liveSteps (hist : List MmapStep) : List MmapStep := hist.foldl keepLive []

@[simp] theorem liveSteps_snoc (hist : List MmapStep) (e : MmapStep) :
    liveSteps (hist ++ [e]) = keepLive (liveSteps hist) e := by simp [liveSteps]

/-- The call returned the address of `s`, and mapped its frames. -/
structure Made (e : MmapStep) (s : Span) : Prop where
  addr : base e = some (vaddr s.start)
  frames : framesMapped e.trace = (List.range' s.start s.count).map frame

/-- The spans of the pool are those that live allocations made. -/
structure Tracked (span : Fin R → Option Span) (hist : List MmapStep) : Prop where
  made : ∀ e ∈ liveSteps hist, ∃ i s, span i = some s ∧ Made e s
  held : ∀ i s, span i = some s → ∃ e ∈ liveSteps hist, Made e s

theorem tracked_empty : Tracked (Pool.empty R).span [] := ⟨nofun, nofun⟩

section Tracked
variable {span : Fin R → Option Span} {e : MmapStep}

/-- A call that maps nothing and unmaps no live address. -/
theorem Tracked.same (ht : Tracked span hist) (hlive : liveSteps (hist ++ [e]) = liveSteps hist) :
    Tracked span (hist ++ [e]) := by
  constructor
  · rw [hlive]
    exact ht.made
  · rw [hlive]
    exact ht.held

/-- A new span, in an entry that was free. -/
theorem Tracked.claim {p : Pool R} (ht : Tracked p.span hist) {i : Fin R} {n : Nat} {hn : 0 < n} {hle : p.next + n ≤ R}
    (hi : p.span i = none) (hlive : liveSteps (hist ++ [e]) = liveSteps hist ++ [e]) (he : Made e ⟨p.next, n, hn⟩) :
    Tracked (p.claim i n hn hle).span (hist ++ [e]) := by
  constructor
  · intro e' he'
    rw [hlive] at he'
    rcases List.mem_append.1 he' with he' | he'
    · obtain ⟨j, s, hs, hm⟩ := ht.made e' he'
      exact ⟨j, s, (Pool.claim_span_some hi).2 (.inl hs), hm⟩
    · cases List.mem_singleton.1 he'
      exact ⟨i, _, (Pool.claim_span_some hi).2 (.inr ⟨rfl, rfl⟩), he⟩
  · intro j s hs
    rw [hlive]
    rcases (Pool.claim_span_some hi).1 hs with hs | ⟨-, rfl⟩
    · obtain ⟨e', he', hm⟩ := ht.held j s hs
      exact ⟨e', List.mem_append_left _ he', hm⟩
    · exact ⟨e, List.mem_append_right _ List.mem_cons_self, he⟩

/-- The address of a span is unmapped. No other live allocation has it. -/
theorem Tracked.release {p : Pool R} (hfit : Fits p.next) (ht : Tracked p.span hist) {i : Fin R} {s : Span}
    (hs : p.span i = some s)
    (hlive : liveSteps (hist ++ [e]) = (liveSteps hist).filter fun e' => base e' ≠ some (vaddr s.start)) :
    Tracked (p.release i).span (hist ++ [e]) := by
  constructor
  · intro e' he'
    rw [hlive] at he'
    obtain ⟨hmem, hne⟩ := List.mem_filter.1 he'
    obtain ⟨j, t, hj, hm⟩ := ht.made e' hmem
    have hji : j ≠ i := by
      rintro rfl
      rw [hs] at hj
      cases hj
      simp [hm.addr] at hne
    exact ⟨j, t, Pool.release_span_some.2 ⟨hji, hj⟩, hm⟩
  · intro j t hj
    obtain ⟨hji, hj⟩ := Pool.release_span_some.1 hj
    obtain ⟨e', he', hm⟩ := ht.held j t hj
    rw [hlive]
    refine ⟨e', List.mem_filter.2 ⟨he', ?_⟩, hm⟩
    have haddr : vaddr t.start ≠ vaddr s.start := fun heq => hji (span_unique hfit hs hj heq)
    simp [hm.addr, haddr]

end Tracked

/-! ## Addresses of the program -/

/-- The kernel maps the frames of a program in the lower half of the address space only. -/
def UserMap : Event Frames → Prop
  | ⟨.map _ _ v _, .ok ()⟩ => v.toNat < 2 ^ 63
  | _ => True

instance : DecidablePred UserMap
  | ⟨.map _ _ v _, .ok ()⟩ => inferInstanceAs (Decidable (v.toNat < 2 ^ 63))
  | ⟨.map .., .error _⟩ => .isTrue trivial
  | ⟨.unmap .., _⟩ => .isTrue trivial

/-- The last of the first `n` regions starts in the lower half. -/
def InUserHalf (n : Nat) : Prop := ARENA_VADDR.toNat + n * MEGAPAGE_BYTES.toNat < 2 ^ 63 + MEGAPAGE_BYTES.toNat

theorem InUserHalf.fits {n : Nat} (h : InUserHalf n) : Fits n := by
  unfold InUserHalf at h
  unfold Fits
  rw [arena_vaddr_toNat, megapage_bytes_toNat] at h ⊢
  omega

theorem inUserHalf_zero : InUserHalf 0 := by
  unfold InUserHalf
  decide

theorem InUserHalf.mono {k n : Nat} (h : InUserHalf n) (hle : k ≤ n) : InUserHalf k :=
  Nat.lt_of_le_of_lt (Nat.add_le_add_left (Nat.mul_le_mul_right _ hle) _) h

theorem InUserHalf.lt {n : Nat} (h : InUserHalf n) : n < 2 ^ 64 := by
  unfold InUserHalf at h
  rw [arena_vaddr_toNat, megapage_bytes_toNat] at h
  omega

/-- Every region of an arena in that half starts there. -/
theorem InUserHalf.vaddr_lt {n r : Nat} (h : InUserHalf n) (hr : r < n) : (vaddr r).toNat < 2 ^ 63 := by
  rw [h.fits.vaddr_toNat hr]
  have hlast : ARENA_VADDR.toNat + (r + 1) * MEGAPAGE_BYTES.toNat < 2 ^ 63 + MEGAPAGE_BYTES.toNat := h.mono hr
  rw [Nat.succ_mul, ← Nat.add_assoc] at hlast
  exact Nat.lt_of_add_lt_add_right hlast

/-- Regions that were mapped one after the other never left it. -/
theorem InUserHalf.add {k n : Nat} (h : InUserHalf k) (hlow : ∀ r, k ≤ r → r < k + n → (vaddr r).toNat < 2 ^ 63) :
    InUserHalf (k + n) := by
  induction n with
  | zero => exact h
  | succ n ih =>
    have hn : InUserHalf (k + n) := ih fun r h1 h2 => hlow r h1 (by omega)
    have hfit : Fits (k + n + 1) := by
      unfold InUserHalf at hn
      unfold Fits
      rw [arena_vaddr_toNat, megapage_bytes_toNat] at hn ⊢
      omega
    have hv := hlow (k + n) (Nat.le_add_right _ _) (Nat.lt_succ_self _)
    rw [hfit.vaddr_toNat (Nat.lt_succ_self _)] at hv
    unfold InUserHalf
    rw [← Nat.add_assoc, Nat.succ_mul, ← Nat.add_assoc]
    exact Nat.add_lt_add_right hv _

/-! ## Along a session -/

/-- After `hist` the statics are the pool `p`, and its spans are what is live. -/
structure Follows (p : Pool R) (hist : List MmapStep) (a : Arena R) : Prop where
  rep : Represents a p
  low : InUserHalf p.next
  tracked : Tracked p.span hist

theorem follows_empty : Follows (Pool.empty R) [] (Arena.empty R) := ⟨represents_empty, inUserHalf_zero, tracked_empty⟩

/-- What `wasmtime_munmap` of `ptr` does to a pool: the entry it empties, and the system calls. -/
inductive Owns (p : Pool R) (ptr : Usize) : Option (Fin R) → List FrameCall → Prop
  | span {i s} : p.span i = some s → ptr = vaddr s.start →
      Owns p ptr (some i) ((List.range' s.start s.count).map fun r => .unmap (frame r) SELF_VSPACE_CPTR)
  | nothing : (∀ i s, p.span i = some s → ptr ≠ vaddr s.start) → Owns p ptr none []

def zeroed (a : Arena R) : Option (Fin R) → Arena R
  | none => a
  | some i => a.set_slot i 0 0

def released (p : Pool R) : Option (Fin R) → Pool R
  | none => p
  | some i => p.release i

theorem zeroed_self (a : Arena R) (i : Fin R) : (zeroed a (some i)).alloc_count i = 0 := by simp [zeroed]

theorem zeroed_other {i j : Fin R} (hji : j ≠ i) : (zeroed a (some i)).alloc_count j = a.alloc_count j ∧
    (zeroed a (some i)).alloc_vaddr j = a.alloc_vaddr j := by simp [zeroed, hji]

theorem owns_total (p : Pool R) (ptr : Usize) : ∃ o calls, Owns p ptr o calls := by
  by_cases hptr : ∃ i s, p.span i = some s ∧ ptr = vaddr s.start
  · obtain ⟨i, s, hs, he⟩ := hptr
    exact ⟨some i, _, .span hs he⟩
  · exact ⟨none, _, .nothing fun i s hs he => hptr ⟨i, s, hs, he⟩⟩

section Owns
variable {p : Pool R} {ptr : Usize} {o : Option (Fin R)} {calls : List FrameCall}

/-- Another address is served as before. -/
theorem Owns.release (h : Owns p ptr o calls) {ptr' : Usize} {o' : Option (Fin R)} {calls' : List FrameCall}
    (h' : Owns p ptr' o' calls') (hne : ptr ≠ ptr') : Owns (released p o) ptr' o' calls' := by
  cases h with
  | nothing => exact h'
  | @span i s hs he =>
    cases h' with
    | @span j t ht he' =>
      have hji : j ≠ i := by
        rintro rfl
        rw [hs] at ht
        cases ht
        exact hne (he.trans he'.symm)
      exact .span (Pool.release_span_some.2 ⟨hji, ht⟩) he'
    | nothing hn => exact .nothing fun j t ht => hn j t (Pool.release_span_some.1 ht).2

variable (hR : R < 2 ^ 64) (hrep : Represents a p) (hfit : Fits p.next)
include hrep

theorem Owns.represents (_ : Owns p ptr o calls) : Represents (zeroed a o) (released p o) := by
  cases o with
  | none => exact hrep
  | some i => exact hrep.released i

include hR hfit

/-- Every run of it returns, and did just that. -/
theorem Owns.runs (h : Owns p ptr o calls) {size : Usize} {out : Outcome (Arena R × MmapReply)}
    (hr : Runs (mmapCall a (.munmap ptr size)) tr out) :
    out = .ret (zeroed a o, .rc 0) ∧ tr.map Event.call = calls := by
  cases h with
  | nothing hn =>
    rw [munmap_unknown hrep size hn] at hr
    obtain ⟨rfl, rfl⟩ := runs_ret.1 hr
    exact ⟨rfl, rfl⟩
  | @span i s hs he =>
    subst he
    rw [mmapCall_munmap, hrep.dealloc_eq hR hfit hs, Prog.bind_assoc] at hr
    rcases runs_bind.1 hr with ⟨tr₁, tr₂, ⟨⟩, rfl, hloop, hret⟩ | ⟨msg, -, hloop⟩
    · obtain ⟨rfl, rfl⟩ := runs_ret.1 hret
      rw [List.append_nil]
      exact ⟨rfl, (unmap_loop_runs hloop).2⟩
    · cases (unmap_loop_runs hloop).1

end Owns

section Follows
variable {p : Pool R} (hR : R < 2 ^ 64) (h : Follows p hist a)
include h

theorem Follows.owns_live {e : MmapStep} (he : e ∈ liveSteps hist) {ptr : Usize} (hptr : base e = some ptr) :
    ∃ i s, p.span i = some s ∧ Made e s ∧ ptr = vaddr s.start := by
  obtain ⟨i, s, hs, hm⟩ := h.tracked.made e he
  exact ⟨i, s, hs, hm, Option.some.inj (hptr.symm.trans hm.addr)⟩

theorem Follows.owns_nothing {ptr : Usize} (hptr : ∀ e ∈ liveSteps hist, base e ≠ some ptr) : Owns p ptr none [] := by
  refine .nothing fun i s hs he => ?_
  obtain ⟨e, hmem, hm⟩ := h.tracked.held i s hs
  exact hptr e hmem (hm.addr.trans (congrArg some he.symm))

include hR

theorem Follows.mmap_new {size ret : Usize} {r : MmapReply}
    (hr : Runs (mmapCall a (.mmap_new size ret)) tr (.ret (a', r))) (hlow : ∀ e ∈ tr, UserMap e) :
    ∃ q, Follows q (hist ++ [⟨.mmap_new size ret, r, tr⟩]) a' := by
  obtain ⟨o, ha, rfl⟩ := runs_mmap_new hr
  rcases Nat.lt_or_ge R (p.next + (regions_for size).toNat) with hn | hn
  · rw [h.rep.alloc_exhausted hR hn] at ha
    obtain ⟨rfl, he⟩ := runs_ret.1 ha
    cases he
    exact ⟨p, h.rep, h.low, h.tracked.same (by simp [keepLive, base, returnedBy])⟩
  · obtain ⟨i, a'', hi, hrep, halloc⟩ := h.rep.alloc_claims hR hn
    rw [halloc] at ha
    obtain ⟨⟨⟩, hloop, he⟩ := runs_bind_ret.1 ha
    cases he
    refine ⟨_, hrep, ?_, h.tracked.claim hi (by simp [keepLive, base, returnedBy]) ⟨rfl, framesMapped_map_loop hloop⟩⟩
    refine h.low.add fun r h1 h2 => ?_
    rw [map_loop_runs hloop] at hlow
    exact hlow _ (List.mem_map.2 ⟨r, List.mem_range'_1.2 ⟨h1, h2⟩, rfl⟩)

theorem Follows.munmap {ptr size : Usize} {r : MmapReply}
    (hr : Runs (mmapCall a (.munmap ptr size)) tr (.ret (a', r))) :
    ∃ q, Follows q (hist ++ [⟨.munmap ptr size, r, tr⟩]) a' := by
  obtain ⟨o, calls, ho⟩ := owns_total p ptr
  obtain ⟨he, -⟩ := ho.runs hR h.rep h.low.fits hr
  cases he
  have hlive : liveSteps (hist ++ [⟨.munmap ptr size, .rc 0, tr⟩]) =
      (liveSteps hist).filter fun e' => base e' ≠ some ptr := liveSteps_snoc ..
  cases ho with
  | nothing hn =>
    refine ⟨p, h.rep, h.low, h.tracked.same ?_⟩
    rw [hlive, List.filter_eq_self]
    intro e he
    apply decide_eq_true
    intro hbase
    obtain ⟨i, s, hs, -, hptr⟩ := h.owns_live he hbase
    exact hn i s hs hptr
  | @span i s hs he =>
    subst he
    exact ⟨p.release i, h.rep.released i, h.low, h.tracked.release h.low.fits hs hlive⟩

end Follows

/-- In an arena of that half nothing is mapped above it. -/
theorem Follows.user_map {p : Pool R} (hR : InUserHalf R) (h : Follows p hist a) {size ret : Usize} {r : MmapReply}
    (hr : Runs (mmapCall a (.mmap_new size ret)) tr (.ret (a', r))) : ∀ e ∈ tr, UserMap e := by
  obtain ⟨o, ha, rfl⟩ := runs_mmap_new hr
  rcases Nat.lt_or_ge R (p.next + (regions_for size).toNat) with hn | hn
  · rw [h.rep.alloc_exhausted hR.lt hn] at ha
    obtain ⟨rfl, -⟩ := runs_ret.1 ha
    exact nofun
  · obtain ⟨i, a'', -, -, halloc⟩ := h.rep.alloc_claims hR.lt hn
    rw [halloc] at ha
    obtain ⟨⟨⟩, hloop, -⟩ := runs_bind_ret.1 ha
    rw [map_loop_runs hloop]
    intro e he
    obtain ⟨k, hk, rfl⟩ := List.mem_map.1 he
    have hlt : k < p.next + (regions_for size).toNat := (List.mem_range'_1.1 hk).2
    exact hR.vaddr_lt (Nat.lt_of_lt_of_le hlt hn)

theorem follows_of_session (hR : R < 2 ^ 64) (hs : Session mmapCall (Arena.empty R) hist a)
    (hlow : ∀ e ∈ hist.flatMap Step.trace, UserMap e) : ∃ p, Follows p hist a := by
  refine hs.inv (I := fun (hist : List MmapStep) a => (∀ e ∈ hist.flatMap Step.trace, UserMap e) →
      ∃ p, Follows p hist a)
    (fun _ => ⟨_, follows_empty⟩) ?_ hlow
  intro hist a c tr a' r ih hr hlow
  rw [List.flatMap_append, List.flatMap_singleton] at hlow
  obtain ⟨p, h⟩ := ih fun e he => hlow e (List.mem_append_left _ he)
  cases c with
  | mmap_new size ret => exact h.mmap_new hR hr fun e he => hlow e (List.mem_append_right _ he)
  | munmap ptr size => exact h.munmap hR hr

/-- An arena in the lower half needs no promise of the kernel. -/
theorem follows_in_user_half (hR : InUserHalf R) (hs : Session mmapCall (Arena.empty R) hist a) :
    ∃ p, Follows p hist a := by
  refine hs.inv (I := fun (hist : List MmapStep) a => ∃ p, Follows p hist a) ⟨_, follows_empty⟩ ?_
  rintro hist a c tr a' r ⟨p, h⟩ hr
  cases c with
  | mmap_new size ret => exact h.mmap_new hR.lt hr (h.user_map hR hr)
  | munmap ptr size => exact h.munmap hR.lt hr

/-! ## Mappings -/

/-- The frame that a call names. -/
def FrameCall.cptr : FrameCall → Usize
  | .map f _ _ _ => f
  | .unmap f _ => f

def mappedStep (m : Usize → Option Usize) : Event Frames → Usize → Option Usize
  | ⟨.map f _ v _, .ok ()⟩ => Function.update m f (some v)
  | ⟨.unmap f _, .ok ()⟩ => Function.update m f none
  | _ => m

/-- Where each frame is mapped, by the calls of `tr` that the kernel carried out. -/
def mappings (tr : List (Event Frames)) : Usize → Option Usize := tr.foldl mappedStep fun _ => none

theorem mappedStep_other {m : Usize → Option Usize} {e : Event Frames} {f : Usize} (h : e.call.cptr ≠ f) :
    mappedStep m e f = m f := by
  unfold mappedStep
  split
  · exact Function.update_of_ne (Ne.symm h) ..
  · exact Function.update_of_ne (Ne.symm h) ..
  · rfl

/-- Calls that do not name a frame leave it where it is. -/
theorem mappings_other {tr tr' : List (Event Frames)} {f : Usize} (h : ∀ c ∈ tr'.map Event.call, c.cptr ≠ f) :
    mappings (tr ++ tr') f = mappings tr f := by
  unfold mappings
  rw [List.foldl_append]
  generalize tr.foldl mappedStep _ = m
  induction tr' generalizing m with
  | nil => rfl
  | cons e tr' ih =>
    rw [List.map_cons, List.forall_mem_cons] at h
    rw [List.foldl_cons, ih h.2, mappedStep_other h.1]

/-! ## Whole runs -/

/-- The run of `wasmtime_munmap` undid `e`, which had returned `ptr`, and nothing else. -/
structure Undone (hist : List MmapStep) (a : Arena R) (e : MmapStep) (ptr : Usize) (tr : List (Event Frames))
    (a' : Arena R) : Prop where
  calls : tr.map Event.call = (framesMapped e.trace).map fun f => .unmap f SELF_VSPACE_CPTR
  once : (framesMapped e.trace).Nodup
  /-- The one entry with this address is free now, and the others are as they were. -/
  entry : ∃ i, a.alloc_count i ≠ 0 ∧ a.alloc_vaddr i = ptr ∧ a'.alloc_count i = 0 ∧
    ∀ j, j ≠ i → a'.alloc_count j = a.alloc_count j ∧ a'.alloc_vaddr j = a.alloc_vaddr j
  next : a'.next_region = a.next_region
  /-- What else is live keeps its entry and its mappings. -/
  others : ∀ e' ∈ liveSteps hist, base e' ≠ some ptr →
    (∃ j, base e' = some (a'.alloc_vaddr j) ∧ a'.alloc_count j ≠ 0 ∧ a'.alloc_vaddr j = a.alloc_vaddr j ∧
      a'.alloc_count j = a.alloc_count j) ∧
    ∀ f ∈ framesMapped e'.trace, mappings (hist.flatMap Step.trace ++ tr) f = mappings (hist.flatMap Step.trace) f

/-- Frames of two spans differ. -/
theorem frame_ne {p : Pool R} (hR : R < 2 ^ 64) {i j : Fin R} {s t : Span}
    (hs : p.span i = some s) (ht : p.span j = some t) (hij : i ≠ j) {k r : Nat}
    (hk : s.Has k) (hr : t.Has r) : frame k ≠ frame r := by
  intro he
  have hkn : k < p.next := Nat.lt_of_lt_of_le hk.2 (p.inside hs)
  have hrn : r < p.next := Nat.lt_of_lt_of_le hr.2 (p.inside ht)
  have hkr := frame_inj hR (Nat.lt_of_lt_of_le hkn p.bounded) (Nat.lt_of_lt_of_le hrn p.bounded) he
  exact hij (p.disjoint hs ht hk (hkr ▸ hr))

section Undone
variable {p : Pool R} (hR : R < 2 ^ 64) (h : Follows p hist a)
include hR h

theorem Follows.undone {e : MmapStep} (he : e ∈ liveSteps hist) {ptr : Usize} (hptr : base e = some ptr) {size : Usize}
    {out : Outcome (Arena R × MmapReply)} (hr : Runs (mmapCall a (.munmap ptr size)) tr out) :
    ∃ a', out = .ret (a', .rc 0) ∧ Undone hist a e ptr tr a' := by
  obtain ⟨i, s, hs, hm, rfl⟩ := h.owns_live he hptr
  obtain ⟨rfl, hcalls⟩ := (Owns.span hs rfl).runs hR h.rep h.low.fits hr
  have hmem : ∀ {r}, r ∈ List.range' s.start s.count ↔ s.Has r := List.mem_range'_1
  refine ⟨_, rfl, ?_, ?_, ⟨i, h.rep.count_ne_zero hR hs, h.rep.addr hs, ?_, ?_⟩, rfl, ?_⟩
  · rw [hcalls, hm.frames, List.map_map]
    rfl
  · rw [hm.frames]
    refine List.Nodup.map_on ?_ List.nodup_range'
    intro k hk r hr' hkr
    have hstop := p.inside hs
    have hle := p.bounded
    have h1 := (hmem.1 hk).2
    have h2 := (hmem.1 hr').2
    exact frame_inj hR (by omega) (by omega) hkr
  · exact zeroed_self a i
  · exact fun j hji => zeroed_other hji
  · intro e' he' hne
    obtain ⟨j, t, ht, hm'⟩ := h.tracked.made e' he'
    have hji : j ≠ i := by
      rintro rfl
      rw [hs] at ht
      cases ht
      exact hne hm'.addr
    obtain ⟨hcount, haddr⟩ := zeroed_other (a := a) hji
    refine ⟨⟨j, ?_, ?_, haddr, hcount⟩, ?_⟩
    · rw [hm'.addr, haddr, h.rep.addr ht]
    · rw [hcount]
      exact h.rep.count_ne_zero hR ht
    · intro f hf
      rw [hm'.frames] at hf
      obtain ⟨r, hr', rfl⟩ := List.mem_map.1 hf
      apply mappings_other
      rw [hcalls]
      intro c hc
      obtain ⟨k, hk, rfl⟩ := List.mem_map.1 hc
      exact frame_ne hR hs ht hji.symm (hmem.1 hk) (List.mem_range'_1.1 hr')

end Undone

theorem zeroed_comm {o o' : Option (Fin R)} : zeroed (zeroed a o) o' = zeroed (zeroed a o') o := by
  cases o with
  | none => rfl
  | some i =>
    cases o' with
    | none => rfl
    | some j =>
      by_cases hij : i = j
      · rw [hij]
      · have hne : i.val ≠ j.val := fun he => hij (Fin.ext he)
        simp [zeroed, Arena.set_slot, Vector.set_comm _ _ hne]

/-- What `wasmtime_munmap` does in the state `a`, which `hist` led to. -/
structure Exact (hist : List MmapStep) (a : Arena R) : Prop where
  live : ∀ e ∈ liveSteps hist, ∀ ptr, base e = some ptr → ∀ size tr out, Runs (mmapCall a (.munmap ptr size)) tr out →
    ∃ a', out = .ret (a', .rc 0) ∧ Undone hist a e ptr tr a'
  inert : ∀ ptr, (∀ e ∈ liveSteps hist, base e ≠ some ptr) → ∀ size, mmapCall a (.munmap ptr size) = .ret (a, .rc 0)
  /-- An address that `dealloc` finds is not below the arena. -/
  no_underflow : ∀ i, a.alloc_count i ≠ 0 → ARENA_VADDR ≤ a.alloc_vaddr i
  idempotent : ∀ ptr size tr a' r, Runs (mmapCall a (.munmap ptr size)) tr (.ret (a', r)) →
    ∀ size', mmapCall a' (.munmap ptr size') = .ret (a', .rc 0)
  /-- In either order the same system calls are made for each address, and the statics end up the same. -/
  commute : ∀ ptr ptr', ptr ≠ ptr' → ∀ size size' t₁ t₂ u₁ u₂ a₁ a₂ b₁ b₂ r₁ r₂ s₁ s₂,
    Runs (mmapCall a (.munmap ptr size)) t₁ (.ret (a₁, r₁)) →
    Runs (mmapCall a₁ (.munmap ptr' size')) t₂ (.ret (a₂, r₂)) →
    Runs (mmapCall a (.munmap ptr' size')) u₁ (.ret (b₁, s₁)) →
    Runs (mmapCall b₁ (.munmap ptr size)) u₂ (.ret (b₂, s₂)) →
    a₂ = b₂ ∧ t₁.map Event.call = u₂.map Event.call ∧ t₂.map Event.call = u₁.map Event.call

theorem Follows.exact {p : Pool R} (hR : R < 2 ^ 64) (h : Follows p hist a) : Exact hist a where
  live := fun _ he _ hptr _ _ _ hr => h.undone hR he hptr hr
  inert := by
    intro ptr hptr size
    cases h.owns_nothing hptr with
    | nothing hn => exact munmap_unknown h.rep size hn
  no_underflow := by
    intro i hi
    obtain ⟨s, hs⟩ := h.rep.span_of_occupied hi
    rw [h.rep.addr hs, UInt64.le_iff_toNat_le, h.low.fits.vaddr_toNat (start_lt_next hs)]
    exact Nat.le_add_right _ _
  idempotent := by
    intro ptr size tr a' r hr size'
    obtain ⟨o, calls, ho⟩ := owns_total p ptr
    obtain ⟨he, -⟩ := ho.runs hR h.rep h.low.fits hr
    cases he
    refine munmap_unknown (ho.represents h.rep) size' ?_
    cases ho with
    | nothing hn => exact hn
    | @span i s hs hptr =>
      intro j t ht hptr'
      obtain ⟨hji, ht⟩ := Pool.release_span_some.1 ht
      exact hji (span_unique h.low.fits hs ht (hptr'.symm.trans hptr))
  commute := by
    intro ptr ptr' hne size size' t₁ t₂ u₁ u₂ a₁ a₂ b₁ b₂ r₁ r₂ s₁ s₂ ht₁ ht₂ hu₁ hu₂
    obtain ⟨o, calls, ho⟩ := owns_total p ptr
    obtain ⟨o', calls', ho'⟩ := owns_total p ptr'
    have hnext : ∀ o : Option (Fin R), (released p o).next = p.next := fun o => by cases o <;> rfl
    obtain ⟨he₁, hc₁⟩ := ho.runs hR h.rep h.low.fits ht₁
    obtain ⟨he₂, hc₂⟩ := ho'.runs hR h.rep h.low.fits hu₁
    cases he₁
    cases he₂
    obtain ⟨he₁, hc₃⟩ := (ho.release ho' hne).runs hR (ho.represents h.rep) (hnext o ▸ h.low.fits) ht₂
    obtain ⟨he₂, hc₄⟩ := (ho'.release ho hne.symm).runs hR (ho'.represents h.rep) (hnext o' ▸ h.low.fits) hu₂
    cases he₁
    cases he₂
    exact ⟨zeroed_comm, hc₁.trans hc₄.symm, hc₃.trans hc₂.symm⟩

/-- In every reachable state: `wasmtime_munmap` of the address of a live allocation undoes it, and
of any other address does nothing. -/
theorem munmap_exact (hR : R < 2 ^ 64) (hs : Session mmapCall (Arena.empty R) hist a)
    (hlow : ∀ e ∈ hist.flatMap Step.trace, UserMap e) : Exact hist a := by
  obtain ⟨p, h⟩ := follows_of_session hR hs hlow
  exact h.exact hR

/-- Two live allocations, of one region and of two. -/
theorem munmap_exact_two_live :
    ∃ (hist : List MmapStep) (a : Arena 4), Session mmapCall (Arena.empty 4) hist a ∧
      (liveSteps hist).map base = [some 0x88200000, some 0x88400000] ∧ Exact hist a := by
  have hserved := replay_served willing mmapCall
    [.mmap_new 0x1000 0, .mmap_new 0x200001 0, .munmap 0x88400001 0x1000] (s := Arena.empty 4) () _ rfl
  exact ⟨_, _, hserved.session, by decide, munmap_exact (by decide) hserved.session (by decide)⟩

/-- So it is for every run of an arena in the lower half, whatever the kernel answers. -/
theorem exact_in_user_half (hR : InUserHalf R) (hs : Session mmapCall (Arena.empty R) hist a) : Exact hist a := by
  obtain ⟨p, h⟩ := follows_in_user_half hR hs
  exact h.exact hR.lt

/-- The arenas of both platforms. -/
example : InUserHalf 4 ∧ InUserHalf 2 := by
  unfold InUserHalf
  decide

end LanternRuntime.Platform

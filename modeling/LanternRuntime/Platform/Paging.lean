import LanternRuntime.Platform.Mapping
import LanternRuntime.Platform.Memory
/-!
# Blocks on frames

The arena of `src/platform.rs` under the whole API. An access goes through the
kernel's mapping to a byte of a frame. `Laid` says how the blocks that Wasmtime
has lie on frames. No frame is used twice, so what is handed out is as it was
granted.
-/
open ProgLib

namespace LanternRuntime.Platform
open backing

variable {σ : Type} {h : Handler Frames σ} {R : Nat}

/-! ## The machine -/

/-- The bytes of each frame. -/
abbrev Ram := Usize → Nat → UInt8

/-- Which of the first `granted` frames is mapped where `addr` is, and the place in it. -/
def translate (granted : Nat) (mapped : Usize → Option Usize) (addr : Usize) : Option (Usize × Nat) :=
  (List.range granted).findSome? fun i => (mapped (frame i)).bind fun v =>
    if v.toNat ≤ addr.toNat ∧ addr.toNat < v.toNat + MEGAPAGE_BYTES.toNat then some (frame i, addr.toNat - v.toNat)
    else none

/-- The kernel, and memory as its mappings show it. -/
def machine (h : Handler Frames σ) (mapped : σ → Usize → Option Usize) (granted : Nat) : Handler Hardware (σ × Ram)
  | .frame c, (w, ram) => ((h c w).1, ((h c w).2, ram))
  | .load addr, (w, ram) => ((translate granted (mapped w) addr).map fun x => ram x.1 x.2, (w, ram))
  | .store addr byte, (w, ram) =>
    match translate granted (mapped w) addr with
    | some (f, off) => (true, (w, Function.update ram f (Function.update (ram f) off byte)))
    | none => (false, (w, ram))

/-- `mmap_new` and `munmap` of the arena. -/
def arenaMmap (a : Arena R) (c : MmapCall) : Prog Hardware (Arena R × MmapReply) := (mmapCall a c).embed systemCalls

theorem arenaMmap_run {mapped : σ → Usize → Option Usize} {granted : Nat} (a : Arena R) (c : MmapCall) (w : σ)
    (ram : Ram) : (arenaMmap a c).run (machine h mapped granted) (w, ram) =
      (((mmapCall a c).run h w).1, (((mmapCall a c).run h w).2, ram)) :=
  Prog.run_embed (fun _ _ _ => ⟨rfl, rfl⟩) ..

/-! ## Addresses of the arena -/

/-- The byte at an address of the arena, if its region is mapped. -/
def byteAt (ram : Ram) (addr : Nat) : UInt8 :=
  ram (frame ((addr - ARENA_VADDR.toNat) / MEGAPAGE_BYTES.toNat)) ((addr - ARENA_VADDR.toNat) % MEGAPAGE_BYTES.toNat)

/-- The address `off` bytes behind the start of region `r`. -/
theorem byteAt_region (ram : Ram) (r off : Nat) :
    byteAt ram (ARENA_VADDR.toNat + r * MEGAPAGE_BYTES.toNat + off) =
      ram (frame (r + off / MEGAPAGE_BYTES.toNat)) (off % MEGAPAGE_BYTES.toNat) := by
  have hsub : ARENA_VADDR.toNat + r * MEGAPAGE_BYTES.toNat + off - ARENA_VADDR.toNat =
      off + r * MEGAPAGE_BYTES.toNat := by omega
  have hpos : 0 < MEGAPAGE_BYTES.toNat := by decide
  rw [byteAt, hsub, Nat.add_mul_div_right _ _ hpos, Nat.add_mul_mod_self_right, Nat.add_comm r]

section Laid
variable {K : FrameKernel h R} {w₀ w : σ} {p : Pool R} {a : Arena R} {ram₀ ram : Ram} {x : Blocks UInt8} {addr : Usize}
  {r off : Nat}

/-- The blocks lie at the starts of the pool's spans, and hold what their frames hold. Nobody wrote to a frame
above. -/
structure Laid (K : FrameKernel h R) (w₀ : σ) (ram₀ : Ram) (p : Pool R) (a : Arena R) (w : σ) (ram : Ram)
    (x : Blocks UInt8) : Prop where
  rep : Represents a p
  backs : Backs K w₀ p w
  spans : ∀ {ptr d}, x.block ptr = some d → ∃ i s, p.span i = some s ∧ ptr = (vaddr s.start).toNat ∧
    d.length ≤ s.count * MEGAPAGE_BYTES.toNat
  shows : Shows (byteAt ram) x
  unused : ∀ r, p.next ≤ r → r < R → ram (frame r) = ram₀ (frame r)

theorem laid_empty : Laid K w₀ ram₀ (Pool.empty R) (Arena.empty R) w₀ ram₀ (.empty UInt8) where
  rep := represents_empty
  backs := backs_empty
  spans := nofun
  shows := shows_empty
  unused _ _ _ := rfl

variable (hfit : Fits R)
include hfit

/-- Where a byte of a block is. -/
theorem Laid.place (hl : Laid K w₀ ram₀ p a w ram x) {ptr i : Nat} {d : List UInt8} (hd : x.block ptr = some d)
    (hi : i < d.length) : ∃ r off, p.Holds r ∧ off < MEGAPAGE_BYTES.toNat ∧
      ptr + i = ARENA_VADDR.toNat + r * MEGAPAGE_BYTES.toNat + off := by
  obtain ⟨j, s, hs, rfl, hle⟩ := hl.spans hd
  have hpos := megapage_bytes_toNat
  have hin : i / MEGAPAGE_BYTES.toNat < s.count := (Nat.div_lt_iff_lt_mul (by omega)).2 (by omega)
  refine ⟨s.start + i / MEGAPAGE_BYTES.toNat, i % MEGAPAGE_BYTES.toNat, ⟨j, s, hs, ?_⟩, Nat.mod_lt _ (by omega), ?_⟩
  · exact ⟨Nat.le_add_right _ _, Nat.add_lt_add_left hin _⟩
  · rw [hfit.vaddr_toNat (start_lt hs), megapage_bytes_toNat]
    omega

/-- It is mapped, and only there. -/
theorem Laid.translate_eq (hfresh : Fresh K w₀) (hl : Laid K w₀ ram₀ p a w ram x) (hr : p.Holds r)
    (hoff : off < MEGAPAGE_BYTES.toNat) (haddr : addr.toNat = ARENA_VADDR.toNat + r * MEGAPAGE_BYTES.toNat + off) :
    translate R (K.mapped w) addr = some (frame r, off) := by
  have hrR : r < R := Nat.lt_of_lt_of_le hr.lt p.bounded
  obtain ⟨l₁, l₂, hl₁⟩ := List.append_of_mem (List.mem_range.2 hrR)
  refine List.findSome?_eq_some_iff.2 ⟨l₁, r, l₂, hl₁, ?_, ?_⟩
  · have hv := hfit.vaddr_toNat hrR
    rw [hl.backs.held hr, Option.bind_some, if_pos (by omega), haddr, hv, Nat.add_sub_cancel_left]
  · intro j hj
    have hjr : j ≠ r ∧ j < R := by
      have hnodup : (l₁ ++ r :: l₂).Nodup := hl₁ ▸ List.nodup_range
      have hmem : j ∈ List.range R := hl₁ ▸ List.mem_append_left _ hj
      refine ⟨?_, List.mem_range.1 hmem⟩
      rintro rfl
      exact (List.nodup_append.1 hnodup).2.2 _ hj _ List.mem_cons_self rfl
    by_cases hh : p.Holds j
    · have hv := hfit.vaddr_toNat hjr.2
      rw [hl.backs.held hh, Option.bind_some, if_neg]
      rw [megapage_bytes_toNat] at *
      omega
    · rw [hl.backs.idle hfit hjr.2 hh, hfresh j hjr.2]
      rfl

/-- The contents of its frames are those of the block. -/
theorem Laid.load (hfresh : Fresh K w₀) (hl : Laid K w₀ ram₀ p a w ram x) (hown : x.Owns addr.toNat 1) : ∃ byte,
    machine h K.mapped R (.load addr) (w, ram) = (some byte, (w, ram)) ∧ x.Reads addr.toNat byte := by
  obtain ⟨ptr, d, hd, hptr, hle⟩ := id hown
  obtain ⟨r, off, hr, hoff, haddr⟩ := hl.place hfit hd (i := addr.toNat - ptr) (by omega)
  rw [Nat.add_sub_cancel' hptr] at haddr
  have hbyte : byteAt ram addr.toNat = ram (frame r) off := by
    rw [haddr, byteAt_region, Nat.div_eq_of_lt hoff, Nat.mod_eq_of_lt hoff]
    rfl
  have hread := hl.shows.reads hown
  rw [hbyte] at hread
  refine ⟨_, ?_, hread⟩
  simp only [machine, hl.translate_eq hfit hfresh hr hoff haddr, Option.map_some]
  rfl

/-- A store changes the byte at its address, and no other byte of a block. -/
theorem Laid.store (hfresh : Fresh K w₀) (hl : Laid K w₀ ram₀ p a w ram x) (hown : x.Owns addr.toNat 1) (byte : UInt8) :
    ∃ ram', machine h K.mapped R (.store addr byte) (w, ram) = (true, (w, ram')) ∧
      Laid K w₀ ram₀ p a w ram' (x.fill addr.toNat 1 byte) := by
  obtain ⟨ptr, d, hd, hptr, hle⟩ := id hown
  obtain ⟨r, off, hr, hoff, haddr⟩ := hl.place hfit hd (i := addr.toNat - ptr) (by omega)
  rw [Nat.add_sub_cancel' hptr] at haddr
  have hrR : r < R := Nat.lt_of_lt_of_le hr.lt p.bounded
  refine ⟨Function.update ram (frame r) (Function.update (ram (frame r)) off byte), ?_, ?_⟩
  · simp only [machine, hl.translate_eq hfit hfresh hr hoff haddr]
    rfl
  refine ⟨hl.rep, hl.backs, ?_, ?_, ?_⟩
  · intro q e he
    obtain ⟨e, he', rfl⟩ := Blocks.fill_block.1 he
    rw [length_overwrite]
    exact hl.spans he'
  · refine (hl.shows.fill).congr ?_
    intro q e he i hi
    obtain ⟨e, he', rfl⟩ := Blocks.fill_block.1 he
    rw [length_overwrite] at hi
    obtain ⟨r', off', hr', hoff', hq⟩ := hl.place hfit he' hi
    have hr'R : r' < R := Nat.lt_of_lt_of_le hr'.lt p.bounded
    rw [hq, byteAt_region, byteAt_region, Nat.div_eq_of_lt hoff', Nat.mod_eq_of_lt hoff', Nat.add_zero]
    -- Two addresses of the arena are the same where region and offset are.
    by_cases hsame : r' = r
    · subst hsame
      rw [Function.update_self]
      by_cases hoffs : off' = off
      · subst hoffs
        rw [Function.update_self, if_pos (by omega)]
      · rw [Function.update_of_ne hoffs, if_neg (by omega)]
    · rw [Function.update_of_ne fun hf => hsame (hfit.frame_inj hr'R hrR hf), if_neg]
      rw [megapage_bytes_toNat] at *
      omega
  · intro r' hnext hr'R
    have hne : r' ≠ r := by
      have hlt := hr.lt
      omega
    rw [Function.update_of_ne fun hf => hne (hfit.frame_inj hr'R hrR hf)]
    exact hl.unused r' hnext hr'R

/-- New blocks lie above all earlier ones, on frames that nobody wrote to. -/
theorem Laid.mmap_new (hfresh : Fresh K w₀) (hl : Laid K w₀ ram₀ p a w ram x) (size ret : Usize) : ∃ q a' m w',
    (mmapCall a (.mmap_new size ret)).run h w = (.ret (a', .mapped m), w') ∧
    ((∃ hm : Placed x size m, Laid K w₀ ram₀ q a' w' ram (hm.block (byteAt ram₀))) ∨
      (m = ⟨1, ret⟩ ∧ Laid K w₀ ram₀ q a' w' ram x)) := by
  rcases Nat.lt_or_ge R (p.next + (regions_for size).toNat) with hn | hn
  · refine ⟨p, a, ⟨1, ret⟩, w, ?_, .inr ⟨rfl, hl⟩⟩
    rw [mmap_new_exhausted hfit hl.rep ret hn]
    rfl
  obtain ⟨i, a', w', hi, hrep, hbacks, hrun, -⟩ :=
    mmap_new_claims hfit (Nat.le_refl R) hfresh hl.rep hl.backs ret hn
  have hpos := regions_for_pos size
  have hsize := size_le_regions size
  have hv := hfit.vaddr_toNat (i := p.next) (by omega)
  have hspan : ∀ {q d}, x.block q = some d → q < (vaddr p.next).toNat ∧ q + d.length ≤ (vaddr p.next).toNat := by
    intro q d hd
    obtain ⟨j, s, hs, rfl, hle⟩ := hl.spans hd
    have hstop := p.inside hs
    have hcount := s.pos
    unfold Span.stop at hstop
    rw [hfit.vaddr_toNat (start_lt hs), hv, megapage_bytes_toNat] at *
    omega
  have hplaced : Placed x size ⟨0, vaddr p.next⟩ := by
    refine ⟨rfl, ?_, ?_, ?_⟩
    · change (vaddr p.next).toNat % 4096 = 0
      rw [hv, megapage_bytes_toNat, arena_vaddr_toNat]
      omega
    · have hle := hfit
      unfold Fits at hle
      dsimp only
      rw [hv, megapage_bytes_toNat] at *
      omega
    · intro q d hd
      obtain ⟨hlt, hle⟩ := hspan hd
      exact ⟨Nat.ne_of_lt hlt, .inr hle⟩
  refine ⟨_, a', ⟨0, vaddr p.next⟩, w', hrun, .inl ⟨hplaced, hrep, hbacks, ?_, ?_, ?_⟩⟩
  · intro q d hd
    rcases hplaced.block_some.1 hd with ⟨rfl, rfl⟩ | hold
    · exact ⟨i, _, (Pool.claim_span_some hi).2 (.inr ⟨rfl, rfl⟩), rfl, by rwa [untouched_length]⟩
    · obtain ⟨j, s, hs, hq⟩ := hl.spans hold
      exact ⟨j, s, (Pool.claim_span_some hi).2 (.inl hs), hq⟩
  · refine hplaced.shows hl.shows fun j hj => ?_
    have hregion : j / MEGAPAGE_BYTES.toNat < (regions_for size).toNat := by
      rw [Nat.div_lt_iff_lt_mul (by decide)]
      omega
    dsimp only
    rw [hv, byteAt_region, byteAt_region, hl.unused _ (Nat.le_add_right _ _) (by omega)]
  · intro r hnext
    exact hl.unused r (Nat.le_trans (Nat.le_add_right _ _) hnext)

/-- A block that is given back is gone, and the others stay. -/
theorem Laid.munmap (hfresh : Fresh K w₀) (hl : Laid K w₀ ram₀ p a w ram x) (ptr size : Usize) : ∃ q a' w',
    (mmapCall a (.munmap ptr size)).run h w = (.ret (a', .rc 0), w') ∧ Laid K w₀ ram₀ q a' w' ram (x.free ptr.toNat) := by
  by_cases hptr : ∃ i s, p.span i = some s ∧ ptr = vaddr s.start
  · obtain ⟨i, s, hs, rfl⟩ := hptr
    obtain ⟨a', w', hrep, hbacks, hrun, -⟩ := munmap_releases hfit hl.rep hl.backs hfresh p.bounded hs size
    refine ⟨p.release i, a', w', hrun, hrep, hbacks, ?_, hl.shows.free, hl.unused⟩
    intro q d hd
    obtain ⟨hne, hd⟩ := Blocks.free_block.1 hd
    obtain ⟨j, t, ht, rfl, hle⟩ := hl.spans hd
    have hji : j ≠ i := by
      rintro rfl
      cases hs.symm.trans ht
      exact hne rfl
    exact ⟨j, t, Pool.release_span_some.2 ⟨hji, ht⟩, rfl, hle⟩
  · refine ⟨p, a, w, ?_, hl.rep, hl.backs, fun hd => hl.spans (Blocks.free_block.1 hd).2, hl.shows.free, hl.unused⟩
    rw [munmap_unknown hl.rep size fun i s hs he => hptr ⟨i, s, hs, he⟩]
    rfl

omit hfit in
theorem Laid.space (hfit : Fits R) (hl : Laid K w₀ ram₀ p a w ram x) {ptr : Nat} {d : List UInt8}
    (hd : x.block ptr = some d) : ptr + d.length ≤ 2 ^ 64 := by
  obtain ⟨i, s, hs, rfl, hle⟩ := hl.spans hd
  have hstop := p.inside hs
  have hbounded := p.bounded
  unfold Span.stop at hstop
  unfold Fits at hfit
  rw [Fits.vaddr_toNat hfit (start_lt hs), megapage_bytes_toNat] at *
  omega

end Laid

theorem laid_provides (hfit : Fits R) (K : FrameKernel h R) {w₀ : σ} (hfresh : Fresh K w₀) (ram₀ : Ram) :
    Provides (machine h K.mapped R) arenaMmap (fun _ => True) (byteAt ram₀)
      (fun (a : Arena R) s x => ∃ p, Laid K w₀ ram₀ p a s.1 s.2 x) where
  space := by
    rintro a ⟨w, ram⟩ x ptr d ⟨p, hl⟩ hd
    exact hl.space hfit hd
  mmap_new := by
    rintro a ⟨w, ram⟩ x size ret ⟨p, hl⟩ -
    obtain ⟨q, a', m, w', hrun, hm⟩ := hl.mmap_new hfit hfresh size ret
    refine ⟨a', m, (w', ram), ?_, ?_⟩
    · rw [arenaMmap_run, hrun]
    · rcases hm with ⟨hm, hl'⟩ | ⟨hm, hl'⟩
      · exact .inl ⟨hm, q, hl'⟩
      · exact .inr ⟨hm, q, hl'⟩
  munmap := by
    rintro a ⟨w, ram⟩ x ptr size ⟨p, hl⟩
    obtain ⟨q, a', w', hrun, hl'⟩ := hl.munmap hfit hfresh ptr size
    refine ⟨a', (w', ram), ?_, q, hl'⟩
    rw [arenaMmap_run, hrun]
  load := by
    rintro a ⟨w, ram⟩ x addr ⟨p, hl⟩ hown
    exact hl.load hfit hfresh hown
  store := by
    rintro a ⟨w, ram⟩ x addr byte ⟨p, hl⟩ hown
    obtain ⟨ram', hstore, hl'⟩ := hl.store hfit hfresh hown byte
    exact ⟨(w, ram'), hstore, p, hl'⟩

/-! ## Whole runs -/

/-- However Wasmtime uses the API, it gets blocks of its own, which are at first as their frames were granted and
then hold what it stored last, and its next call is served; as long as it stays inside of them. -/
theorem arena_memory_private (hfit : Fits R) (K : FrameKernel h R) {w₀ : σ} (hfresh : Fresh K w₀) {ram₀ : Ram}
    {hist : List (Step Hardware ApiCall ApiReply)} {s : Statics (Arena R)} {w : σ × Ram}
    (hs : Served (machine h K.mapped R) (apiCall arenaMmap) ⟨Arena.empty R, 0⟩ (w₀, ram₀) hist s w)
    (hlegal : (contract (byteAt ram₀)).Keeps (Believed.Legal · fun _ => True) .start (seen hist)) :
    (contract (byteAt ram₀)).Holds .start (seen hist) ∧
      ∀ c, ((contract (byteAt ram₀)).after .start (seen hist)).Legal (fun _ => True) c →
        ∃ s' r w', (apiCall arenaMmap s c).run (machine h K.mapped R) w = (.ret (s', r), w') ∧
          ((contract (byteAt ram₀)).after .start (seen hist)).allows c r :=
  (laid_provides hfit K hfresh ram₀).meets.served hs ⟨⟨_, laid_empty⟩, rfl⟩ hlegal

/-- A page, a byte that is stored in it, and read again. -/
theorem arena_memory_private_page :
    let hw := machine (tableKernel 4) (tableKernel_strict 4).mapped 4
    let view : List (Event (Client ApiCall ApiReply)) := [⟨.mmap_new 0x1000 3 0, .mapped ⟨0, 0x88200000⟩⟩,
      ⟨.store 0x88200010 7, .done⟩, ⟨.load 0x88200010, .byte 7⟩]
    ∃ (hist : List (Step Hardware ApiCall ApiReply)) (s : Statics (Arena 4)) (w : (Usize → Option Usize) × Ram),
      Served hw (apiCall arenaMmap) ⟨Arena.empty 4, 0⟩ (fun _ => none, fun _ _ => 0) hist s w ∧ seen hist = view ∧
      (contract fun _ => 0).Holds .start view ∧
      ∀ c, ((contract fun _ => 0).after .start view).Legal (fun _ => True) c →
        ∃ s' r w', (apiCall arenaMmap s c).run hw w = (.ret (s', r), w') ∧
          ((contract fun _ => 0).after .start view).allows c r := by
  intro hw view
  obtain ⟨hist, s, w, hrun, hseen⟩ : ∃ hist s w, replay hw (apiCall arenaMmap)
      [.mmap_new 0x1000 3 0, .store 0x88200010 7, .load 0x88200010] ⟨Arena.empty 4, 0⟩ (fun _ => none, fun _ _ => 0) =
      some (hist, s, w) ∧ seen hist = view := ⟨_, _, _, rfl, rfl⟩
  have hplaced : Placed (.empty UInt8) 0x1000 ⟨0, 0x88200000⟩ := ⟨rfl, by decide, by decide, nofun⟩
  have hown : (hplaced.block fun _ => 0).Owns 0x88200010 1 :=
    ⟨0x88200000, _, hplaced.block_some.2 (.inl ⟨rfl, rfl⟩), by decide, by rw [untouched_length]; decide⟩
  have hlegal : (contract fun _ => 0).Keeps (Believed.Legal · fun _ => True) .start (seen hist) := by
    rw [hseen]
    refine ⟨trivial, ?_⟩
    have hnext : Believed.start.next (fun _ => 0) (.mmap_new 0x1000 3 0) (.mapped ⟨0, 0x88200000⟩) =
        { Believed.start with blocks := hplaced.block fun _ => 0 } := Believed.next_placed _ _ hplaced
    change (contract fun _ => 0).Keeps (Believed.Legal · fun _ => True)
      (Believed.start.next (fun _ => 0) (.mmap_new 0x1000 3 0) (.mapped ⟨0, 0x88200000⟩)) _
    rw [hnext]
    exact ⟨hown, hown.fill, trivial⟩
  have hserved := replay_served _ _ _ _ _ hrun
  obtain ⟨hholds, hnext⟩ := arena_memory_private (by unfold Fits; decide) (tableKernel_strict 4).toFrameKernel
    (fun _ _ => rfl) hserved hlegal
  rw [hseen] at hholds hnext
  exact ⟨hist, s, w, hserved, hseen, hholds, hnext⟩

end LanternRuntime.Platform

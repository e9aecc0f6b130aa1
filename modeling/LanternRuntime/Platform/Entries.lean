import Mathlib.Data.Fintype.Card
import LanternRuntime.Platform.History
import LanternRuntime.Platform.Traces
/-!
# The table does not run out

`alloc` looks for a free entry after it has claimed and mapped its regions, and
gives up if there is none. There always is one: every occupied entry was paid
for with a region, and the bump index counts those.
-/
open ProgLib

namespace LanternRuntime.Platform
open backing

variable {R : Nat} {a a' : Arena R} {hist : List MmapStep} {tr : List (Event Frames)}

/-- `max(1, ceil(size / 2 MiB))`. -/
def regionsNeeded (size : Usize) : Nat :=
  max 1 ((size.toNat + (MEGAPAGE_BYTES.toNat - 1)) / MEGAPAGE_BYTES.toNat)

theorem regionsNeeded_eq (size : Usize) : regionsNeeded size = (regions_for size).toNat :=
  (regions_for_toNat size).symm

/-- Every frame of the arena was granted: `Map` of one that was never mapped before succeeds. -/
def AllGranted (R : Nat) (tr : List (Event Frames)) : Prop :=
  ∀ pre e post r vspace v perms, tr = pre ++ e :: post → e.call = .map (frame r) vspace v perms → r < R →
    frame r ∉ framesMapped pre → e.ans = .ok ()

/-! ## Entries and regions -/

/-- The entries that are occupied. -/
def occupied (a : Arena R) : Finset (Fin R) := Finset.univ.filter fun i => a.alloc_count i ≠ 0

@[simp] theorem mem_occupied {i : Fin R} : i ∈ occupied a ↔ a.alloc_count i ≠ 0 := by simp [occupied]

/-- While fewer entries are occupied than there are, one is free. -/
theorem freeEntry_ne_none (h : (occupied a).card < R) («end» : Usize) : freeEntry a «end» ≠ none := by
  intro hnone
  have hall : occupied a = Finset.univ := by
    apply Finset.eq_univ_of_forall
    intro i
    have hi := List.find?_eq_none.1 hnone i (List.mem_finRange i)
    rw [mem_occupied]
    exact fun hz => hi (decide_eq_true hz)
  rw [hall, Finset.card_univ, Fintype.card_fin] at h
  exact Nat.lt_irrefl R h

theorem card_occupied_set (slot : Fin R) (v n : Usize) :
    (occupied (a.set_slot slot v n)).card ≤ (occupied a).card + 1 := by
  refine Nat.le_trans (Finset.card_le_card ?_) (Finset.card_insert_le slot (occupied a))
  intro i hi
  rw [mem_occupied, alloc_count_set] at hi
  by_cases hslot : i = slot
  · exact Finset.mem_insert.2 (.inl hslot)
  · rw [if_neg hslot] at hi
    exact Finset.mem_insert_of_mem (mem_occupied.2 hi)

theorem card_occupied_zero (slot : Fin R) : (occupied (a.set_slot slot 0 0)).card ≤ (occupied a).card := by
  apply Finset.card_le_card
  intro i hi
  rw [mem_occupied, alloc_count_set] at hi
  by_cases hslot : i = slot
  · rw [if_pos hslot] at hi
    exact absurd rfl hi
  · rw [if_neg hslot] at hi
    exact mem_occupied.2 hi

/-- After `hist`: no more entries than regions taken, and no frame mapped above them. -/
structure Roomy (hist : List MmapStep) (a : Arena R) : Prop where
  bounded : a.next_region.toNat ≤ R
  entries : (occupied a).card ≤ a.next_region.toNat
  mapped : ∀ f ∈ framesMapped (hist.flatMap Step.trace), ∃ r < a.next_region.toNat, f = frame r

theorem roomy_empty : Roomy [] (Arena.empty R) where
  bounded := Nat.zero_le _
  entries := by simp [occupied]
  mapped := nofun

/-- A call that returned, and mapped nothing. -/
theorem Roomy.quiet {e : MmapStep} (h : Roomy hist a) (hnext : a'.next_region = a.next_region)
    (hcard : (occupied a').card ≤ (occupied a).card) (htr : framesMapped e.trace = []) : Roomy (hist ++ [e]) a' where
  bounded := hnext ▸ h.bounded
  entries := hnext ▸ Nat.le_trans hcard h.entries
  mapped := by
    rw [List.flatMap_append, List.flatMap_singleton, framesMapped_append, htr, List.append_nil, hnext]
    exact h.mapped

/-- The search of `alloc` succeeds if its regions did. -/
theorem Roomy.finds_entry (h : Roomy hist a) {size : Usize} (hn : a.next_region.toNat + (regions_for size).toNat ≤ R) :
    ∃ slot, allocated a size = ({ a with next_region := a.next_region + regions_for size }.set_slot slot
      (vaddr_of a.next_region) (regions_for size), some (vaddr_of a.next_region)) := by
  have hpos := regions_for_pos size
  have hentries := h.entries
  unfold allocated
  cases hf : freeEntry a (a.next_region + regions_for size) with
  | none => exact absurd hf (freeEntry_ne_none (by omega) _)
  | some slot => exact ⟨slot, rfl⟩

theorem Roomy.step (hR : R < 2 ^ 64) (h : Roomy hist a) {c : MmapCall} {r : MmapReply}
    (hr : Runs (mmapCall a c) tr (.ret (a', r))) : Roomy (hist ++ [⟨c, r, tr⟩]) a' := by
  cases c with
  | mmap_new size ret =>
    obtain ⟨o, ha, -⟩ := runs_mmap_new hr
    rcases runs_alloc hR ha with ⟨-, rfl, rfl, -⟩ | ⟨hn, he, hloop⟩
    · exact h.quiet rfl (Nat.le_refl _) rfl
    · obtain ⟨slot, hslot⟩ := h.finds_entry hn
      cases he.trans hslot
      have hpos := regions_for_pos size
      have hend := end_toNat hR hn
      have hentries := h.entries
      have hcard := card_occupied_set (a := { a with next_region := a.next_region + regions_for size }) slot
        (vaddr_of a.next_region) (regions_for size)
      refine ⟨hend ▸ hn, ?_, ?_⟩
      · exact Nat.le_trans hcard (hend ▸ Nat.add_le_add hentries hpos)
      · intro f hf
        rw [List.flatMap_append, List.flatMap_singleton, framesMapped_append, framesMapped_map_loop hloop] at hf
        change ∃ r < (a.next_region + regions_for size).toNat, f = frame r
        rw [hend]
        rcases List.mem_append.1 hf with hf | hf
        · obtain ⟨r, hlt, rfl⟩ := h.mapped f hf
          exact ⟨r, by omega, rfl⟩
        · obtain ⟨r, hmem, rfl⟩ := List.mem_map.1 hf
          have hrange := List.mem_range'_1.1 hmem
          exact ⟨r, by omega, rfl⟩
  | munmap ptr size =>
    obtain ⟨ha, -⟩ := runs_munmap hr
    rcases runs_dealloc ha with ⟨rfl, rfl⟩ | ⟨slot, l, rfl, htr⟩
    · exact h.quiet rfl (Nat.le_refl _) rfl
    · exact h.quiet rfl (card_occupied_zero slot) (framesMapped_unmaps htr)

theorem roomy_of_session (hR : R < 2 ^ 64) (hs : Session mmapCall (Arena.empty R) hist a) : Roomy hist a :=
  hs.inv roomy_empty fun _ _ _ _ _ _ h hr => h.step hR hr

/-! ## Every frame granted -/

/-- Above all that was mapped before, the loop that maps is refused nothing. -/
theorem map_loop_granted (hR : R < 2 ^ 64) {perms : MapPerms} {n k : Nat} {pre : List (Event Frames)} {o : Outcome Unit}
    (hkn : k + n ≤ R) (hpre : ∀ f ∈ framesMapped pre, ∃ r < k, f = frame r) (hg : AllGranted R (pre ++ tr))
    (h : Runs (for_range.go (map_region perms) n (UInt64.ofNat k)) tr o) : o = .ret () := by
  induction n generalizing k pre tr with
  | zero => exact (runs_ret.1 h).2
  | succ n ih =>
    rw [for_range_go_succ, map_region_eq] at h
    obtain ⟨ans, tr', rfl, h'⟩ := runs_call.1 h
    have hnot : frame k ∉ framesMapped pre := by
      intro hmem
      obtain ⟨r, hlt, he⟩ := hpre _ hmem
      have := frame_inj hR (by omega) (by omega) he
      omega
    obtain rfl : ans = .ok () := hg pre _ tr' k _ _ _ rfl rfl (by omega) hnot
    have hg' : AllGranted R ((pre ++ [⟨.map (frame k) SELF_VSPACE_CPTR (vaddr k) perms, .ok ()⟩]) ++ tr') := by
      simpa using hg
    refine ih (k := k + 1) (by omega) ?_ hg' h'
    intro f hf
    rw [framesMapped_append] at hf
    rcases List.mem_append.1 hf with hf | hf
    · obtain ⟨r, hlt, rfl⟩ := hpre f hf
      exact ⟨r, by omega, rfl⟩
    · exact ⟨k, by omega, List.mem_singleton.1 hf⟩

/-- In every reachable state and for every size, with every frame granted: `alloc` gives the regions
at the bump index if there are enough of them, and does nothing if not. Where it looks for a free
entry, it finds one. -/
theorem alloc_some_iff (hR : R < 2 ^ 64) (hs : Session mmapCall (Arena.empty R) hist a) (size : Usize)
    {o : Outcome (Arena R × Option Usize)} (hr : Runs (alloc a size) tr o)
    (hg : AllGranted R (hist.flatMap Step.trace ++ tr)) :
    (∃ a' p, o = .ret (a', p) ∧ (p ≠ none ↔ a.next_region.toNat + regionsNeeded size ≤ R) ∧
      (∀ v, p = some v → v = ARENA_VADDR + a.next_region * MEGAPAGE_BYTES) ∧ (p = none → a' = a ∧ tr = [])) ∧
    (a.next_region.toNat + regionsNeeded size ≤ R → ∀ «end», freeEntry a «end» ≠ none) := by
  have h := roomy_of_session hR hs
  have hpos := regions_for_pos size
  have hentries := h.entries
  rw [regionsNeeded_eq]
  rcases Nat.lt_or_ge R (a.next_region.toNat + (regions_for size).toNat) with hn | hn
  · rw [alloc_too_many hR hn] at hr
    obtain ⟨rfl, rfl⟩ := runs_ret.1 hr
    refine ⟨⟨a, none, rfl, ?_, nofun, fun _ => ⟨rfl, rfl⟩⟩, fun hle => absurd hn (Nat.not_lt_of_le hle)⟩
    exact iff_of_false (fun hne => hne rfl) (Nat.not_le_of_lt hn)
  · obtain ⟨slot, hslot⟩ := h.finds_entry hn
    refine ⟨?_, fun _ => freeEntry_ne_none (by omega)⟩
    rw [alloc_enough hR hn, ← UInt64.ofNat_toNat (x := a.next_region)] at hr
    rcases runs_bind.1 hr with ⟨tr₁, tr₂, ⟨⟩, rfl, hloop, hret⟩ | ⟨msg, -, hloop⟩
    · obtain ⟨rfl, rfl⟩ := runs_ret.1 hret
      rw [hslot]
      exact ⟨_, _, rfl, iff_of_true nofun hn, by rintro v ⟨⟩; rfl, nofun⟩
    · cases map_loop_granted hR hn h.mapped hg hloop

/-- A kernel that refuses nothing. -/
def willing : Handler Frames Unit := fun _ s => (.ok (), s)

theorem willing_ok {α : Type} (p : Prog Frames α) : ∀ e ∈ p.trace willing (), e.ans = .ok () := by
  induction p with
  | ret | panic => exact nofun
  | call c k ih =>
    intro e he
    rcases List.mem_cons.1 he with rfl | he
    · rfl
    · exact ih _ e he

theorem willing_session_ok {w : Unit} (hs : Served willing mmapCall (Arena.empty R) () hist a w) :
    ∀ e ∈ hist.flatMap Step.trace, e.ans = .ok () := by
  refine hs.inv (I := fun (hist : List MmapStep) _ _ => ∀ e ∈ hist.flatMap Step.trace, e.ans = .ok ()) nofun ?_
  intro hist a w c a' r w' hall _ e he
  rw [List.flatMap_append, List.flatMap_singleton] at he
  rcases List.mem_append.1 he with he | he
  · exact hall e he
  · exact willing_ok _ e he

theorem allGranted_of_ok (h : ∀ e ∈ tr, e.ans = .ok ()) : AllGranted R tr := by
  rintro pre e post _ _ _ _ rfl _ _ _
  exact h e (List.mem_append_right _ List.mem_cons_self)

/-- After two allocations of four regions and one `munmap`, a request for the last two. -/
theorem alloc_some_iff_four_regions :
    ∃ (hist : List MmapStep) (a : Arena 4), Session mmapCall (Arena.empty 4) hist a ∧
      (∃ a' p, ((alloc a 0x200001).run willing ()).1 = .ret (a', p) ∧
        (p ≠ none ↔ a.next_region.toNat + regionsNeeded 0x200001 ≤ 4) ∧
        (∀ v, p = some v → v = ARENA_VADDR + a.next_region * MEGAPAGE_BYTES) ∧
        (p = none → a' = a ∧ (alloc a 0x200001).trace willing () = [])) ∧
      (a.next_region.toNat + regionsNeeded 0x200001 ≤ 4 → ∀ «end», freeEntry a «end» ≠ none) := by
  have hserved := replay_served willing mmapCall
    [.mmap_new 0x1000 0, .mmap_new 0x2000 0, .munmap 0x88200000 0x1000] (s := Arena.empty 4) () _ rfl
  refine ⟨_, _, hserved.session, ?_⟩
  refine alloc_some_iff (by decide) hserved.session 0x200001 (runs_run willing _ ()) (allGranted_of_ok ?_)
  intro e he
  rcases List.mem_append.1 he with he | he
  · exact willing_session_ok hserved e he
  · exact willing_ok _ e he

end LanternRuntime.Platform

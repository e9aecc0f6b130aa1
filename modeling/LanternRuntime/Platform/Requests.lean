import LanternRuntime.Platform.Fallback
/-!
# One request after the other

`wasmtime_mmap_new` over the fallback arena, called by itself. However often an
exchange fails, the call comes back with the next bytes or with nothing
(`mmapNew_iff`). `mmap_new_honest_iff` says for which sizes that is what was
asked for.
-/
open ProgLib

namespace LanternRuntime.Platform.fallback

variable {base : ArenaBase} {next next' size ret s : Usize} {p : Place} {m : Mapped}

/-! ## One request -/

/-- A call with nobody else at the arena. -/
def MmapNew (base : ArenaBase) (next size ret : Usize) (m : Mapped) (next' : Usize) : Prop :=
  ∃ p, Alone (wasmtime_mmap_new base ret) atomic (.start size) next p next' ∧ wasmtime_mmap_new base ret p = .done m

/-- What it comes back with, and the offset it leaves. -/
def outcome (base : ArenaBase) (next size ret : Usize) : Mapped × Usize :=
  match bump next (round_up size) with
  | none => (⟨1, ret⟩, next)
  | some next' => (⟨0, base.addr + next⟩, next')

/-- Where a call can be by itself: nobody else moves the offset it has seen. -/
def Underway (next size : Usize) (p : Place) (s : Usize) : Prop :=
  (p = .start size ∧ s = next) ∨ (p = .trying (round_up size) next ∧ s = next) ∨
    (p = .granted next ∧ bump next (round_up size) = some s)

theorem underway (h : Alone (wasmtime_mmap_new base ret) atomic (.start size) next p s) : Underway next size p s := by
  refine h.inv (.inl ⟨rfl, rfl⟩) ?_
  rintro p s e q s' hp ha
  rcases advance_cases (advance_map.1 ha) with ⟨size', rfl, -, rfl, rfl⟩ | ⟨size', rfl, hb, -, rfl⟩ |
    ⟨size', off, new, rfl, hb, -, rfl, rfl⟩
  · rcases hp with ⟨⟨⟩, rfl⟩ | ⟨⟨⟩, -⟩ | ⟨⟨⟩, -⟩
    exact .inr (.inl ⟨rfl, rfl⟩)
  · rcases hp with ⟨⟨⟩, -⟩ | ⟨⟨⟩, -⟩ | ⟨⟨⟩, -⟩
    exact .inr (.inr ⟨rfl, hb⟩)
  · rcases hp with ⟨⟨⟩, -⟩ | ⟨⟨⟩, rfl⟩ | ⟨⟨⟩, -⟩
    exact .inr (.inl ⟨rfl, rfl⟩)

theorem trying_returns (base : ArenaBase) (next size ret : Usize) :
    ∃ q, Alone (wasmtime_mmap_new base ret) atomic (.trying (round_up size) next) next q
        (outcome base next size ret).2 ∧ wasmtime_mmap_new base ret q = .done (outcome base next size ret).1 := by
  unfold outcome
  cases hb : bump next (round_up size) with
  | none => exact ⟨.trying (round_up size) next, .refl, by simp [wasmtime_mmap_new, alloc, hb, Turn.map]⟩
  | some new =>
    exact ⟨.granted next, .one (advance_map.2 (advance_exchange hb)), rfl⟩

/-- From wherever it is, the call can still come back, with its outcome. -/
theorem underway_returns (base : ArenaBase) (ret : Usize) (hu : Underway next size p s) :
    ∃ q, Alone (wasmtime_mmap_new base ret) atomic p s q (outcome base next size ret).2 ∧
      wasmtime_mmap_new base ret q = .done (outcome base next size ret).1 := by
  rcases hu with ⟨rfl, rfl⟩ | ⟨rfl, rfl⟩ | ⟨rfl, hb⟩
  · obtain ⟨q, hq, hdone⟩ := trying_returns base s size ret
    exact ⟨q, (Alone.one (advance_map.2 (advance_load base size s))).trans hq, hdone⟩
  · exact trying_returns base s size ret
  · refine ⟨.granted next, ?_, ?_⟩ <;> simp only [outcome, hb]
    · exact .refl
    · rfl

/-- And with nothing else. -/
theorem underway_done (hu : Underway next size p s) (hd : wasmtime_mmap_new base ret p = .done m) :
    outcome base next size ret = (m, s) := by
  rcases hu with ⟨rfl, rfl⟩ | ⟨rfl, rfl⟩ | ⟨rfl, hb⟩
  · cases hd
  · unfold outcome
    cases hb : bump s (round_up size) <;> simp [wasmtime_mmap_new, alloc, hb, Turn.map] at hd
    rw [← hd]
  · cases hd
    simp only [outcome, hb]

theorem mmapNew_iff : MmapNew base next size ret m next' ↔ outcome base next size ret = (m, next') := by
  constructor
  · rintro ⟨p, halone, hd⟩
    exact underway_done (underway halone) hd
  · intro heq
    have hstart : Underway next size (.start size) next := .inl ⟨rfl, rfl⟩
    obtain ⟨q, hq, hdone⟩ := underway_returns base ret hstart
    rw [heq] at hq hdone
    exact ⟨q, hq, hdone⟩

/-! ## Requests so far -/

/-- Requests for these sizes, one after the other, got these answers and left the offset at `next`. -/
inductive Requests (base : ArenaBase) : List (Usize × Mapped) → Usize → Prop
  | nil : Requests base [] 0
  | snoc {hist next size ret m next'} : Requests base hist next → MmapNew base next size ret m next' →
      Requests base (hist ++ [(size, m)]) next'

/-- The address `x` is in the region that was asked for and given. -/
def Region (size : Usize) (m : Mapped) (x : Nat) : Prop :=
  m.rc = 0 ∧ m.ret.toNat ≤ x ∧ x < m.ret.toNat + size.toNat

/-- The pointer is to `size` bytes of the arena that belong to no earlier request. -/
structure Granted (base : ArenaBase) (hist : List (Usize × Mapped)) (size : Usize) (m : Mapped) : Prop where
  rc : m.rc = 0
  aligned : m.ret.toNat % 4096 = 0
  inside : base.addr.toNat ≤ m.ret.toNat ∧ m.ret.toNat + size.toNat ≤ base.addr.toNat + ARENA_BYTES.toNat
  fresh : ∀ {x : Nat}, (∃ r ∈ hist, Region r.1 r.2 x) → ¬ Region size m x

/-- The bytes are given, or refused with nothing changed; and refused if there are too few. -/
structure Honest (base : ArenaBase) (hist : List (Usize × Mapped)) (next size : Usize) (m : Mapped)
    (next' : Usize) : Prop where
  answer : Granted base hist size m ∨ (m.rc ≠ 0 ∧ next' = next)
  refuses : ARENA_BYTES.toNat - next.toNat < size.toNat → m.rc ≠ 0

/-- What requests in range leave behind: whole pages, and every region below the offset. -/
structure Below (base : ArenaBase) (hist : List (Usize × Mapped)) (next : Usize) : Prop where
  bounded : next.toNat ≤ ARENA_BYTES.toNat
  pages : next.toNat % 4096 = 0
  regions : ∀ {x : Nat}, (∃ r ∈ hist, Region r.1 r.2 x) → x < base.addr.toNat + next.toNat

theorem outcome_cases (h : outcome base next size ret = (m, next')) :
    (ARENA_BYTES.toNat < next.toNat + (round_up size).toNat ∧ m = ⟨1, ret⟩ ∧ next' = next) ∨
    (next.toNat + (round_up size).toNat ≤ ARENA_BYTES.toNat ∧ next'.toNat = next.toNat + (round_up size).toNat ∧
      m = ⟨0, base.addr + next⟩) := by
  unfold outcome at h
  cases hb : bump next (round_up size) with
  | none =>
    rw [hb] at h
    cases h
    exact .inl ⟨bump_eq_none.1 hb, rfl, rfl⟩
  | some new =>
    rw [hb] at h
    cases h
    obtain ⟨hle, hnew⟩ := bump_eq_some.1 hb
    exact .inr ⟨hle, hnew, rfl⟩

section Step
variable {hist : List (Usize × Mapped)}

theorem Below.zero : Below base [] 0 where
  bounded := Nat.zero_le _
  pages := rfl
  regions := by
    rintro x ⟨r, hr, -⟩
    cases hr

/-- A request in range gets whole pages above all that was given before. -/
theorem Below.step (hb : Below base hist next) (hin : InRange size) (h : outcome base next size ret = (m, next')) :
    Below base (hist ++ [(size, m)]) next' ∧ Honest base hist next size m next' := by
  have hle : size.toNat ≤ (round_up size).toNat := le_round_up hin
  have hpages := round_up_aligned size
  obtain ⟨hbounded, hpages', hregions⟩ := hb
  rcases outcome_cases h with ⟨hbig, rfl, rfl⟩ | ⟨hfits, hnext, rfl⟩
  · refine ⟨⟨hbounded, hpages', ?_⟩, ⟨.inr ⟨by simp, rfl⟩, fun _ => by simp⟩⟩
    rintro x ⟨r, hr, hx⟩
    rcases List.mem_append.1 hr with hr | hr
    · exact hregions ⟨r, hr, hx⟩
    · cases List.mem_singleton.1 hr
      exact absurd hx.1 (by simp)
  · have haddr := base.add_toNat hbounded
    refine ⟨⟨by omega, by omega, ?_⟩, ⟨.inl ⟨rfl, ?_, ?_, ?_⟩, fun hfew => by omega⟩⟩
    · rintro x ⟨r, hr, hx⟩
      rcases List.mem_append.1 hr with hr | hr
      · have hlt := hregions ⟨r, hr, hx⟩
        omega
      · cases List.mem_singleton.1 hr
        obtain ⟨-, -, hx'⟩ := hx
        dsimp only at hx'
        omega
    · have haligned := base.aligned
      dsimp only
      omega
    · dsimp only
      omega
    · rintro x hold ⟨-, hx, -⟩
      have hlt := hregions hold
      dsimp only at hx
      omega

/-- A request out of range gets a pointer to nothing. -/
theorem not_honest (hbounded : next.toNat ≤ ARENA_BYTES.toNat) (hin : ¬ InRange size)
    (h : outcome base next size ret = (m, next')) : ¬ Honest base hist next size m next' := by
  have hbytes := arena_bytes_toNat
  have hzero : (round_up size).toNat = 0 := by rw [round_up_wraps hin, UInt64.toNat_zero]
  unfold InRange at hin
  rcases outcome_cases h with ⟨hbig, -, -⟩ | ⟨-, -, rfl⟩
  · omega
  · intro hhonest
    exact hhonest.refuses (by omega) rfl

/-- After any requests in range, all of them were given what they asked for, or nothing. -/
theorem requests_below (h : Requests base hist next) (hh : ∀ r ∈ hist, InRange r.1) : Below base hist next := by
  induction h with
  | nil => exact .zero
  | snoc h hm ih =>
    have hin := hh _ (List.mem_append_right _ List.mem_cons_self)
    have hb := ih fun r hr => hh r (List.mem_append_left _ hr)
    exact (hb.step hin (mmapNew_iff.1 hm)).1

end Step

/-- At any offset that requests in range lead to, and for every size: the call comes back, wherever
it is, and its answer is honest exactly if the size is in range too. -/
theorem mmap_new_honest_iff (base : ArenaBase) {hist : List (Usize × Mapped)} {next : Usize}
    (h : Requests base hist next) (hh : ∀ r ∈ hist, InRange r.1) (size ret : Usize) :
    (∀ p s, Alone (wasmtime_mmap_new base ret) atomic (.start size) next p s →
      ∃ q s' m, Alone (wasmtime_mmap_new base ret) atomic p s q s' ∧ wasmtime_mmap_new base ret q = .done m) ∧
    ∀ m next', MmapNew base next size ret m next' → (Honest base hist next size m next' ↔ InRange size) := by
  have hb := requests_below h hh
  constructor
  · intro p s halone
    obtain ⟨q, hq, hdone⟩ := underway_returns base ret (underway halone)
    exact ⟨q, _, _, hq, hdone⟩
  · intro m next' hm
    have ho := mmapNew_iff.1 hm
    constructor
    · intro hhonest
      by_contra hin
      exact not_honest hb.bounded hin ho hhonest
    · intro hin
      exact (hb.step hin ho).2

/-- A first request, for one byte, and a second one, for one more than the arena has left. -/
theorem mmap_new_honest_iff_second :
    let hist : List (Usize × Mapped) := [(1, ⟨0, 0x10000⟩)]
    (∀ p s, Alone (wasmtime_mmap_new lowArena 0) atomic (.start 0x3f001) 4096 p s →
      ∃ q s' m, Alone (wasmtime_mmap_new lowArena 0) atomic p s q s' ∧ wasmtime_mmap_new lowArena 0 q = .done m) ∧
    ∀ m next', MmapNew lowArena 4096 0x3f001 0 m next' →
      (Honest lowArena hist 4096 0x3f001 m next' ↔ InRange 0x3f001) := by
  have hfirst : MmapNew lowArena 0 1 0 ⟨0, 0x10000⟩ 4096 := mmapNew_iff.2 (by decide)
  refine mmap_new_honest_iff lowArena (Requests.nil.snoc hfirst) ?_ 0x3f001 0
  rintro r hr
  cases List.mem_singleton.1 hr
  unfold InRange
  decide

/-- The largest size there is, asked of the empty arena: a pointer, and not a byte behind it. -/
theorem largest_size_granted :
    MmapNew lowArena 0 0xffffffffffffffff 0 ⟨0, 0x10000⟩ 0 ∧
    ¬ Honest lowArena [] 0 0xffffffffffffffff ⟨0, 0x10000⟩ 0 := by
  have houtcome : outcome lowArena 0 0xffffffffffffffff 0 = (⟨0, 0x10000⟩, 0) := by decide
  exact ⟨mmapNew_iff.2 houtcome, fun h => absurd rfl (h.refuses (by decide))⟩

end LanternRuntime.Platform.fallback

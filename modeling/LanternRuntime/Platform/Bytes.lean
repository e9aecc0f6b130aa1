import LanternRuntime.Platform.Memory
import LanternRuntime.Platform.Requests
/-!
# Blocks in the static arena

The fallback of `riscv64-probe/src/platform.rs` under the whole API, for one
caller. Its memory are the bytes of `ARENA`. Every block is below the offset and
every byte above it is blank, so a new block is blank too. Nothing is ever given
back.
-/
open ProgLib

namespace LanternRuntime.Platform.fallback

variable {base : ArenaBase} {next : Usize} {mem : Nat → UInt8} {x : Blocks UInt8} {addr : Usize}

/-! ## `ARENA` -/

/-- The address is one of the arena. -/
def Inside (base : ArenaBase) (a : Nat) : Prop := base.addr.toNat ≤ a ∧ a < base.addr.toNat + ARENA_BYTES.toNat

instance (a : Nat) : Decidable (Inside base a) := inferInstanceAs (Decidable (_ ∧ _))

/-- The static, by address. There is no kernel to call. -/
def machine (base : ArenaBase) : Handler Hardware (Nat → UInt8)
  | .frame _, mem => (.error (0 : SysError), mem)
  | .load addr, mem => (if Inside base addr.toNat then some (mem addr.toNat) else none, mem)
  | .store addr byte, mem =>
    if Inside base addr.toNat then (true, Function.update mem addr.toNat byte) else (false, mem)

/-- `wasmtime_mmap_new`, as it comes back, and `wasmtime_munmap`. -/
def bumpMmap (base : ArenaBase) (next : Usize) : MmapCall → Prog Hardware (Usize × MmapReply)
  | .mmap_new size ret => return ((outcome base next size ret).2, .mapped (outcome base next size ret).1)
  | .munmap .. => return (next, .rc 0)

/-- The loop of `alloc` comes to this, however often it goes round. -/
theorem bumpMmap_iff {ω : Type} {h : Handler Hardware ω} {w : ω} {size ret next' : Usize} {m : Mapped} :
    (bumpMmap base next (.mmap_new size ret)).run h w = (.ret (next', .mapped m), w) ↔
      MmapNew base next size ret m next' := by
  rw [mmapNew_iff]
  constructor
  · intro hrun
    cases hrun
    rfl
  · intro heq
    change (Outcome.ret ((outcome base next size ret).2, MmapReply.mapped (outcome base next size ret).1), w) = _
    rw [heq]

/-! ## Blocks below the offset -/

/-- Each block is in the arena below the offset, and has at least a byte. -/
structure Bumped (base : ArenaBase) (next : Usize) (mem : Nat → UInt8) (x : Blocks UInt8) : Prop where
  bounded : next.toNat ≤ ARENA_BYTES.toNat
  pages : next.toNat % 4096 = 0
  below : ∀ {p d}, x.block p = some d →
    0 < d.length ∧ base.addr.toNat ≤ p ∧ p + d.length ≤ base.addr.toNat + next.toNat
  shows : Shows mem x
  blank : ∀ a, base.addr.toNat + next.toNat ≤ a → mem a = 0

theorem bumped_empty (base : ArenaBase) : Bumped base 0 (fun _ => 0) (.empty UInt8) where
  bounded := Nat.zero_le _
  pages := rfl
  below := nofun
  shows := shows_empty
  blank _ _ := rfl

/-- A size that a block can have: at least a byte, and in whole pages no overflow. -/
def BlockSize (size : Usize) : Prop := 0 < size.toNat ∧ InRange size

namespace Bumped
variable (hb : Bumped base next mem x)
include hb

/-- Addresses of blocks are the arena's. -/
theorem inside (hown : x.Owns addr.toNat 1) :
    Inside base addr.toNat ∧ addr.toNat < base.addr.toNat + next.toNat := by
  obtain ⟨p, d, hd, hp, hle⟩ := hown
  obtain ⟨-, hlow, hhigh⟩ := hb.below hd
  have hbounded := hb.bounded
  exact ⟨⟨by omega, by omega⟩, by omega⟩

/-- What is handed out starts where the blocks before it end. -/
theorem mmap_new {size ret next' : Usize} {m : Mapped} (hsize : BlockSize size)
    (h : outcome base next size ret = (m, next')) :
    (∃ hm : Placed x size m, Bumped base next' mem (hm.block fun _ => 0)) ∨ (m = ⟨1, ret⟩ ∧ Bumped base next' mem x) := by
  obtain ⟨hpos, hin⟩ := hsize
  have hbounded := hb.bounded
  have hinside := base.inside
  have haddr := base.add_toNat hbounded
  rcases outcome_cases h with ⟨-, rfl, rfl⟩ | ⟨hfits, hnext, rfl⟩
  · exact .inr ⟨rfl, hb⟩
  have hle := le_round_up hin
  have hplaced : Placed x size ⟨0, base.addr + next⟩ := by
    refine ⟨rfl, ?_, ?_, ?_⟩
    · have haligned := base.aligned
      have hpages := hb.pages
      change (base.addr + next).toNat % 4096 = 0
      omega
    · dsimp only
      omega
    · intro q d hd
      obtain ⟨hlen, -, hhigh⟩ := hb.below hd
      dsimp only
      exact ⟨by omega, .inr (by omega)⟩
  refine .inl ⟨hplaced, ?_, ?_, ?_, ?_, ?_⟩
  · omega
  · have haligned := round_up_aligned size
    have hpages := hb.pages
    omega
  · intro p d hd
    rcases hplaced.block_some.1 hd with ⟨rfl, rfl⟩ | hold
    · rw [untouched_length]
      dsimp only
      exact ⟨hpos, by omega, by omega⟩
    · obtain ⟨hlen, hlow, hhigh⟩ := hb.below hold
      exact ⟨hlen, hlow, by omega⟩
  · refine hplaced.shows hb.shows fun i _ => ?_
    exact (hb.blank _ (by dsimp only; omega)).symm
  · intro a ha
    exact hb.blank a (by omega)

theorem munmap (ptr : Nat) : Bumped base next mem (x.free ptr) where
  bounded := hb.bounded
  pages := hb.pages
  below hd := hb.below (Blocks.free_block.1 hd).2
  shows := hb.shows.free
  blank := hb.blank

theorem store (hown : x.Owns addr.toNat 1) (byte : UInt8) :
    Bumped base next (Function.update mem addr.toNat byte) (x.fill addr.toNat 1 byte) where
  bounded := hb.bounded
  pages := hb.pages
  below := by
    intro p d hd
    obtain ⟨d, hd', rfl⟩ := Blocks.fill_block.1 hd
    rw [length_overwrite]
    exact hb.below hd'
  shows := by
    refine hb.shows.fill.congr fun p d hd i hi => ?_
    by_cases h : p + i = addr.toNat
    · rw [h, Function.update_self, if_pos (by omega)]
    · rw [Function.update_of_ne h, if_neg (by omega)]
  blank := by
    intro a ha
    obtain ⟨-, hlt⟩ := hb.inside hown
    rw [Function.update_of_ne (by omega)]
    exact hb.blank a ha

end Bumped

theorem bump_provides (base : ArenaBase) :
    Provides (machine base) (bumpMmap base) BlockSize (fun _ => 0) (fun next mem x => Bumped base next mem x) where
  space := by
    intro next mem x p d hb hd
    obtain ⟨-, -, hhigh⟩ := hb.below hd
    have hbounded := hb.bounded
    have hinside := base.inside
    omega
  mmap_new := by
    intro next mem x size ret hb hsize
    exact ⟨_, _, mem, rfl, hb.mmap_new hsize rfl⟩
  munmap _ _ hb := ⟨_, _, rfl, hb.munmap _⟩
  load := by
    intro next mem x addr hb hown
    exact ⟨_, congrArg (·, mem) (if_pos (hb.inside hown).1), hb.shows.reads hown⟩
  store := by
    intro next mem x addr byte hb hown
    exact ⟨_, if_pos (hb.inside hown).1, hb.store hown byte⟩

/-! ## Whole runs -/

/-- However Wasmtime uses the API, with sizes that a block can have, it gets blocks of its own, which are blank at
first and then hold what it stored last, and its next call is served; as long as it stays inside of them. -/
theorem static_memory_private (base : ArenaBase) {hist : List (Step Hardware ApiCall ApiReply)} {s : Statics Usize}
    {mem : Nat → UInt8}
    (hs : Served (machine base) (apiCall (bumpMmap base)) ⟨0, 0⟩ (fun _ => 0) hist s mem)
    (hlegal : (contract fun _ => 0).Keeps (Believed.Legal · BlockSize) .start (seen hist)) :
    (contract fun _ => 0).Holds .start (seen hist) ∧
      ∀ c, ((contract fun _ => 0).after .start (seen hist)).Legal BlockSize c →
        ∃ s' r mem', (apiCall (bumpMmap base) s c).run (machine base) mem = (.ret (s', r), mem') ∧
          ((contract fun _ => 0).after .start (seen hist)).allows c r :=
  (bump_provides base).meets.served hs ⟨bumped_empty base, rfl⟩ hlegal

/-- A byte that is stored, blanked by a remap, and read again. -/
theorem static_memory_private_remapped :
    let view : List (Event (Client ApiCall ApiReply)) := [⟨.mmap_new 1 3 0, .mapped ⟨0, 0x10000⟩⟩,
      ⟨.store 0x10000 7, .done⟩, ⟨.mmap_remap 0x10000 1 3, .rc 0⟩, ⟨.load 0x10000, .byte 0⟩]
    ∃ (hist : List (Step Hardware ApiCall ApiReply)) (s : Statics Usize) (mem : Nat → UInt8),
      Served (machine lowArena) (apiCall (bumpMmap lowArena)) ⟨0, 0⟩ (fun _ => 0) hist s mem ∧ seen hist = view ∧
      (contract fun _ => 0).Holds .start view ∧
      ∀ c, ((contract fun _ => 0).after .start view).Legal BlockSize c →
        ∃ s' r mem', (apiCall (bumpMmap lowArena) s c).run (machine lowArena) mem = (.ret (s', r), mem') ∧
          ((contract fun _ => 0).after .start view).allows c r := by
  intro view
  obtain ⟨hist, s, mem, hrun, hseen⟩ : ∃ hist s mem, replay (machine lowArena) (apiCall (bumpMmap lowArena))
      [.mmap_new 1 3 0, .store 0x10000 7, .mmap_remap 0x10000 1 3, .load 0x10000] ⟨0, 0⟩ (fun _ => 0) =
      some (hist, s, mem) ∧ seen hist = view := ⟨_, _, _, rfl, rfl⟩
  have hplaced : Placed (.empty UInt8) 1 ⟨0, 0x10000⟩ := ⟨rfl, by decide, by decide, nofun⟩
  have hown : (hplaced.block fun _ => 0).Owns 0x10000 1 :=
    ⟨0x10000, _, hplaced.block_some.2 (.inl ⟨rfl, rfl⟩), by decide, by rw [untouched_length]; decide⟩
  have hlegal : (contract fun _ => 0).Keeps (Believed.Legal · BlockSize) .start (seen hist) := by
    rw [hseen]
    have hsize : BlockSize 1 := by unfold BlockSize InRange; decide
    refine ⟨hsize, ?_⟩
    have hnext : Believed.start.next (fun _ => 0) (.mmap_new 1 3 0) (.mapped ⟨0, 0x10000⟩) =
        { Believed.start with blocks := hplaced.block fun _ => 0 } := Believed.next_placed _ _ hplaced
    change (contract fun _ => 0).Keeps (Believed.Legal · BlockSize)
      (Believed.start.next (fun _ => 0) (.mmap_new 1 3 0) (.mapped ⟨0, 0x10000⟩)) _
    rw [hnext]
    exact ⟨hown, hown.fill, hown.fill.fill, trivial⟩
  have hserved := replay_served _ _ _ _ _ hrun
  obtain ⟨hholds, hnext⟩ := static_memory_private lowArena hserved hlegal
  rw [hseen] at hholds hnext
  exact ⟨hist, s, mem, hserved, hseen, hholds, hnext⟩

end LanternRuntime.Platform.fallback

import LanternRuntime.Platform.Arena
import LanternRuntime.ProgLib.Threads
/-!
# The fallback arena

`backing` of `riscv64-probe/src/platform.rs` where no kernel maps frames: a
bump arena in `.bss`, whose offset is an atomic that callers race for. `alloc`
is a loop around a weak compare-exchange, so it is given place by place.
-/
open ProgLib

namespace LanternRuntime.Platform.fallback

def ARENA_BYTES : Usize := 256 * 1024

/-- `arena_base()`. The arena is `align(4096)`, and an address one past it exists. -/
structure ArenaBase where
  addr : Usize
  aligned : addr.toNat % 4096 = 0
  inside : addr.toNat + ARENA_BYTES.toNat < 2 ^ 64

/-- An arena at 64 KiB. -/
def lowArena : ArenaBase := ⟨0x10000, by decide, by decide⟩

/-! ## `ARENA_NEXT` -/

inductive AtomicCall where
  | load
  | compare_exchange_weak (current new : Usize)
  deriving DecidableEq

def AtomicCall.Ans : AtomicCall → Type
  | .load => Usize
  | .compare_exchange_weak _ _ => Except Usize Usize

abbrev AtomicUsize : Sig := ⟨AtomicCall, AtomicCall.Ans⟩

/-- An exchange may fail although the value is the expected one. It always says what the value was. -/
inductive atomic : Object AtomicUsize Usize
  | load {s : Usize} : atomic .load s s s
  | exchanged {s new : Usize} : atomic (.compare_exchange_weak s new) s (Except.ok s) new
  | failed {s current new : Usize} : atomic (.compare_exchange_weak current new) s (Except.error s) s

/-! ## `backing` -/

/-- The size in whole pages. -/
def round_up (size : Usize) : Usize := (size + 4095) &&& ~~~4095

/-- Where the offset would go. -/
def bump (off size : Usize) : Option Usize := (checked_add off size).filter fun v => v ≤ ARENA_BYTES

/-- Where a call of `alloc` is: before the load, before an exchange, and after one that succeeded. -/
inductive Place where
  | start (size : Usize)
  | trying (size off : Usize)
  | granted (off : Usize)
  deriving DecidableEq

def alloc (base : ArenaBase) : Place → Turn AtomicUsize Place (Option Usize)
  | .start size =>
    let size := round_up size
    .call .load fun off => .trying size off
  | .trying size off =>
    match bump off size with
    | none => .done none
    | some new => .call (.compare_exchange_weak off new) fun
      | .ok _ => .granted off
      | .error cur => .trying size cur
  | .granted off => .done (some (base.addr + off))

/-- `wasmtime_mmap_new` over it, with what its out-pointer held before. -/
def wasmtime_mmap_new (base : ArenaBase) (ret : Usize) (p : Place) : Turn AtomicUsize Place Mapped :=
  (alloc base p).map fun
    | none => ⟨1, ret⟩
    | some p => ⟨0, p⟩

/-! ## Sizes and offsets, as numbers -/

theorem arena_bytes_toNat : ARENA_BYTES.toNat = 262144 := by decide

/-- The mask drops the low twelve bits. -/
theorem mask_toNat (y : Usize) : (y &&& ~~~4095).toNat = y.toNat / 4096 * 4096 := by
  have hlt := y.toNat_lt
  have hmask : (~~~(4095 : Usize)).toNat = (2 ^ 52 - 1) * 2 ^ 12 := by decide
  have hlow : (y &&& ~~~4095).toNat % 2 ^ 12 = 0 := by
    rw [UInt64.toNat_and, Nat.and_mod_two_pow, hmask, Nat.mul_mod_left, Nat.and_zero]
  have hhigh : (y &&& ~~~4095).toNat / 2 ^ 12 = y.toNat / 2 ^ 12 := by
    rw [UInt64.toNat_and, Nat.and_div_two_pow, hmask, Nat.mul_div_cancel _ (by decide), Nat.and_two_pow_sub_one_eq_mod]
    omega
  omega

/-- The addition before it may wrap. -/
theorem round_up_toNat (size : Usize) : (round_up size).toNat = (size.toNat + 4095) % 2 ^ 64 / 4096 * 4096 := by
  rw [round_up, mask_toNat, UInt64.toNat_add]
  rfl

theorem round_up_aligned (size : Usize) : (round_up size).toNat % 4096 = 0 := by
  rw [round_up_toNat, Nat.mul_mod_left]

/-- The size does not wrap when it is rounded up. -/
def InRange (size : Usize) : Prop := size.toNat ≤ 2 ^ 64 - 1 - 4095

theorem le_round_up {size : Usize} (h : InRange size) : size.toNat ≤ (round_up size).toNat := by
  unfold InRange at h
  rw [round_up_toNat]
  omega

/-- The last 4095 sizes wrap to nothing. -/
theorem round_up_wraps {size : Usize} (h : ¬ InRange size) : round_up size = 0 := by
  have hlt := size.toNat_lt
  unfold InRange at h
  apply UInt64.toNat_inj.1
  rw [round_up_toNat, UInt64.toNat_zero]
  omega

theorem bump_eq_some {off size new : Usize} :
    bump off size = some new ↔ off.toNat + size.toNat ≤ ARENA_BYTES.toNat ∧ new.toNat = off.toNat + size.toNat := by
  have hbytes := arena_bytes_toNat
  unfold bump checked_add
  by_cases hlt : off.toNat + size.toNat < 2 ^ 64
  · have hadd : (off + size).toNat = off.toNat + size.toNat := by
      rw [UInt64.toNat_add]
      omega
    simp only [if_pos hlt, Option.filter_eq_some_iff, Option.some.injEq, decide_eq_true_eq, UInt64.le_iff_toNat_le]
    constructor
    · rintro ⟨rfl, hle⟩
      exact ⟨hadd ▸ hle, hadd⟩
    · rintro ⟨hle, hnew⟩
      have heq : off + size = new := UInt64.toNat_inj.1 (hadd.trans hnew.symm)
      exact ⟨heq, hnew ▸ hle⟩
  · simp only [if_neg hlt, Option.filter_none, reduceCtorEq, false_iff]
    omega

theorem bump_eq_none {off size : Usize} : bump off size = none ↔ ARENA_BYTES.toNat < off.toNat + size.toNat := by
  have hbytes := arena_bytes_toNat
  constructor
  · intro h
    by_contra hle
    have hsum : (UInt64.ofNat (off.toNat + size.toNat)).toNat = off.toNat + size.toNat :=
      UInt64.toNat_ofNat_of_lt' (by simp only [UInt64.size]; omega)
    have hsome := bump_eq_some.2 ⟨Nat.le_of_not_lt hle, hsum⟩
    rw [h] at hsome
    cases hsome
  · intro h
    cases hb : bump off size with
    | none => rfl
    | some new => exact absurd (bump_eq_some.1 hb).1 (Nat.not_le_of_lt h)

theorem ArenaBase.add_toNat (base : ArenaBase) {off : Usize} (h : off.toNat ≤ ARENA_BYTES.toNat) :
    (base.addr + off).toNat = base.addr.toNat + off.toNat := by
  have hinside := base.inside
  rw [UInt64.toNat_add]
  omega

/-! ## What one access can do -/

/-- Where an exchange leads. -/
def exchanged (size off : Usize) : Except Usize Usize → Place
  | .ok _ => .granted off
  | .error cur => .trying size cur

theorem alloc_trying {base : ArenaBase} {size off new : Usize} (hb : bump off size = some new) :
    alloc base (.trying size off) = .call (.compare_exchange_weak off new) (exchanged size off) := by
  simp only [alloc, hb]
  congr 1
  funext x
  cases x <;> rfl

/-- A call has come back where there is no room, and where it was granted some. -/
theorem alloc_done {base : ArenaBase} {p : Place} {r : Option Usize} (h : alloc base p = .done r) :
    (∃ size off, p = .trying size off ∧ bump off size = none ∧ r = none) ∨
    (∃ off, p = .granted off ∧ r = some (base.addr + off)) := by
  cases p with
  | start size => cases h
  | trying size off =>
    cases hb : bump off size with
    | none =>
      simp only [alloc, hb] at h
      cases h
      exact .inl ⟨size, off, rfl, hb, rfl⟩
    | some new =>
      rw [alloc_trying hb] at h
      cases h
  | granted off =>
    cases h
    exact .inr ⟨off, rfl, rfl⟩

theorem advance_load (base : ArenaBase) (size s : Usize) :
    Advance (alloc base) atomic (.start size) s ⟨.load, s⟩ (.trying (round_up size) s) s :=
  .call rfl .load

theorem advance_exchange {base : ArenaBase} {size s new : Usize} (hb : bump s size = some new) :
    Advance (alloc base) atomic (.trying size s) s ⟨.compare_exchange_weak s new, Except.ok s⟩ (.granted s) new :=
  .call (alloc_trying hb) .exchanged

theorem advance_fail {base : ArenaBase} {size off new : Usize} (hb : bump off size = some new) (s : Usize) :
    Advance (alloc base) atomic (.trying size off) s ⟨.compare_exchange_weak off new, Except.error s⟩
      (.trying size s) s :=
  .call (alloc_trying hb) .failed

/-- A load, an exchange that succeeds, or one that fails. -/
theorem advance_cases {base : ArenaBase} {p q : Place} {s s' : Usize} {e : Event AtomicUsize}
    (h : Advance (alloc base) atomic p s e q s') :
    (∃ size, p = .start size ∧ e = ⟨.load, s⟩ ∧ q = .trying (round_up size) s ∧ s' = s) ∨
    (∃ size, p = .trying size s ∧ bump s size = some s' ∧ e = ⟨.compare_exchange_weak s s', Except.ok s⟩ ∧
      q = .granted s) ∨
    (∃ size off new, p = .trying size off ∧ bump off size = some new ∧
      e = ⟨.compare_exchange_weak off new, Except.error s⟩ ∧ q = .trying size s ∧ s' = s) := by
  obtain ⟨hp, hobj⟩ := h
  cases p with
  | start size =>
    cases hp
    cases hobj
    exact .inl ⟨size, rfl, rfl, rfl, rfl⟩
  | trying size off =>
    cases hb : bump off size with
    | none =>
      simp only [alloc, hb] at hp
      cases hp
    | some new =>
      rw [alloc_trying hb] at hp
      cases hp
      cases hobj with
      | exchanged => exact .inr (.inl ⟨size, rfl, hb, rfl, rfl⟩)
      | failed => exact .inr (.inr ⟨size, off, new, rfl, hb, rfl, rfl, rfl⟩)
  | granted off => cases hp

end LanternRuntime.Platform.fallback

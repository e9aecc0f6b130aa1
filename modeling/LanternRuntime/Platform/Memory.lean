import LanternRuntime.ProgLib.Blocks
import LanternRuntime.ProgLib.Contract
import LanternRuntime.Platform.Arena
/-!
# The C API, and what it owes Wasmtime

All entry points of `platform.rs` over one of its two `backing`s. Loads and
stores are not calls of it, but what Wasmtime does with the memory in between.

`contract` is what Wasmtime relies on, in its own terms: a pointer, and blocks of
memory that are its own and start out as the memory was at first. A backing that
`Provides` such blocks makes the whole API keep the contract.
-/
open ProgLib

namespace LanternRuntime.Platform

/-! ## Memory accesses -/

inductive HardwareCall where
  | frame (c : FrameCall)
  | load (addr : Usize)
  | store (addr : Usize) (byte : UInt8)
  deriving DecidableEq

/-- An access to an address that is not mapped has no result. -/
def HardwareCall.Ans : HardwareCall → Type
  | .frame _ => Except SysError Unit
  | .load _ => Option UInt8
  | .store .. => Bool

abbrev Hardware : Sig := ⟨HardwareCall, HardwareCall.Ans⟩

/-- The system calls among its calls. -/
def systemCalls : Part Frames Hardware := ⟨.frame, fun _ => id⟩

def load (addr : Usize) : Prog Hardware UInt8 := do
  match (← Prog.ask (E := Hardware) (.load addr) : Option UInt8) with
  | some byte => return byte
  | none => .panic "page fault"

def store (addr : Usize) (byte : UInt8) : Prog Hardware Unit := do
  match (← Prog.ask (E := Hardware) (.store addr byte) : Bool) with
  | true => return ()
  | false => .panic "page fault"

/-- `core::ptr::write_bytes`. -/
def write_bytes (addr : Usize) (byte : UInt8) : Nat → Prog Hardware Unit
  | 0 => return ()
  | n + 1 => do
    store addr byte
    write_bytes (addr + 1) byte n

/-! ## Entry points -/

/-- The `wasmtime_sync_*` functions. -/
inductive SyncCall where
  | lock_free
  | lock_acquire
  | lock_release
  | rwlock_read
  | rwlock_read_release
  | rwlock_write
  | rwlock_write_release
  | rwlock_free
  deriving DecidableEq

/-- What Wasmtime does: the calls of its `sys/custom` API, and accesses to memory. An out-pointer is given
with what it held before. -/
inductive ApiCall where
  | page_size
  | mmap_new (size : Usize) (prot_flags : UInt32) (ret : Usize)
  | mmap_remap (addr size : Usize) (prot_flags : UInt32)
  | munmap (ptr size : Usize)
  | mprotect (ptr size : Usize) (prot_flags : UInt32)
  | memory_image_new (ptr len ret : Usize)
  | memory_image_map_at (image addr len : Usize)
  | memory_image_free (image : Usize)
  | tls_get (slot : Usize)
  | tls_set (slot ptr : Usize)
  | sync (op : SyncCall) (lock : Usize)
  | load (addr : Usize)
  | store (addr : Usize) (byte : UInt8)
  deriving DecidableEq

inductive ApiReply where
  | size (n : Usize)
  | mapped (m : Mapped)
  | rc (rc : Int)
  | ptr (p : Usize)
  | byte (b : UInt8)
  | done
  deriving DecidableEq

def toApi : MmapReply → ApiReply
  | .mapped m => .mapped m
  | .rc code => .rc code

/-- The statics of the module: those of its `backing`, and `TLS`. -/
structure Statics (B : Type) where
  backing : B
  tls : Usize

def wasmtime_page_size : Usize := 4096

def wasmtime_mmap_remap (addr size : Usize) (_prot_flags : UInt32) : Prog Hardware Int := do
  write_bytes addr 0 size.toNat
  return 0

def wasmtime_mprotect (_ptr _size : Usize) (_prot_flags : UInt32) : Int := 0

def wasmtime_memory_image_new (_ptr _len _ret : Usize) : Mapped := ⟨0, 0⟩

def wasmtime_memory_image_map_at (_image _addr _len : Usize) : Int := 1

variable {B : Type}

def wasmtime_tls_get (self : Statics B) (_slot : Usize) : Usize := self.tls

def wasmtime_tls_set (self : Statics B) (_slot ptr : Usize) : Statics B := { self with tls := ptr }

/-- `mmap` are the two entry points that go to the backing. -/
def apiCall (mmap : B → MmapCall → Prog Hardware (B × MmapReply)) (self : Statics B) :
    ApiCall → Prog Hardware (Statics B × ApiReply)
  | .page_size => return (self, .size wasmtime_page_size)
  | .mmap_new size _ ret => do
    let (backing, reply) ← mmap self.backing (.mmap_new size ret)
    return ({ self with backing := backing }, toApi reply)
  | .mmap_remap addr size prot_flags => do
    let rc ← wasmtime_mmap_remap addr size prot_flags
    return (self, .rc rc)
  | .munmap ptr size => do
    let (backing, reply) ← mmap self.backing (.munmap ptr size)
    return ({ self with backing := backing }, toApi reply)
  | .mprotect ptr size prot_flags => return (self, .rc (wasmtime_mprotect ptr size prot_flags))
  | .memory_image_new ptr len ret => return (self, .mapped (wasmtime_memory_image_new ptr len ret))
  | .memory_image_map_at image addr len => return (self, .rc (wasmtime_memory_image_map_at image addr len))
  | .memory_image_free _ => return (self, .done)
  | .tls_get slot => return (self, .ptr (wasmtime_tls_get self slot))
  | .tls_set slot ptr => return (wasmtime_tls_set self slot ptr, .done)
  | .sync _ _ => return (self, .done)
  | .load addr => do
    let byte ← load addr
    return (self, .byte byte)
  | .store addr byte => do
    store addr byte
    return (self, .done)

/-! ## The contract -/

/-- What Wasmtime has of it: its blocks of memory, and the pointer it stored last. -/
structure Believed where
  blocks : Blocks UInt8
  tls : Usize

def Believed.start : Believed := ⟨.empty UInt8, 0⟩

/-- What is in memory that was never written to, where `first` is what was in all of it at first. -/
def untouched (first : Nat → UInt8) (ptr : Nat) (size : Usize) : List UInt8 :=
  (List.range size.toNat).map fun i => first (ptr + i)

@[simp] theorem untouched_length (first : Nat → UInt8) (ptr : Nat) (size : Usize) :
    (untouched first ptr size).length = size.toNat := by simp [untouched]

/-- `size` bytes in whole pages, at an address where there is no block. -/
structure Placed (blocks : Blocks UInt8) (size : Usize) (m : Mapped) : Prop where
  rc : m.rc = 0
  aligned : m.ret.toNat % wasmtime_page_size.toNat = 0
  space : m.ret.toNat + size.toNat ≤ 2 ^ 64
  vacant : blocks.Vacant m.ret.toNat size.toNat

section Placed
variable {blocks : Blocks UInt8} {size : Usize} {m : Mapped} {first : Nat → UInt8} {mem : Nat → UInt8}

theorem Placed.room (h : Placed blocks size m) (first : Nat → UInt8) :
    blocks.Vacant m.ret.toNat (untouched first m.ret.toNat size).length := by
  rw [untouched_length]
  exact h.vacant

/-- With the block that was handed out. -/
def Placed.block (h : Placed blocks size m) (first : Nat → UInt8) : Blocks UInt8 :=
  blocks.new m.ret.toNat (untouched first m.ret.toNat size) (h.room first)

theorem Placed.block_some (h : Placed blocks size m) {q : Nat} {d : List UInt8} : (h.block first).block q = some d ↔
    (q = m.ret.toNat ∧ d = untouched first m.ret.toNat size) ∨ blocks.block q = some d :=
  Blocks.new_block (h := h.room first)

/-- Memory shows it, if nobody wrote to it. -/
theorem Placed.shows (h : Placed blocks size m) (hshows : Shows mem blocks)
    (hmem : ∀ i < size.toNat, first (m.ret.toNat + i) = mem (m.ret.toNat + i)) : Shows mem (h.block first) := by
  refine hshows.new (h.room first) fun i hi => ?_
  rw [untouched_length] at hi
  rw [untouched, List.getElem?_map, List.getElem?_range hi, Option.map_some, hmem i hi]

end Placed

namespace Believed
variable (first : Nat → UInt8) (x : Believed)

def allows (x : Believed) : ApiCall → ApiReply → Prop
  | .page_size, r => r = .size wasmtime_page_size
  | .mmap_new size _ ret, r => ∃ m, r = .mapped m ∧ (Placed x.blocks size m ∨ (m.rc ≠ 0 ∧ m.ret = ret))
  | .mmap_remap .., r | .munmap .., r | .mprotect .., r => r = .rc 0
  | .memory_image_new .., r => r = .mapped ⟨0, 0⟩
  | .memory_image_map_at .., r => r = .rc 1
  | .tls_get _, r => r = .ptr x.tls
  | .load addr, r => ∃ byte, r = .byte byte ∧ x.blocks.Reads addr.toNat byte
  | .memory_image_free _, r | .tls_set .., r | .sync .., r | .store .., r => r = .done

open Classical in
noncomputable def next : ApiCall → ApiReply → Believed
  | .mmap_new size _ _, .mapped m =>
    if h : Placed x.blocks size m then { x with blocks := h.block first } else x
  | .mmap_remap addr size _, _ => { x with blocks := x.blocks.fill addr.toNat size.toNat 0 }
  | .munmap ptr _, _ => { x with blocks := x.blocks.free ptr.toNat }
  | .tls_set _ ptr, _ => { x with tls := ptr }
  | .store addr byte, _ => { x with blocks := x.blocks.fill addr.toNat 1 byte }
  | _, _ => x

theorem next_placed {size ret : Usize} {prot_flags : UInt32} {m : Mapped} (h : Placed x.blocks size m) :
    x.next first (.mmap_new size prot_flags ret) (.mapped m) = { x with blocks := h.block first } := dif_pos h

theorem next_refused {size ret : Usize} {prot_flags : UInt32} {m : Mapped} (h : m.rc ≠ 0) :
    x.next first (.mmap_new size prot_flags ret) (.mapped m) = x := dif_neg fun hm => h hm.rc

/-- What Wasmtime may do: it stays inside of its blocks, and asks for sizes in `Size`. -/
def Legal (x : Believed) (Size : Usize → Prop) : ApiCall → Prop
  | .mmap_new size _ _ => Size size
  | .mmap_remap addr size _ => x.blocks.Owns addr.toNat size.toNat
  | .load addr | .store addr _ => x.blocks.Owns addr.toNat 1
  | _ => True

end Believed

noncomputable def contract (first : Nat → UInt8) : Rely (Client ApiCall ApiReply) Believed where
  allows := Believed.allows
  next := Believed.next first

/-! ## Backings -/

/-- The backing gives out blocks, and they can be used: `V` relates its state, and that of the outside, to them. -/
structure Provides {ω : Type} (hw : Handler Hardware ω) (mmap : B → MmapCall → Prog Hardware (B × MmapReply))
    (Size : Usize → Prop) (first : Nat → UInt8) (V : B → ω → Blocks UInt8 → Prop) : Prop where
  space : ∀ {b w x p d}, V b w x → x.block p = some d → p + d.length ≤ 2 ^ 64
  mmap_new : ∀ {b w x size} ret, V b w x → Size size → ∃ b' m w',
    (mmap b (.mmap_new size ret)).run hw w = (.ret (b', .mapped m), w') ∧
    ((∃ hm : Placed x size m, V b' w' (hm.block first)) ∨ (m = ⟨1, ret⟩ ∧ V b' w' x))
  munmap : ∀ {b w x} ptr size, V b w x → ∃ b' w',
    (mmap b (.munmap ptr size)).run hw w = (.ret (b', .rc 0), w') ∧ V b' w' (x.free ptr.toNat)
  load : ∀ {b w x} {addr : Usize}, V b w x → x.Owns addr.toNat 1 → ∃ byte,
    hw (.load addr) w = (some byte, w) ∧ x.Reads addr.toNat byte
  store : ∀ {b w x} {addr : Usize} byte, V b w x → x.Owns addr.toNat 1 → ∃ w',
    hw (.store addr byte) w = (true, w') ∧ V b w' (x.fill addr.toNat 1 byte)

section Provides
variable {ω : Type} {hw : Handler Hardware ω} {mmap : B → MmapCall → Prog Hardware (B × MmapReply)}
  {Size : Usize → Prop} {first : Nat → UInt8} {V : B → ω → Blocks UInt8 → Prop} (hp : Provides hw mmap Size first V)
  {b : B} {w : ω} {x : Blocks UInt8} {addr : Usize}
include hp

theorem Provides.load_run (hv : V b w x) (hown : x.Owns addr.toNat 1) : ∃ byte,
    (Platform.load addr).run hw w = (.ret byte, w) ∧ x.Reads addr.toNat byte := by
  obtain ⟨byte, hload, hreads⟩ := hp.load hv hown
  have hask : (Prog.ask (E := Hardware) (.load addr)).run hw w = (.ret (some byte), w) :=
    congrArg (fun r => (Outcome.ret r.1, r.2)) hload
  exact ⟨byte, Prog.run_bind_ret hw w hask, hreads⟩

theorem Provides.store_run (hv : V b w x) (hown : x.Owns addr.toNat 1) (byte : UInt8) : ∃ w',
    (Platform.store addr byte).run hw w = (.ret (), w') ∧ V b w' (x.fill addr.toNat 1 byte) := by
  obtain ⟨w', hstore, hv'⟩ := hp.store byte hv hown
  have hask : (Prog.ask (E := Hardware) (.store addr byte)).run hw w = (.ret true, w') :=
    congrArg (fun r => (Outcome.ret r.1, r.2)) hstore
  exact ⟨w', Prog.run_bind_ret hw w hask, hv'⟩

/-- Byte by byte, and never outside of the block. -/
theorem Provides.write_bytes_run (n : Nat) (hv : V b w x) (hown : x.Owns addr.toNat n) (byte : UInt8) : ∃ w',
    (write_bytes addr byte n).run hw w = (.ret (), w') ∧ V b w' (x.fill addr.toNat n byte) := by
  induction n generalizing addr w x with
  | zero =>
    rw [Blocks.fill_zero]
    exact ⟨w, rfl, hv⟩
  | succ n ih =>
    obtain ⟨w₁, hrun₁, hv₁⟩ := hp.store_run hv (hown.mono (Nat.le_refl _) (by omega)) byte
    have hstep : (write_bytes addr byte (n + 1)).run hw w = (write_bytes (addr + 1) byte n).run hw w₁ :=
      Prog.run_bind_ret hw w hrun₁
    rw [hstep, ← Blocks.fill_succ]
    cases n with
    | zero =>
      rw [Blocks.fill_zero]
      exact ⟨w₁, rfl, hv₁⟩
    | succ n =>
      -- There is a byte behind this one, so its address does not wrap.
      have hnext : (addr + 1).toNat = addr.toNat + 1 := by
        obtain ⟨p, d, hd, -, hle⟩ := hown
        have hspace := hp.space hv hd
        rw [UInt64.toNat_add]
        exact Nat.mod_eq_of_lt (by simp; omega)
      rw [← hnext]
      refine ih hv₁ (Blocks.Owns.fill ?_)
      rw [hnext]
      exact hown.mono (by omega) (by omega)

/-- Then every entry point, and every access, is as the contract has it. -/
theorem Provides.meets : Meets (contract first) (Believed.Legal · Size) hw (apiCall mmap)
    (fun s w x => V s.backing w x.blocks ∧ s.tls = x.tls) := by
  rintro ⟨b, tls⟩ w ⟨x, _⟩ c ⟨hv, rfl⟩ hlegal
  cases c with
  | mmap_new size prot_flags ret =>
    obtain ⟨b', m, w', hrun, hm⟩ := hp.mmap_new ret hv hlegal
    refine ⟨⟨b', tls⟩, .mapped m, w', Prog.run_bind_ret hw w hrun, ?_⟩
    rcases hm with ⟨hm, hv'⟩ | ⟨rfl, hv'⟩
    · refine ⟨⟨m, rfl, .inl hm⟩, ?_⟩
      change V b' w' (Believed.next _ _ _ _).blocks ∧ tls = (Believed.next _ _ _ _).tls
      rw [Believed.next_placed _ _ hm]
      exact ⟨hv', rfl⟩
    · have hrc : (1 : Int) ≠ 0 := by decide
      refine ⟨⟨_, rfl, .inr ⟨hrc, rfl⟩⟩, ?_⟩
      change V b' w' (Believed.next _ _ _ _).blocks ∧ tls = (Believed.next _ _ _ _).tls
      rw [Believed.next_refused _ _ hrc]
      exact ⟨hv', rfl⟩
  | mmap_remap addr size prot_flags =>
    obtain ⟨w', hrun, hv'⟩ := hp.write_bytes_run size.toNat hv hlegal 0
    refine ⟨⟨b, tls⟩, .rc 0, w', ?_, rfl, hv', rfl⟩
    simp only [apiCall, wasmtime_mmap_remap, Prog.bind_assoc]
    exact Prog.run_bind_ret hw w hrun
  | munmap ptr size =>
    obtain ⟨b', w', hrun, hv'⟩ := hp.munmap ptr size hv
    exact ⟨⟨b', tls⟩, .rc 0, w', Prog.run_bind_ret hw w hrun, rfl, hv', rfl⟩
  | load addr =>
    obtain ⟨byte, hrun, hreads⟩ := hp.load_run hv hlegal
    exact ⟨⟨b, tls⟩, .byte byte, w, Prog.run_bind_ret hw w hrun, ⟨byte, rfl, hreads⟩, hv, rfl⟩
  | store addr byte =>
    obtain ⟨w', hrun, hv'⟩ := hp.store_run hv hlegal byte
    exact ⟨⟨b, tls⟩, .done, w', Prog.run_bind_ret hw w hrun, rfl, hv', rfl⟩
  | _ => exact ⟨_, _, w, rfl, rfl, hv, rfl⟩

end Provides

end LanternRuntime.Platform

import Mathlib.Algebra.Group.Nat.Defs
import LanternRuntime.ProgLib.Session
/-!
# The frame arena

`backing` and the two entry points over it, from `src/platform.rs`: a bounded
pool of megapage frames that `wasmtime_mmap_new` maps into this program and
`wasmtime_munmap` unmaps again. `riscv64-probe/src/platform.rs` has the same code
with another `REGIONS`, which is a parameter here. `usize` is 64 bits wide, and
its arithmetic wraps.

The statics are the state `Arena`, and the kernel is the outside `Frames`.
-/
open ProgLib

namespace LanternRuntime.Platform

abbrev Usize := UInt64

/-! ## System calls -/

structure MapPerms where
  read : Bool
  write : Bool
  user : Bool
  deriving DecidableEq

namespace MapPerms

def READ : MapPerms := ⟨true, false, false⟩
def WRITE : MapPerms := ⟨false, true, false⟩
def USER : MapPerms := ⟨false, false, true⟩

def union (a b : MapPerms) : MapPerms := ⟨a.read || b.read, a.write || b.write, a.user || b.user⟩

end MapPerms

/-- An error code of the kernel. -/
abbrev SysError := Nat

inductive FrameCall where
  | map (frame vspace vaddr : Usize) (perms : MapPerms)
  | unmap (frame vspace : Usize)
  deriving DecidableEq

/-- `lantern_abi::sys::frame`. -/
abbrev Frames : Sig := ⟨FrameCall, fun _ => Except SysError Unit⟩

namespace frame_sys

def map (frame vspace vaddr : Usize) (perms : MapPerms) : Prog Frames (Except SysError Unit) :=
  Prog.ask (E := Frames) (.map frame vspace vaddr perms)

def unmap (frame vspace : Usize) : Prog Frames (Except SysError Unit) :=
  Prog.ask (E := Frames) (.unmap frame vspace)

end frame_sys

/-! ## `usize` -/

/-- `usize::div_ceil`. -/
def div_ceil (a b : Usize) : Usize := if a % b > 0 then a / b + 1 else a / b

def checked_add (a b : Usize) : Option Usize := if a.toNat + b.toNat < 2 ^ 64 then some (a + b) else none

/-- `for i in a..b { body(i) }`. -/
def for_range (a b : Usize) (body : Usize → Prog Frames Unit) : Prog Frames Unit :=
  go (b.toNat - a.toNat) a
where
  go : Nat → Usize → Prog Frames Unit
    | 0, _ => return ()
    | n + 1, i => do
      body i
      go n (i + 1)

/-! ## `backing` -/

namespace backing

def ARENA_VADDR : Usize := 0x88200000
def MEGAPAGE_BYTES : Usize := 2 * 1024 * 1024
def ARENA_FRAME_CPTR_BASE : Usize := 7
def SELF_VSPACE_CPTR : Usize := 6

/-- `ALLOC_VADDR`, `ALLOC_COUNT` and `NEXT_REGION`. -/
structure Arena (REGIONS : Nat) where
  vaddrs : Vector Usize REGIONS
  counts : Vector Usize REGIONS
  next_region : Usize
  deriving DecidableEq

variable {REGIONS : Nat}

def Arena.empty (REGIONS : Nat) : Arena REGIONS := ⟨.replicate REGIONS 0, .replicate REGIONS 0, 0⟩

/-- `vaddrs[slot]` and `counts[slot]`. -/
def Arena.alloc_vaddr (self : Arena REGIONS) (slot : Fin REGIONS) : Usize := self.vaddrs[slot]
def Arena.alloc_count (self : Arena REGIONS) (slot : Fin REGIONS) : Usize := self.counts[slot]

/-- Write both. -/
def Arena.set_slot (self : Arena REGIONS) (slot : Fin REGIONS) (vaddr count : Usize) : Arena REGIONS :=
  { self with vaddrs := self.vaddrs.set slot vaddr, counts := self.counts.set slot count }

section Slots
variable (a : Arena REGIONS) (i j : Fin REGIONS) (v n : Usize)

@[simp] theorem alloc_count_empty : (Arena.empty REGIONS).alloc_count i = 0 := by
  simp [Arena.alloc_count, Arena.empty]

@[simp] theorem alloc_count_set : (a.set_slot i v n).alloc_count j = if j = i then n else a.alloc_count j := by
  simp [Arena.alloc_count, Arena.set_slot, Vector.getElem_set, Fin.ext_iff, eq_comm]

@[simp] theorem alloc_vaddr_set : (a.set_slot i v n).alloc_vaddr j = if j = i then v else a.alloc_vaddr j := by
  simp [Arena.alloc_vaddr, Arena.set_slot, Vector.getElem_set, Fin.ext_iff, eq_comm]

end Slots

def vaddr_of (region : Usize) : Usize := ARENA_VADDR + region * MEGAPAGE_BYTES

/-- Map one region, or panic. -/
def map_region (perms : MapPerms) (region : Usize) : Prog Frames Unit := do
  let frame_cptr := ARENA_FRAME_CPTR_BASE + region
  match ← frame_sys.map frame_cptr SELF_VSPACE_CPTR (vaddr_of region) perms with
  | .ok () => return ()
  | .error _ => .panic "a granted arena Frame must map into this program's own VSpace"

/-- Whatever comes of it. -/
def unmap_region (region : Usize) : Prog Frames Unit := do
  let frame_cptr := ARENA_FRAME_CPTR_BASE + region
  let _ ← frame_sys.unmap frame_cptr SELF_VSPACE_CPTR
  return ()

/-- The regions that `size` bytes take. -/
def regions_for (size : Usize) : Usize := max (div_ceil size MEGAPAGE_BYTES) 1

def alloc (self : Arena REGIONS) (size : Usize) : Prog Frames (Arena REGIONS × Option Usize) :=
  let count := regions_for size
  let start := self.next_region
  match checked_add start count with
  | none => return (self, none)
  | some «end» =>
    if «end».toNat > REGIONS then return (self, none)
    else do
      let self := { self with next_region := «end» }
      let perms := (MapPerms.READ.union .WRITE).union .USER
      for_range start «end» (map_region perms)
      let vaddr_base := vaddr_of start
      match (List.finRange REGIONS).find? fun i => self.alloc_count i = 0 with
      | none => return (self, none)
      | some slot =>
        return (self.set_slot slot vaddr_base count, some vaddr_base)

def dealloc (self : Arena REGIONS) (ptr : Usize) : Prog Frames (Arena REGIONS) :=
  match (List.finRange REGIONS).find? fun i => self.alloc_count i ≠ 0 ∧ self.alloc_vaddr i = ptr with
  | none => return self
  | some slot => do
    let count := self.alloc_count slot
    let start := (ptr - ARENA_VADDR) / MEGAPAGE_BYTES
    for_range start (start + count) unmap_region
    return self.set_slot slot 0 0

end backing

/-! ## Entry points -/

open backing

/-- A `c_int`, and what the call left in its out-pointer. -/
structure Mapped where
  rc : Int
  ret : Usize
  deriving DecidableEq

def wasmtime_mmap_new {REGIONS : Nat} (self : Arena REGIONS) (size : Usize) (ret : Usize) :
    Prog Frames (Arena REGIONS × Mapped) := do
  match ← alloc self size with
  | (self, none) => return (self, ⟨1, ret⟩)
  | (self, some p) => return (self, ⟨0, p⟩)

def wasmtime_munmap {REGIONS : Nat} (self : Arena REGIONS) (ptr _size : Usize) :
    Prog Frames (Arena REGIONS × Int) := do
  let self ← dealloc self ptr
  return (self, 0)

/-- A call that Wasmtime makes. `ret` is what its out-pointer held before. -/
inductive MmapCall where
  | mmap_new (size ret : Usize)
  | munmap (ptr size : Usize)
  deriving DecidableEq

inductive MmapReply where
  | mapped (m : Mapped)
  | rc (rc : Int)
  deriving DecidableEq

def mmapCall {REGIONS : Nat} (self : Arena REGIONS) : MmapCall → Prog Frames (Arena REGIONS × MmapReply)
  | .mmap_new size ret => do
    let (self, m) ← wasmtime_mmap_new self size ret
    return (self, .mapped m)
  | .munmap ptr size => do
    let (self, rc) ← wasmtime_munmap self ptr size
    return (self, .rc rc)

end LanternRuntime.Platform

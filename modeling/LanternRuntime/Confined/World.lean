import LanternRuntime.Host.Ipc
/-!
# What a confined runtime calls

The outside of `load_verified_component` and of `confined-runtime`: the kernel,
the launch binder, the service behind the granted endpoint, the crates that
decode and verify a package, Wasmtime, and the guest. None of it is part of this
repository. Every one of them is a call of `World`, answered as it likes.

Capability slots, addresses and details are numbers. Slices of the mapped
package are the bytes they hold.
-/
open ProgLib

namespace LanternRuntime.Confined
open Host

def PUBLIC_KEY_LEN : Nat := 32

abbrev PublicKey := Buf PUBLIC_KEY_LEN
abbrev Signature := Buf SIGNATURE_LEN

/-- An error code of the kernel. -/
abbrev SysError := Nat

/-- What this code uses of `lantern_abi`. -/
class Abi where
  /-- `lantern_abi::frame::status`. -/
  status_OK : UInt16
  status_ACCESS : UInt16
  FLAG_MORE : UInt16
  /-- `lantern_abi::grant`. -/
  INTERFACE_KEYSTORE : Nat
  INTERFACE_FILESYSTEM : Nat

/-! ## Packages and plans -/

/-- `lantern_sdk::package::PackageRef`. -/
structure PackageRef where
  manifest_bytes : Bytes
  cwasm_bytes : Bytes
  signature : Signature
  deriving DecidableEq

/-- What a manifest asks of one role. -/
structure ResourceRequest where
  role : String
  deriving DecidableEq

/-- `lantern_sdk::GrantPlan`. Of a clock request only its presence is read. -/
structure GrantPlan where
  keystore : List ResourceRequest
  filesystem : List ResourceRequest
  monotonic_clock : Option Unit
  deriving DecidableEq

/-! ## Wasmtime -/

abbrev WasmError := Nat

/-- A deserialized component. -/
structure Component where
  id : Nat
  deriving DecidableEq

/-- The interfaces `host.wit` declares. -/
inductive Interface where
  | keystore
  | filesystem
  | monotonic_clock
  deriving DecidableEq

/-- What makes the guest run: it is instantiated, an export is called, a host call it made comes
back, or it goes on after work of its own. -/
inductive GuestInput where
  | instantiate (component : Component)
  | call (name : String)
  | resume (reply : GuestReply)
  | proceed
  deriving DecidableEq

/-- What it does next: work of its own that burns a unit of fuel, a host call, an end, or a trap. -/
inductive GuestMove where
  | work
  | host (c : GuestCall)
  | done (report : String)
  | trap
  deriving DecidableEq

/-! ## The calls -/

structure RequestHeader where
  op : UInt16
  flags : UInt16
  arg_len : Nat
  offset : Nat
  deriving DecidableEq

inductive WorldCall where
  | signing_verify (public_key : PublicKey) (content : Bytes) (signature : Signature)
  | mapped_package (len : Nat)
  | decode_package_ref (bytes : Bytes)
  | package_verify (package : PackageRef) (key : PublicKey)
  /-- `parse_bytes`, and `plan` of what it returns. -/
  | parse_bytes (manifest : Bytes)
  | bind (endpoint dest interface slot : Nat)
  | request_grant (endpoint dest badge rights : Nat)
  | list (endpoint index : Nat)
  | revoke (endpoint index : Nat)
  | channel (endpoint : Nat) (op : UInt16) (request reply : Bytes)
  | write_frame (header : RequestHeader)
  | call_with_label (endpoint : Nat) (label : UInt32) (args : List Nat)
  | signal (notification : Nat)
  | wait (notification : Nat)
  | signal_with (notification stage detail : Nat)
  | init_heap (base len : Nat)
  | report_panics_via (notification : Nat)
  | heap_stats
  | now_ns (f : FnPtr)
  | deserialize (cwasm : Bytes)
  | add_to_linker (interface : Interface)
  | define_unknown_imports_as_traps (component : Component)
  | set_fuel (fuel : Nat)
  | get_typed_func (name : String)
  | guest (input : GuestInput)
  deriving DecidableEq

/-- A `Bool` is the `is_ok` of a result whose value is not looked at. -/
def WorldCall.Ans : WorldCall → Type
  | .signing_verify .. | .package_verify .. => Bool
  | .mapped_package len => Buf len
  | .decode_package_ref _ => Option PackageRef
  | .parse_bytes _ => Option GrantPlan
  | .bind .. => Except SysError Bool
  | .request_grant .. => Except SysError (UInt16 × Nat)
  | .list .. => Except SysError (Option Nat)
  | .revoke .. => Except SysError UInt16
  | .channel _ _ _ reply => Buf reply.length × Except ChannelError (UInt16 × Nat)
  | .call_with_label .. => Except SysError UInt32
  | .signal _ | .wait _ => Except SysError Unit
  | .write_frame _ | .signal_with .. | .init_heap .. | .report_panics_via _ => Unit
  | .heap_stats => Nat
  | .now_ns _ => UInt64
  | .deserialize _ => Except WasmError Component
  | .add_to_linker _ | .define_unknown_imports_as_traps _ | .set_fuel _ | .get_typed_func _ => Bool
  | .guest _ => GuestMove

abbrev World : Sig := ⟨WorldCall, WorldCall.Ans⟩

/-- One call of the outside. -/
def ask (c : WorldCall) : Prog World c.Ans := Prog.ask (E := World) c

instance : Clocked World where
  callFn f := ask (.now_ns f)

/-- `Channel::new(endpoint, frame)`. -/
def channelTo (endpoint : Nat) : Channel World where
  call op request reply := ask (.channel endpoint op request reply)

end LanternRuntime.Confined

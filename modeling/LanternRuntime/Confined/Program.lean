import Mathlib.Data.List.Infix
import LanternRuntime.Confined.Loading
/-!
# `lantern-confined-runtime`

The program of `confined-runtime/src/lib.rs` and `main.rs`, in their order: verify
the mapped package, read its plan, ask the binder for the one interface it
declares, and run the guest's `probe` against what came back.
-/
open ProgLib

namespace LanternRuntime.Confined
open Host

def ENDPOINT_CPTR : Nat := 1
def DEST_CPTR : Nat := 2
def SUCCESS_CPTR : Nat := 3
def FAILURE_CPTR : Nat := 4
def PROBE_CPTR : Nat := 5
def REVOKE_REQUEST_CPTR : Nat := 10
def REVOKE_DONE_CPTR : Nat := 11
def HEAP_BASE : Nat := 0x86200000
def HEAP_LEN : Nat := 0x200000
def PACKAGE_MAX_LEN : Nat := 0x200000

def TRUSTED_PUBLISHERS : List PublicKey := [
  ⟨[0x92, 0x73, 0x08, 0xf5, 0x3d, 0x67, 0x65, 0x50, 0x3d, 0x2b, 0x64, 0xc1, 0x03, 0xab, 0x5a, 0xa4,
    0x72, 0x06, 0xab, 0x39, 0x50, 0x2c, 0xfe, 0x8f, 0x98, 0x44, 0x2f, 0xdb, 0x54, 0x31, 0x00, 0xb7], rfl⟩,
  ⟨[0x62, 0xa6, 0x11, 0xb4, 0x72, 0xd8, 0x9b, 0x0e, 0x5f, 0xc9, 0x3c, 0x06, 0x9b, 0x9f, 0x70, 0x0b,
    0x4c, 0x55, 0x2d, 0x55, 0xbc, 0x0e, 0x87, 0xb5, 0x60, 0x08, 0xef, 0x17, 0xb6, 0xb2, 0xbe, 0xbe], rfl⟩]

inductive Stage where
  | Done | Grant | Attenuation | Deserialize | Link | Instantiate | Lookup | Call | Verdict | Package | Manifest
  | Revocation | Control
  deriving DecidableEq

/-- `stage as usize`. -/
def Stage.code : Stage → Nat
  | .Done => 0
  | .Grant => 1
  | .Attenuation => 2
  | .Deserialize => 3
  | .Link => 4
  | .Instantiate => 5
  | .Lookup => 6
  | .Call => 7
  | .Verdict => 8
  | .Package => 9
  | .Manifest => 10
  | .Revocation => 11
  | .Control => 12

structure ProbeChecks where
  required : List String
  open_op : UInt16
  refused : String

abbrev StageResult := ExceptT (Stage × Nat) (Prog World)

/-- `if !condition { return Err(e) }` -/
def require (condition : Bool) (e : Stage × Nat) : StageResult Unit :=
  if condition then return () else throw e

/-! ## Text -/

/-- `s.starts_with(prefix)`. -/
def starts_with (s p : String) : Bool := p.toList.isPrefixOf s.toList

/-- `s.contains(marker)`. -/
def contains (s marker : String) : Bool := decide (marker.toList <:+: s.toList)

/-! ## The package -/

/-- `list.iter().any(p)`. -/
def any {α : Type} (p : α → Prog World Bool) : List α → Prog World Bool
  | [] => return false
  | a :: as => do if ← p a then return true else any p as

/-- Some trusted publisher's key verifies the package. -/
def any_trusted (package : PackageRef) : Prog World Bool :=
  any (fun key => ask (.package_verify package key)) TRUSTED_PUBLISHERS

/-- A package whose signature verified; only `verify_package` makes one. -/
structure VerifiedPackage where
  manifest_bytes : Bytes
  cwasm_bytes : Bytes
  deriving DecidableEq

def VerifiedPackage.plan (self : VerifiedPackage) : StageResult GrantPlan := do
  match (← ask (.parse_bytes self.manifest_bytes) : Option GrantPlan) with
  | some plan => return plan
  | none => throw (.Manifest, 1)

/-- Flip a bit of the last byte, if there is one. -/
def tamper (cwasm : Bytes) : Bytes := cwasm.dropLast ++ (cwasm.getLast?.map (· ^^^ 1)).toList

def verify_package (package_len : Nat) : StageResult VerifiedPackage := do
  require (package_len ≠ 0 ∧ package_len ≤ PACKAGE_MAX_LEN) (.Package, 1)
  let bytes : Buf package_len ← ask (.mapped_package package_len)
  match (← ask (.decode_package_ref bytes) : Option PackageRef) with
  | none => throw (.Package, 2)
  | some package =>
    let forged := { package with cwasm_bytes := tamper package.cwasm_bytes }
    require (!(← any_trusted forged)) (.Package, 3)
    require (← any_trusted package) (.Package, 4)
    return ⟨package.manifest_bytes, package.cwasm_bytes⟩

/-! ## The grant -/

section Program
variable [Crates] [Abi]

/-- Ask the binder for slot 0 of `interface`, and check that it refuses what it must. -/
def request_grant (interface : Nat) : StageResult Bool := do
  let granted ← orElse (ask (.bind ENDPOINT_CPTR DEST_CPTR interface 0)) (.Grant, 1)
  if !granted then return false
  else do
    let again ← orElse (ask (.bind ENDPOINT_CPTR PROBE_CPTR interface 0)) (.Grant, 1)
    require (!again) (.Grant, 2)
    let answer : Except SysError (UInt16 × Nat) ← ask (.request_grant DEST_CPTR PROBE_CPTR 0 0xf)
    require (match answer with | .ok (status, _) => status = Abi.status_ACCESS | .error _ => false) (.Grant, 3)
    let entry : Except SysError (Option Nat) ← ask (.list ENDPOINT_CPTR 0)
    require (match entry with | .ok none => true | _ => false) (.Grant, 4)
    let revoked : Except SysError UInt16 ← ask (.revoke ENDPOINT_CPTR 0)
    require (match revoked with | .ok status => status ≠ Abi.status_OK | .error _ => true) (.Grant, 5)
    return true

/-! ## The probe -/

/-- One request chunk with no payload. -/
def send_empty_chunk (op flags : UInt16) : StageResult UInt16 := do
  let () ← ask (.write_frame ⟨op, flags, 0, 0⟩)
  let label ← orElse (ask (.call_with_label DEST_CPTR op.toUInt32 [0, 0, 0])) (.Revocation, 1)
  return label.toUInt16

/-- Leave a request open, have the grant revoked, and end the request: it must come back `ACCESS`. -/
def revoke_during_open_request (op : UInt16) : StageResult Unit := do
  let status ← send_empty_chunk op Abi.FLAG_MORE
  require (status = Abi.status_OK) (.Revocation, 1)
  orElse (ask (.signal REVOKE_REQUEST_CPTR)) (.Revocation, 2)
  orElse (ask (.wait REVOKE_DONE_CPTR)) (.Revocation, 2)
  let status ← send_empty_chunk op 0
  require (status = Abi.status_ACCESS) (.Revocation, 0x100 ||| status.toNat)

/-- The report starts `ok: ` and has every marker; the detail counts to the first one missing. -/
def check_report (report : String) (required : List String) : Except (Stage × Nat) Unit :=
  if !starts_with report "ok: " then .error (.Verdict, 0)
  else match required.findIdx? fun marker => !contains report marker with
    | some i => .error (.Verdict, i + 1)
    | none => .ok ()

variable {T : ResourceTable}

def run_probe (package : VerifiedPackage) (manifest : GrantManifest) (state : RuntimeState T World)
    (checks : ProbeChecks) : StageResult Unit := do
  let component ← orElse (deserialize_trusted_component package.cwasm_bytes).run (.Deserialize, 0)
  let linker ← orElse (build_linker manifest).run (.Link, 0)
  orFail (ask (.define_unknown_imports_as_traps component)) (.Link, 1)
  let store : Store T := ⟨state, 0⟩
  orFail (ask (.set_fuel DEFAULT_FUEL)) (.Instantiate, 0)
  let store := { store with fuel := DEFAULT_FUEL }
  let (store, _) ← store.enter linker (.instantiate component) (.Instantiate, 1)
  orFail (ask (.get_typed_func "probe")) (.Lookup, 0)
  let (store, report) ← store.enter linker (.call "probe") (.Call, 0)
  check_report report checks.required
  revoke_during_open_request checks.open_op
  let (_, report) ← store.enter linker (.call "probe") (.Call, 1)
  require (starts_with report "error: " && contains report checks.refused) (.Revocation, 3)

/-! ## The two wirings -/

/-- The one grant backs slot 0; later roles keep their index and read `none`. -/
def slots {α : Type} (declared : Nat) (granted : Bool) (grant : α) : List (Option α) :=
  (List.range declared).map fun slot => if granted && slot == 0 then some grant else none

/-- If there is a grant, `keystore.encrypt`, called once by the program itself: a grant to sign must
refuse it. -/
def check_attenuation (granted : Bool) (keystore : KeystoreService World) (key : KeyId) : StageResult Unit :=
  if granted then do
    let buffer := "not granted".toList.map Char.toUInt8
    match (← keystore.encrypt 0 key (zeros NONCE_LEN) [] buffer).2 with
    | .error (.RemoteDenied status) => require (status = Crates.crypto_ACCESS) (.Attenuation, status.toNat)
    | .error _ => throw (.Attenuation, 0x100)
    | .ok _ => throw (.Attenuation, 0x200)
  else return ()

def keystore_grants (requests : List ResourceRequest) (granted : Bool) : GrantManifest :=
  { GrantManifest.nothing with
    keystore_keys := slots requests.length granted (.keystore_key 0 (.from_raw 0)) }

def keystore_checks : ProbeChecks where
  required := ["keystore.open(1)=none"]
  open_op := Crates.OP_SIGN
  refused := "keystore denied"

variable (T) in
def host_keystore (package : VerifiedPackage) (requests : List ResourceRequest) : StageResult Unit := do
  let granted ← request_grant Abi.INTERFACE_KEYSTORE
  let keystore := IpcKeystore.service (channelTo DEST_CPTR)
  check_attenuation granted keystore (.from_raw 0)
  let state : RuntimeState T World := (RuntimeState.new (keystore_grants requests granted)).with_keystore keystore
  run_probe package (keystore_grants requests granted) state keystore_checks

def filesystem_grants (requests : List ResourceRequest) (granted : Bool) : GrantManifest :=
  { GrantManifest.nothing with
    filesystem_files := slots requests.length granted (.filesystem_file 0 (.from_raw 0)) }

def filesystem_checks : ProbeChecks where
  required := ["oversized write=invalid", "content intact", "filesystem.open(1)=none"]
  open_op := Crates.OP_READ
  refused := "\"access\""

variable (T) in
def host_filesystem (package : VerifiedPackage) (requests : List ResourceRequest) : StageResult Unit := do
  let granted ← request_grant Abi.INTERFACE_FILESYSTEM
  let filesystem := IpcFilesystem.service (channelTo DEST_CPTR)
  let state : RuntimeState T World := (RuntimeState.new (filesystem_grants requests granted)).with_filesystem filesystem
  run_probe package (filesystem_grants requests granted) state filesystem_checks

variable (T) in
/-- What `host_the_guest` does with a plan. -/
def host_plan (package : VerifiedPackage) (plan : GrantPlan) : StageResult Unit := do
  require plan.monotonic_clock.isNone (.Manifest, 4)
  match plan.keystore, plan.filesystem with
  | [], [] => throw (.Manifest, 2)
  | keys, [] => host_keystore T package keys
  | [], files => host_filesystem T package files
  | _, _ => throw (.Manifest, 3)

variable (T) in
def host_the_guest (package_len : Nat) : StageResult Unit := do
  let package ← verify_package package_len
  let plan ← package.plan
  host_plan T package plan

end Program

/-- The heap, then `host`, then one signal with its outcome. -/
def run_and_report (arg0 : Nat) (host : Nat → StageResult Unit) : Prog World Unit := do
  (ask (.init_heap HEAP_BASE HEAP_LEN) : Prog World Unit)
  (ask (.report_panics_via FAILURE_CPTR) : Prog World Unit)
  let result ← (host arg0).run
  let (cptr, stage, detail) ← (match result with
    | .ok () => do
      let top : Nat ← ask .heap_stats
      return (SUCCESS_CPTR, Stage.Done, top - HEAP_BASE)
    | .error (stage, detail) => pure (FAILURE_CPTR, stage, detail) : Prog World (Nat × Stage × Nat))
  (ask (.signal_with cptr stage.code detail) : Prog World Unit)

end LanternRuntime.Confined

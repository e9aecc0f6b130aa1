import LanternRuntime.Confined.Program
import LanternRuntime.Host.Wire
/-!
# A world for the keystore guest

`keystoreWorld` answers like the runtime demo of the keystore guest: its package
is genuine and asks for two roles, the binder grants the first, and the service
signs until the grant is revoked. Its state says whether it has been.
-/
open ProgLib

namespace LanternRuntime.Confined
open Host

@[reducible] def abiNumbers : Abi where
  status_OK := 0
  status_ACCESS := 1
  FLAG_MORE := 1
  INTERFACE_KEYSTORE := 0
  INTERFACE_FILESYSTEM := 1

def demoPackage : PackageRef := ⟨[0x6b], [0x77, 0x61], zeros SIGNATURE_LEN⟩

def demoPlan : GrantPlan := ⟨[⟨"signing"⟩, ⟨"spare"⟩], [], none⟩

/-- A guest that opens slot 0, signs, opens slot 1 and reports. -/
def demoGuest : GuestInput → GuestMove
  | .instantiate _ => .done ""
  | .call _ => .host (.keystoreOpen 0)
  | .resume (.opened (some handle)) => .host (.sign handle ⟨[], by decide⟩)
  | .resume (.bytes (.ok _)) => .host (.keystoreOpen 1)
  | .resume (.opened none) => .done "ok: keystore.open(1)=none"
  | .resume (.bytes (.error _)) => .done "error: keystore denied"
  | .resume _ | .proceed => .trap

def keystoreWorld : Handler World Bool
  | .signing_verify .., revoked => (true, revoked)
  | .mapped_package len, revoked => (zeros len, revoked)
  | .decode_package_ref _, revoked => (some demoPackage, revoked)
  | .package_verify package _, revoked => (decide (package = demoPackage), revoked)
  | .parse_bytes _, revoked => (some demoPlan, revoked)
  | .bind _ dest _ _, revoked => (.ok (dest == DEST_CPTR), revoked)
  | .request_grant .., revoked => (.ok (abiNumbers.status_ACCESS, 0), revoked)
  | .list .., revoked => (.ok none, revoked)
  | .revoke .., revoked => (.ok abiNumbers.status_ACCESS, revoked)
  | .channel _ op _ reply, revoked =>
    let status := if op = lengthPrefixed.OP_SIGN ∧ revoked = false then lengthPrefixed.crypto_OK
      else lengthPrefixed.crypto_ACCESS
    ((.same reply, .ok (status, reply.length)), revoked)
  | .write_frame _, revoked => ((), revoked)
  | .call_with_label .., revoked =>
    (.ok (if revoked then abiNumbers.status_ACCESS.toUInt32 else abiNumbers.status_OK.toUInt32), revoked)
  | .signal _, _ => (.ok (), true)
  | .wait _, revoked => (.ok (), revoked)
  | .signal_with .., revoked => ((), revoked)
  | .init_heap .., revoked => ((), revoked)
  | .report_panics_via _, revoked => ((), revoked)
  | .heap_stats, revoked => (HEAP_BASE, revoked)
  | .now_ns _, revoked => ((0 : UInt64), revoked)
  | .deserialize _, revoked => (.ok ⟨0⟩, revoked)
  | .add_to_linker _, revoked => (true, revoked)
  | .define_unknown_imports_as_traps _, revoked => (true, revoked)
  | .set_fuel _, revoked => (true, revoked)
  | .get_typed_func _, revoked => (true, revoked)
  | .guest input, revoked => (demoGuest input, revoked)

end LanternRuntime.Confined

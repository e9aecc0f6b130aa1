import LanternRuntime.Host.State
/-!
# The confined guests

`probe` of `confined-probe-guest` and of `confined-fs-guest`: programs whose
calls are those of the interface that their world imports. A report that is
returned early is returned here, and a handle is dropped where Rust drops it:
after the report was made.
-/
open ProgLib

namespace LanternRuntime.Guests
open Host

/-! ## The imported interfaces -/

/-- The answer to a call, of the type that `host.wit` gives it. -/
def Ans : GuestCall → Type
  | .keystoreOpen _ | .filesystemOpen _ => Option Handle
  | .encrypt .. => Except ErrorCode (Bytes × Bytes)
  | .decrypt .. | .sign .. | .read _ => Except ErrorCode Bytes
  | .write .. => Except ErrorCode Unit
  | .keyDrop _ | .fileDrop _ => Unit
  | .now | .resolution => UInt64

abbrev Wit : Sig := ⟨GuestCall, Ans⟩

abbrev Events := List (Event Wit)

def ask (c : GuestCall) : Prog Wit (Ans c) := Prog.ask (E := Wit) c

/-- `b"…"` -/
def bytes (s : String) : Bytes := s.toList.map Char.toUInt8

/-- Make the report, and then drop the handle it was made with. -/
def dropping (drop : Prog Wit Unit) (report : Prog Wit String) : Prog Wit String := do
  let report ← report
  drop
  return report

/-- What is said of a slot that must read `none`. A leaked handle is dropped as soon as it was looked at. -/
def ungranted (drop : Handle → Prog Wit Unit) : Option Handle → Prog Wit String
  | none => return "none"
  | some leaked => do
    drop leaked
    return "LEAKED"

/-! ## `confined-probe-guest` -/

namespace confined_probe_guest

def MESSAGE : WitList := ⟨bytes "lantern-runtime confined-probe-guest v0", by decide⟩

/-- `{byte:02x}` -/
def hex (byte : UInt8) : String := String.ofList [(byte.toNat / 16).digitChar, (byte.toNat % 16).digitChar]

/-- The report of a guest that signed. -/
def signed (signature : Bytes) (ungranted : String) : String :=
  let sig_prefix := String.join ((signature.take 6).map hex)
  s!"ok: signed {MESSAGE.val.length} bytes with the granted key — ed25519 sig = {sig_prefix}… " ++
    s!"({signature.length} bytes); keystore.open(1)={ungranted}"

def probe : Prog Wit String := do
  match (← ask (.keystoreOpen 0) : Option Handle) with
  | none => return "error: the manifest granted no key at keystore slot 0"
  | some key => dropping (ask (.keyDrop key)) do
    match (← ask (.sign key MESSAGE) : Except ErrorCode Bytes) with
    | .error .Access => return "error: keystore denied `sign` (badge not scoped to that op)"
    | .error .Invalid => return "error: keystore rejected the sign request as invalid"
    | .ok signature =>
      let second : Option Handle ← ask (.keystoreOpen 1)
      return signed signature (← ungranted (ask <| .keyDrop ·) second)

end confined_probe_guest

/-! ## `confined-fs-guest` -/

namespace confined_fs_guest

def CONTENT : WitList := ⟨bytes "lantern-runtime confined-fs-guest v0: written by a confined Wasm guest", by decide⟩

def OVERSIZED_LEN : Nat := 257

/-- `[0xAA; OVERSIZED_LEN]` -/
def OVERSIZED : WitList := ⟨List.replicate OVERSIZED_LEN 0xAA, by rw [List.length_replicate]; decide⟩

/-- The report of a guest whose file kept its content. -/
def intact (oversized ungranted : String) : String :=
  s!"ok: wrote and read back {CONTENT.val.length} bytes; oversized write={oversized}, content intact; " ++
    s!"filesystem.open(1)={ungranted}"

/-- `debug` is what `{e:?}` writes. The derived text of an error code is not part of this repository. -/
def probe (debug : ErrorCode → String) : Prog Wit String := do
  match (← ask (.filesystemOpen 0) : Option Handle) with
  | none => return "error: the manifest granted no file at filesystem slot 0"
  | some file => dropping (ask (.fileDrop file)) do
    match (← ask (.read file) : Except ErrorCode Bytes) with
    | .ok bytes => if bytes ≠ [] then return s!"error: a fresh file read back {bytes.length} bytes, not 0"
    | .error e => return s!"error: reading the fresh file failed: {debug e}"
    match (← ask (.write file CONTENT) : Except ErrorCode Unit) with
    | .ok () => pure ()
    | .error e => return s!"error: write failed: {debug e}"
    match (← ask (.read file) : Except ErrorCode Bytes) with
    | .ok bytes =>
      if bytes ≠ CONTENT then return s!"error: read back {bytes.length} bytes that don't match what was written"
    | .error e => return s!"error: read-back failed: {debug e}"
    let oversized ← match (← ask (.write file OVERSIZED) : Except ErrorCode Unit) with
    | .error .Invalid => pure "invalid"
    | .error .Access => return "error: oversized write denied as access, not invalid"
    | .ok () => return "error: an oversized write was accepted"
    match (← ask (.read file) : Except ErrorCode Bytes) with
    | .ok bytes => if bytes ≠ CONTENT then return "error: a refused oversized write still changed the file"
    | .error e => return s!"error: read after the refused write failed: {debug e}"
    let second : Option Handle ← ask (.filesystemOpen 1)
    return intact oversized (← ungranted (ask <| .fileDrop ·) second)

end confined_fs_guest

end LanternRuntime.Guests

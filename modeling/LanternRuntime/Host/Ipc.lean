import LanternRuntime.Host.State
/-!
# Services over a channel

`IpcKeystore` and `IpcFilesystem` of `src/host.rs`: the service traits over one
`lantern_abi::frame::Channel`, and with it over one relationship to one remote.
The cell around the channel is left out: no call re-enters it.
-/
open ProgLib

namespace LanternRuntime.Host

variable {E : Sig}

/-- `lantern_abi::frame::Channel`. A call sends an operation with its request, and
comes back with the remote's status and how much of the reply buffer it filled. -/
structure Channel (E : Sig) where
  call : UInt16 → (request reply : Bytes) → Prog E (Buf reply.length × Except ChannelError (UInt16 × Nat))

/-! ## Slices -/

/-- `&b[..n]`. -/
def slice_to (b : Bytes) (n : Nat) : Prog E Bytes :=
  if n ≤ b.length then return b.take n
  else .panic s!"range end index {n} out of range for slice of length {b.length}"

/-- `dst.copy_from_slice(src)`. -/
def copy_from_slice (dst src : Bytes) : Prog E (Buf dst.length) :=
  if h : src.length = dst.length then return ⟨src, h⟩
  else .panic "copy_from_slice: source slice length does not match destination slice length"

def expect (msg : String) : Option α → Prog E α
  | some a => return a
  | none => .panic msg

theorem slice_to_le {b : Bytes} {n : Nat} (h : n ≤ b.length) : (slice_to b n : Prog E Bytes) = .ret (b.take n) :=
  if_pos h

theorem copy_from_slice_eq {dst src : Bytes} (h : src.length = dst.length) :
    (copy_from_slice dst src : Prog E (Buf dst.length)) = .ret ⟨src, h⟩ :=
  dif_pos h

section Services
variable [Crates]

/-! ## `IpcKeystore` -/

namespace IpcKeystore

/-- The middle of every method: call, and take the reply apart if its status is `OK`. -/
def exchange (channel : Channel E) (op : UInt16) (request reply : Bytes) : ExceptT KeystoreError (Prog E) Bytes := do
  let (reply, result) ← channel.call op request reply
  let (status, reply_len) ← result.mapError KeystoreError.Channel
  if status ≠ Crates.crypto_OK then throw (.RemoteDenied status)
  else (slice_to reply reply_len : Prog E Bytes)

def encrypt (channel : Channel E) (_badge : UInt64) (_key : KeyId) (nonce : Nonce) (aad buffer : Bytes) :
    Prog E (Buf buffer.length × Except KeystoreError Tag) := do
  let request := zeros (4 + NONCE_LEN + 4 + aad.length + buffer.length)
  let (request, len) := Crates.encode_encrypt_request nonce aad buffer request
  let len ← expect "request buffer sized exactly for nonce+aad+plaintext" len
  let reply := zeros (4 + TAG_LEN + buffer.length)
  let request ← slice_to request len
  match ← (exchange channel Crates.OP_ENCRYPT request reply).run with
  | .error e => return (.same buffer, .error e)
  | .ok reply =>
    match Crates.decode_encrypt_reply reply with
    | none => return (.same buffer, .error (.Channel .Malformed))
    | some (tag, ciphertext) =>
      if ciphertext.length ≠ buffer.length then return (.same buffer, .error (.Channel .Malformed))
      else return (← copy_from_slice buffer ciphertext, .ok tag)

def decrypt (channel : Channel E) (_badge : UInt64) (_key : KeyId) (nonce : Nonce) (aad buffer : Bytes) (tag : Tag) :
    Prog E (Buf buffer.length × Except KeystoreError Unit) := do
  let request := zeros (4 + NONCE_LEN + 4 + aad.length + 4 + TAG_LEN + buffer.length)
  let (request, len) := Crates.encode_decrypt_request nonce aad tag buffer request
  let len ← expect "request buffer sized exactly for nonce+aad+tag+ciphertext" len
  let reply := zeros buffer.length
  let request ← slice_to request len
  match ← (exchange channel Crates.OP_DECRYPT request reply).run with
  | .error e => return (.same buffer, .error e)
  | .ok reply =>
    let plaintext := Crates.decode_decrypt_reply reply
    if plaintext.length ≠ buffer.length then return (.same buffer, .error (.Channel .Malformed))
    else return (← copy_from_slice buffer plaintext, .ok ())

def sign (channel : Channel E) (_badge : UInt64) (_key : KeyId) (message : Bytes) :
    Prog E (Except KeystoreError Bytes) := do
  let request := Crates.encode_sign_request message
  let reply := zeros SIGNATURE_LEN
  match ← (exchange channel Crates.OP_SIGN request reply).run with
  | .error e => return .error e
  | .ok reply => return .ok (Crates.decode_sign_reply reply)

/-- The badge and key that the trait passes are not looked at: the channel stands for
the one relationship there is. -/
def service (channel : Channel E) : KeystoreService E where
  encrypt := encrypt channel
  decrypt := decrypt channel
  sign := sign channel

end IpcKeystore

/-! ## `IpcFilesystem` -/

namespace IpcFilesystem

/-- The caller's buffer is the reply buffer. -/
def read (channel : Channel E) (_badge : UInt64) (_file : FileId) (buffer : Bytes) :
    Prog E (Buf buffer.length × Except StoreError Nat) := do
  let (buffer, result) ← channel.call Crates.OP_READ [] buffer
  match result with
  | .error e => return (buffer, .error (.Channel e))
  | .ok (status, len) =>
    if status ≠ Crates.fs_OK then return (buffer, .error (.RemoteCryptoDenied status))
    else return (buffer, .ok len)

def write (channel : Channel E) (_badge : UInt64) (_file : FileId) (data : Bytes) :
    Prog E (Except StoreError Unit) := do
  let (_, result) ← channel.call Crates.OP_WRITE data []
  match result with
  | .error e => return .error (.Channel e)
  | .ok (status, _) =>
    if status ≠ Crates.fs_OK then return .error (.RemoteCryptoDenied status)
    else return .ok ()

def service (channel : Channel E) : FilesystemService E where
  read := read channel
  write := write channel

end IpcFilesystem
end Services

/-! ## A channel that is all outside -/

inductive IpcCall where
  | channel (op : UInt16) (request reply : Bytes)
  | now_ns (f : FnPtr)
  deriving DecidableEq

def IpcCall.Ans : IpcCall → Type
  | .channel _ _ reply => Buf reply.length × Except ChannelError (UInt16 × Nat)
  | .now_ns _ => UInt64

def Ipc : Sig := ⟨IpcCall, IpcCall.Ans⟩

def outsideChannel : Channel Ipc where
  call op request reply := Prog.ask (E := Ipc) (.channel op request reply)

instance : Clocked Ipc where
  callFn f := Prog.ask (E := Ipc) (.now_ns f)

end LanternRuntime.Host

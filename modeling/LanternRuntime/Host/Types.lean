import Mathlib.Algebra.Group.Nat.Defs
import LanternRuntime.ProgLib.Prog
import LanternRuntime.ProgLib.HandleTable
/-!
# The data of the host mapping

The records, errors and service traits of `src/host.rs`, and what it uses of
the crates it links: `lantern_crypto`, `lantern_filesystem` and `lantern_abi`.
Those crates are not part of this repository, so their codecs and numbers are
the fields of `Crates`.
-/
open ProgLib

namespace LanternRuntime.Host

abbrev Bytes := List UInt8

/-- A `[u8; n]`, or what a `&mut [u8]` of length `n` holds after a call. -/
abbrev Buf (n : Nat) := { b : Bytes // b.length = n }

/-- A buffer that nothing was written to. -/
abbrev Buf.same (b : Bytes) : Buf b.length := ⟨b, rfl⟩

/-- A `list<u8>` as the component ABI lifts it: its length is a `u32`. -/
abbrev WitList := { b : Bytes // b.length < 2 ^ 32 }

/-- `vec![0u8; n]`. -/
def zeros (n : Nat) : Buf n := ⟨List.replicate n 0, by simp⟩

/-! ## Constants of the linked crates

`host.wit` fixes the primitives, XChaCha20-Poly1305 and Ed25519, and with them
these lengths. `confined-fs-guest` gives `MAX_BLOCK_LEN`. -/

def NONCE_LEN : Nat := 24
def TAG_LEN : Nat := 16
def SIGNATURE_LEN : Nat := 64
def MAX_BLOCK_LEN : Nat := 256

abbrev Nonce := Buf NONCE_LEN
abbrev Tag := Buf TAG_LEN

structure KeyId where
  raw : Nat
  deriving DecidableEq, Repr

structure FileId where
  raw : Nat
  deriving DecidableEq, Repr

def KeyId.from_raw (raw : Nat) : KeyId := ⟨raw⟩
def FileId.from_raw (raw : Nat) : FileId := ⟨raw⟩

/-! ## Errors

`Other` stands for the variants of these enums that `host.rs` does not name. -/

inductive ChannelError where
  | Malformed
  | Other (code : Nat)
  deriving DecidableEq, Repr

inductive KeystoreError where
  | UnknownBadge | BadgeRevoked | OpNotGranted | WrongKey | NoSuchKey | KeyDestroyed
  | CryptoFailure
  | Channel (e : ChannelError)
  | RemoteDenied (status : UInt16)
  | Other (code : Nat)
  deriving DecidableEq, Repr

inductive StoreError where
  | UnknownBadge | BadgeRevoked | OpNotGranted | WrongFile | NoSuchFile | FileDestroyed
  | FileEmpty
  | Channel (e : ChannelError)
  | RemoteCryptoDenied (status : UInt16)
  | Other (code : Nat)
  deriving DecidableEq, Repr

/-- `error-code`, declared alike by the `keystore` and `filesystem` interfaces. -/
inductive ErrorCode where
  | Access
  | Invalid
  deriving DecidableEq, Repr

/-! ## The linked crates -/

/-- What this code uses of `lantern_crypto::wire` and `lantern_filesystem::wire`.
An encoder writes into the buffer it is given and says how much it wrote. -/
class Crates where
  /-- `lantern_crypto::wire::status`. -/
  crypto_OK : UInt16
  crypto_ACCESS : UInt16
  /-- `lantern_filesystem::wire::status`. -/
  fs_OK : UInt16
  fs_ACCESS : UInt16
  OP_ENCRYPT : UInt16
  OP_DECRYPT : UInt16
  OP_SIGN : UInt16
  OP_READ : UInt16
  OP_WRITE : UInt16
  encode_encrypt_request : Nonce → (aad plaintext out : Bytes) → Buf out.length × Option Nat
  decode_encrypt_request : Bytes → Option (Nonce × Bytes × Bytes)
  encode_encrypt_reply : Tag → (ciphertext out : Bytes) → Buf out.length × Option Nat
  decode_encrypt_reply : Bytes → Option (Tag × Bytes)
  encode_decrypt_request : Nonce → (aad : Bytes) → Tag → (ciphertext out : Bytes) → Buf out.length × Option Nat
  decode_decrypt_request : Bytes → Option (Nonce × Bytes × Tag × Bytes)
  encode_decrypt_reply : Bytes → Bytes
  decode_decrypt_reply : Bytes → Bytes
  encode_sign_request : Bytes → Bytes
  decode_sign_request : Bytes → Bytes
  encode_sign_reply : Bytes → Bytes
  decode_sign_reply : Bytes → Bytes

/-! ## Capability records -/

inductive ServiceEndpoint where
  | Keystore
  | Filesystem
  deriving DecidableEq, Repr

/-- What a `key` handle is backed by. The fields are private to `host.rs`, where
`keystore_key` is the only way to make one: hence `minted`. -/
structure HostCapability where
  badge : UInt64
  key : KeyId
  service : ServiceEndpoint
  minted : service = .Keystore
  deriving DecidableEq

def HostCapability.keystore_key (badge : UInt64) (key : KeyId) : HostCapability :=
  ⟨badge, key, .Keystore, rfl⟩

/-- What a `file` handle is backed by, made by `filesystem_file` only. -/
structure HostFile where
  badge : UInt64
  file : FileId
  service : ServiceEndpoint
  minted : service = .Filesystem
  deriving DecidableEq

def HostFile.filesystem_file (badge : UInt64) (file : FileId) : HostFile :=
  ⟨badge, file, .Filesystem, rfl⟩

/-- What the resource table holds: records of two Rust types. -/
inductive Entry where
  | key (cap : HostCapability)
  | file (cap : HostFile)
  deriving DecidableEq

/-- Does the entry downcast to the record type of `key`? -/
def Entry.isKey : Entry → Bool
  | .key _ => true
  | .file _ => false

def Entry.isFile : Entry → Bool
  | .key _ => false
  | .file _ => true

/-- The interface whose handles an entry of this type backs. -/
def Entry.interface : Entry → ServiceEndpoint
  | .key _ => .Keystore
  | .file _ => .Filesystem

/-- The index behind a `Resource<T>`. -/
abbrev Handle := UInt32

/-- Wasmtime's `ResourceTable`, holding entries of both types. -/
abbrev ResourceTable := HandleTable Handle Entry

/-! ## Service traits -/

/-- The crypto service as the mapping sees it. `E` is what the service needs of
the outside. A `&mut` buffer comes back with the result. -/
structure KeystoreService (E : Sig) where
  encrypt : UInt64 → KeyId → Nonce → (aad buffer : Bytes) →
    Prog E (Buf buffer.length × Except KeystoreError Tag)
  decrypt : UInt64 → KeyId → Nonce → (aad buffer : Bytes) → Tag →
    Prog E (Buf buffer.length × Except KeystoreError Unit)
  sign : UInt64 → KeyId → (message : Bytes) → Prog E (Except KeystoreError Bytes)

/-- The store as the mapping sees it. -/
structure FilesystemService (E : Sig) where
  read : UInt64 → FileId → (buffer : Bytes) → Prog E (Buf buffer.length × Except StoreError Nat)
  write : UInt64 → FileId → (data : Bytes) → Prog E (Except StoreError Unit)

/-- A `fn() -> u64`. -/
structure FnPtr where
  addr : Nat
  deriving DecidableEq

/-- Calling a function pointer is an outside call. -/
class Clocked (E : Sig) where
  callFn : FnPtr → Prog E UInt64

structure MonotonicClock where
  now_ns : FnPtr
  resolution_ns : UInt64
  deriving DecidableEq

/-! ## Services that are all outside

`Services` is the outside that consists of the services themselves. Against it
the services behind a `RuntimeState` behave as they like. -/

inductive ServiceCall where
  | encrypt (badge : UInt64) (key : KeyId) (nonce : Nonce) (aad buffer : Bytes)
  | decrypt (badge : UInt64) (key : KeyId) (nonce : Nonce) (aad buffer : Bytes) (tag : Tag)
  | sign (badge : UInt64) (key : KeyId) (message : Bytes)
  | read (badge : UInt64) (file : FileId) (buffer : Bytes)
  | write (badge : UInt64) (file : FileId) (data : Bytes)
  | now_ns (f : FnPtr)
  deriving DecidableEq

def ServiceCall.Ans : ServiceCall → Type
  | .encrypt _ _ _ _ buffer => Buf buffer.length × Except KeystoreError Tag
  | .decrypt _ _ _ _ buffer _ => Buf buffer.length × Except KeystoreError Unit
  | .sign _ _ _ => Except KeystoreError Bytes
  | .read _ _ buffer => Buf buffer.length × Except StoreError Nat
  | .write _ _ _ => Except StoreError Unit
  | .now_ns _ => UInt64

def Services : Sig := ⟨ServiceCall, ServiceCall.Ans⟩

def outsideKeystore : KeystoreService Services where
  encrypt badge key nonce aad buffer := Prog.ask (E := Services) (.encrypt badge key nonce aad buffer)
  decrypt badge key nonce aad buffer tag := Prog.ask (E := Services) (.decrypt badge key nonce aad buffer tag)
  sign badge key message := Prog.ask (E := Services) (.sign badge key message)

def outsideFilesystem : FilesystemService Services where
  read badge file buffer := Prog.ask (E := Services) (.read badge file buffer)
  write badge file data := Prog.ask (E := Services) (.write badge file data)

instance : Clocked Services where
  callFn f := Prog.ask (E := Services) (.now_ns f)

end LanternRuntime.Host

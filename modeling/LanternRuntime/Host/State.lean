import LanternRuntime.Host.Types
import LanternRuntime.ProgLib.Session
/-!
# `RuntimeState` and the host functions

The grant manifest, the store state, and the functions a guest can call, as
`src/host.rs` writes them: a `?` is a bind in `ExceptT`. `GuestCall` and `call`
put the functions together into one object that serves guest calls.
-/
open ProgLib

namespace LanternRuntime.Host

/-- The host facilities one component was granted. Slots are positional: `none`
is a role that was declined, an empty list an interface not declared. -/
structure GrantManifest where
  keystore_keys : List (Option HostCapability)
  filesystem_files : List (Option HostFile)
  monotonic_clock : Option MonotonicClock
  deriving DecidableEq

def GrantManifest.nothing : GrantManifest := ⟨[], [], none⟩

structure RuntimeState (T : ResourceTable) (E : Sig) where
  table : T.Table
  keys : List (Option HostCapability)
  files : List (Option HostFile)
  keystore : Option (KeystoreService E)
  filesystem : Option (FilesystemService E)
  clock : Option MonotonicClock

variable {T : ResourceTable} {E : Sig}

namespace RuntimeState

def new (manifest : GrantManifest) : RuntimeState T E where
  table := T.new
  keys := manifest.keystore_keys
  files := manifest.filesystem_files
  keystore := none
  filesystem := none
  clock := manifest.monotonic_clock

def with_keystore (self : RuntimeState T E) (keystore : KeystoreService E) : RuntimeState T E :=
  { self with keystore := some keystore }

def with_filesystem (self : RuntimeState T E) (filesystem : FilesystemService E) : RuntimeState T E :=
  { self with filesystem := some filesystem }

/-- `new`, then `with_keystore` and `with_filesystem` for the backends there are. -/
def attach (manifest : GrantManifest) (ks : Option (KeystoreService E)) (fs : Option (FilesystemService E)) :
    RuntimeState T E :=
  { (new manifest : RuntimeState T E) with keystore := ks, filesystem := fs }

def keystore_cap (self : RuntimeState T E) (handle : Handle) : Except ErrorCode HostCapability :=
  match T.get self.table handle with
  | some (.key cap) => .ok cap
  | _ => .error .Access

def keystore_backend (self : RuntimeState T E) : Except ErrorCode (KeystoreService E) :=
  self.keystore.elim (.error .Access) .ok

def file_cap (self : RuntimeState T E) (handle : Handle) : Except ErrorCode HostFile :=
  match T.get self.table handle with
  | some (.file cap) => .ok cap
  | _ => .error .Access

def filesystem_backend (self : RuntimeState T E) : Except ErrorCode (FilesystemService E) :=
  self.filesystem.elim (.error .Access) .ok

/-- The body of both `open`s: the record in the slot, if there is one, goes into the table. -/
def open_slot {Record : Type} (self : RuntimeState T E) (slots : List (Option Record)) (entry : Record → Entry)
    (slot : UInt32) : RuntimeState T E × Option Handle :=
  match slots[slot.toNat]?.join with
  | none => (self, none)
  | some cap =>
    match T.push self.table (entry cap) with
    | none => (self, none)
    | some (handle, table) => ({ self with table := table }, some handle)

/-- The body of both `drop`s. The answer says whether the table had such a handle. -/
def drop_handle (self : RuntimeState T E) (want : Entry → Bool) (handle : Handle) : RuntimeState T E × Bool :=
  let (found, table) := T.delete self.table want handle
  ({ self with table := table }, found)

end RuntimeState

/-! ## Error translation -/

section Errors
variable [Crates]

def to_error_code : KeystoreError → ErrorCode
  | .UnknownBadge | .BadgeRevoked | .OpNotGranted | .WrongKey | .NoSuchKey | .KeyDestroyed => .Access
  | .RemoteDenied status => if status = Crates.crypto_ACCESS then .Access else .Invalid
  | _ => .Invalid

/-- `FileEmpty` reaches this only from a write: `read` maps it to an empty result. -/
def to_fs_error_code : StoreError → ErrorCode
  | .UnknownBadge | .BadgeRevoked | .OpNotGranted | .WrongFile | .NoSuchFile | .FileDestroyed => .Access
  | .RemoteCryptoDenied status => if status = Crates.fs_ACCESS then .Access else .Invalid
  | _ => .Invalid

def fixed_len (n : Nat) (bytes : Bytes) : Except ErrorCode (Buf n) :=
  if h : bytes.length = n then .ok ⟨bytes, h⟩ else .error .Invalid

/-! ## The `keystore` interface -/

namespace keystore

def encrypt (self : RuntimeState T E) (handle : Handle) (nonce aad plaintext : Bytes) :
    ExceptT ErrorCode (Prog E) (Bytes × Bytes) := do
  let cap ← self.keystore_cap handle
  let .Keystore := cap.service | throw .Access
  let nonce ← fixed_len NONCE_LEN nonce
  let backend ← self.keystore_backend
  let (buffer, result) ← backend.encrypt cap.badge cap.key nonce aad plaintext
  let tag ← result.mapError to_error_code
  return (buffer, tag)

def decrypt (self : RuntimeState T E) (handle : Handle) (nonce aad ciphertext tag : Bytes) :
    ExceptT ErrorCode (Prog E) Bytes := do
  let cap ← self.keystore_cap handle
  let .Keystore := cap.service | throw .Access
  let nonce ← fixed_len NONCE_LEN nonce
  let tag ← fixed_len TAG_LEN tag
  let backend ← self.keystore_backend
  let (buffer, result) ← backend.decrypt cap.badge cap.key nonce aad ciphertext tag
  result.mapError to_error_code
  return buffer

def sign (self : RuntimeState T E) (handle : Handle) (message : Bytes) :
    ExceptT ErrorCode (Prog E) Bytes := do
  let cap ← self.keystore_cap handle
  let .Keystore := cap.service | throw .Access
  let backend ← self.keystore_backend
  let result ← backend.sign cap.badge cap.key message
  result.mapError to_error_code

def drop (self : RuntimeState T E) (handle : Handle) : RuntimeState T E × Bool :=
  self.drop_handle Entry.isKey handle

def «open» (self : RuntimeState T E) (slot : UInt32) : RuntimeState T E × Option Handle :=
  self.open_slot self.keys .key slot

end keystore

/-! ## The `filesystem` interface -/

namespace filesystem

def read (self : RuntimeState T E) (handle : Handle) : ExceptT ErrorCode (Prog E) Bytes := do
  let cap ← self.file_cap handle
  let .Filesystem := cap.service | throw .Access
  let backend ← self.filesystem_backend
  let (buffer, result) ← backend.read cap.badge cap.file (zeros MAX_BLOCK_LEN).val
  match result with
  | .ok n => return buffer.val.take n
  | .error .FileEmpty => return []
  | .error e => throw (to_fs_error_code e)

def write (self : RuntimeState T E) (handle : Handle) (bytes : Bytes) :
    ExceptT ErrorCode (Prog E) Unit := do
  let cap ← self.file_cap handle
  let .Filesystem := cap.service | throw .Access
  if bytes.length > MAX_BLOCK_LEN then throw .Invalid
  let backend ← self.filesystem_backend
  let result ← backend.write cap.badge cap.file bytes
  result.mapError to_fs_error_code

def drop (self : RuntimeState T E) (handle : Handle) : RuntimeState T E × Bool :=
  self.drop_handle Entry.isFile handle

def «open» (self : RuntimeState T E) (slot : UInt32) : RuntimeState T E × Option Handle :=
  self.open_slot self.files .file slot

end filesystem

/-! ## The `monotonic-clock` interface -/

namespace monotonic_clock
variable [Clocked E]

def now (self : RuntimeState T E) : Prog E UInt64 :=
  match self.clock with
  | some clock => Clocked.callFn clock.now_ns
  | none => .panic "monotonic-clock linked without a source"

def resolution (self : RuntimeState T E) : Prog E UInt64 :=
  match self.clock with
  | some clock => return clock.resolution_ns
  | none => .panic "monotonic-clock linked without a source"

end monotonic_clock

/-! ## What each function does

One equation a function, with the dead `service` branches gone. -/

/-- What a guest sees of a service's answer to `encrypt`. -/
def encrypted {n : Nat} : Buf n × Except KeystoreError Tag → Except ErrorCode (Bytes × Bytes)
  | (buffer, .ok tag) => .ok (buffer, tag)
  | (_, .error e) => .error (to_error_code e)

def decrypted {n : Nat} : Buf n × Except KeystoreError Unit → Except ErrorCode Bytes
  | (buffer, .ok ()) => .ok buffer
  | (_, .error e) => .error (to_error_code e)

def readBack {n : Nat} : Buf n × Except StoreError Nat → Except ErrorCode Bytes
  | (buffer, .ok k) => .ok (buffer.val.take k)
  | (_, .error .FileEmpty) => .ok []
  | (_, .error e) => .error (to_fs_error_code e)

theorem readBack_error {n : Nat} {buffer : Buf n} {e : StoreError} (h : e ≠ .FileEmpty) :
    readBack (buffer, .error e) = .error (to_fs_error_code e) := by
  cases e <;> first | rfl | exact absurd rfl h

/-- What a guest sees of a service's answer to `sign`. -/
def signed : Except KeystoreError Bytes → Except ErrorCode Bytes :=
  Except.mapError to_error_code

def written : Except StoreError Unit → Except ErrorCode Unit :=
  Except.mapError to_fs_error_code

theorem keystore.encrypt_run (self : RuntimeState T E) (handle : Handle) (nonce aad plaintext : Bytes) :
    (keystore.encrypt self handle nonce aad plaintext).run =
      match self.keystore_cap handle, fixed_len NONCE_LEN nonce, self.keystore_backend with
      | .error e, _, _ => .ret (.error e)
      | .ok _, .error e, _ => .ret (.error e)
      | .ok _, .ok _, .error e => .ret (.error e)
      | .ok cap, .ok nonce, .ok backend =>
        backend.encrypt cap.badge cap.key nonce aad plaintext >>= fun x => .ret (encrypted x) := by
  unfold keystore.encrypt
  cases self.keystore_cap handle with
  | error e => rfl
  | ok cap =>
    obtain ⟨badge, key, service, rfl⟩ := cap
    cases fixed_len NONCE_LEN nonce with
    | error e => rfl
    | ok nonce =>
      cases self.keystore_backend with
      | error e => rfl
      | ok backend =>
        refine Eq.trans (Prog.bind_assoc (backend.encrypt badge key nonce aad plaintext) _ _) ?_
        refine congrArg (backend.encrypt badge key nonce aad plaintext >>= ·) (funext fun x => ?_)
        obtain ⟨buffer, _ | _⟩ := x <;> rfl

theorem keystore.decrypt_run (self : RuntimeState T E) (handle : Handle) (nonce aad ciphertext tag : Bytes) :
    (keystore.decrypt self handle nonce aad ciphertext tag).run =
      match self.keystore_cap handle, fixed_len NONCE_LEN nonce, fixed_len TAG_LEN tag, self.keystore_backend with
      | .error e, _, _, _ => .ret (.error e)
      | .ok _, .error e, _, _ => .ret (.error e)
      | .ok _, .ok _, .error e, _ => .ret (.error e)
      | .ok _, .ok _, .ok _, .error e => .ret (.error e)
      | .ok cap, .ok nonce, .ok tag, .ok backend =>
        backend.decrypt cap.badge cap.key nonce aad ciphertext tag >>= fun x => .ret (decrypted x) := by
  unfold keystore.decrypt
  cases self.keystore_cap handle with
  | error e => rfl
  | ok cap =>
    obtain ⟨badge, key, service, rfl⟩ := cap
    cases fixed_len NONCE_LEN nonce with
    | error e => rfl
    | ok nonce =>
      cases fixed_len TAG_LEN tag with
      | error e => rfl
      | ok tag =>
        cases self.keystore_backend with
        | error e => rfl
        | ok backend =>
          refine Eq.trans (Prog.bind_assoc (backend.decrypt badge key nonce aad ciphertext tag) _ _) ?_
          refine congrArg (backend.decrypt badge key nonce aad ciphertext tag >>= ·) (funext fun x => ?_)
          obtain ⟨buffer, _ | _⟩ := x <;> rfl

theorem keystore.sign_run (self : RuntimeState T E) (handle : Handle) (message : Bytes) :
    (keystore.sign self handle message).run =
      match self.keystore_cap handle, self.keystore_backend with
      | .error e, _ => .ret (.error e)
      | .ok _, .error e => .ret (.error e)
      | .ok cap, .ok backend => backend.sign cap.badge cap.key message >>= fun x => .ret (signed x) := by
  unfold keystore.sign
  cases self.keystore_cap handle with
  | error e => rfl
  | ok cap =>
    obtain ⟨badge, key, service, rfl⟩ := cap
    cases self.keystore_backend with
    | error e => rfl
    | ok backend =>
      refine Eq.trans (Prog.bind_assoc (backend.sign badge key message) _ _) ?_
      exact congrArg (backend.sign badge key message >>= ·) (funext fun x => rfl)

theorem filesystem.read_run (self : RuntimeState T E) (handle : Handle) :
    (filesystem.read self handle).run =
      match self.file_cap handle, self.filesystem_backend with
      | .error e, _ => .ret (.error e)
      | .ok _, .error e => .ret (.error e)
      | .ok cap, .ok backend =>
        backend.read cap.badge cap.file (zeros MAX_BLOCK_LEN).val >>= fun x => .ret (readBack x) := by
  unfold filesystem.read
  cases self.file_cap handle with
  | error e => rfl
  | ok cap =>
    obtain ⟨badge, file, service, rfl⟩ := cap
    cases self.filesystem_backend with
    | error e => rfl
    | ok backend =>
      refine Eq.trans (Prog.bind_assoc (backend.read badge file (zeros MAX_BLOCK_LEN).val) _ _) ?_
      refine congrArg (backend.read badge file (zeros MAX_BLOCK_LEN).val >>= ·) (funext fun x => ?_)
      obtain ⟨buffer, e | k⟩ := x
      · cases e <;> rfl
      · rfl

/-- The length check stands before the backend is looked at. -/
theorem filesystem.write_run (self : RuntimeState T E) (handle : Handle) (bytes : Bytes) :
    (filesystem.write self handle bytes).run =
      match self.file_cap handle with
      | .error e => .ret (.error e)
      | .ok cap =>
        if bytes.length > MAX_BLOCK_LEN then .ret (.error .Invalid)
        else match self.filesystem_backend with
          | .error e => .ret (.error e)
          | .ok backend => backend.write cap.badge cap.file bytes >>= fun x => .ret (written x) := by
  unfold filesystem.write
  cases self.file_cap handle with
  | error e => rfl
  | ok cap =>
    obtain ⟨badge, file, service, rfl⟩ := cap
    by_cases hl : bytes.length > MAX_BLOCK_LEN
    · simp only [hl, if_true]
      rfl
    · simp only [hl, if_false]
      cases self.filesystem_backend with
      | error e => rfl
      | ok backend =>
        refine Eq.trans (Prog.bind_assoc (backend.write badge file bytes) _ _) ?_
        exact congrArg (backend.write badge file bytes >>= ·) (funext fun x => rfl)

/-! ## Guest calls -/

/-- A call a guest can make of the three interfaces. -/
inductive GuestCall where
  | keystoreOpen (slot : UInt32)
  | encrypt (key : Handle) (nonce aad plaintext : WitList)
  | decrypt (key : Handle) (nonce aad ciphertext tag : WitList)
  | sign (key : Handle) (message : WitList)
  | keyDrop (key : Handle)
  | filesystemOpen (slot : UInt32)
  | read (file : Handle)
  | write (file : Handle) (bytes : WitList)
  | fileDrop (file : Handle)
  | now
  | resolution
  deriving DecidableEq

inductive GuestReply where
  | opened (handle : Option Handle)
  | encrypted (result : Except ErrorCode (Bytes × Bytes))
  | bytes (result : Except ErrorCode Bytes)
  | written (result : Except ErrorCode Unit)
  | dropped (found : Bool)
  | time (ns : UInt64)
  deriving DecidableEq

/-- Serve one guest call. -/
def call [Clocked E] (self : RuntimeState T E) : GuestCall → Prog E (RuntimeState T E × GuestReply)
  | .keystoreOpen slot => let (self, handle) := keystore.open self slot; return (self, .opened handle)
  | .encrypt key nonce aad plaintext =>
    return (self, .encrypted (← (keystore.encrypt self key nonce aad plaintext).run))
  | .decrypt key nonce aad ciphertext tag =>
    return (self, .bytes (← (keystore.decrypt self key nonce aad ciphertext tag).run))
  | .sign key message => return (self, .bytes (← (keystore.sign self key message).run))
  | .keyDrop key => let (self, found) := keystore.drop self key; return (self, .dropped found)
  | .filesystemOpen slot => let (self, handle) := filesystem.open self slot; return (self, .opened handle)
  | .read file => return (self, .bytes (← (filesystem.read self file).run))
  | .write file bytes => return (self, .written (← (filesystem.write self file bytes).run))
  | .fileDrop file => let (self, found) := filesystem.drop self file; return (self, .dropped found)
  | .now => return (self, .time (← monotonic_clock.now self))
  | .resolution => return (self, .time (← monotonic_clock.resolution self))

end Errors
end LanternRuntime.Host

import LanternRuntime.Host.Ipc
import LanternRuntime.Host.Reference
import LanternRuntime.Host.Simulation
import LanternRuntime.Host.Wire
/-!
# The same service, reached over a channel

A remote keystore runs a service under one badge and key and sends back what it
answers. `ipc_keystore_refines` shows that a guest whose manifest grants only
that relationship cannot tell the remote from the service itself, call by call,
and that the service goes through the same states. `ipc_filesystem_refines` is
its twin for a store.

The service is a handler `h`, the outside of the channel a handler `g`, and
`view` the state of the service inside the state of that outside.
-/
open ProgLib

namespace LanternRuntime.Host

variable {T : ResourceTable} {E : Sig} {σ τ : Type}

/-! ## Remotes -/

/-- What a channel call comes back with: the reply buffer, and status and length. -/
abbrev Reply (n : Nat) := Buf n × Except ChannelError (UInt16 × Nat)

/-- The remote sent `bytes` under `status`, and they arrive if the buffer holds them. -/
def Sent (status : UInt16) (bytes : Bytes) {n : Nat} (reply : Reply n) : Prop :=
  bytes.length ≤ n → reply.2 = .ok (status, bytes.length) ∧ reply.1.val.take bytes.length = bytes

/-- The remote sent a status that is not `ok`, and `access` exactly for an `Access` error. -/
def Refused (ok access : UInt16) (code : ErrorCode) {n : Nat} (reply : Reply n) : Prop :=
  ∃ status len, reply.2 = .ok (status, len) ∧ status ≠ ok ∧ (status = access ↔ code = .Access)

/-- On `c`, the service behind `view` moves as `h` says and its answer is sent as `R` says. -/
def Relays (h : Handler Services σ) (g : Handler E τ) (view : τ → σ) (c : ServiceCall) {n : Nat}
    (p : Prog E (Reply n)) (R : c.Ans → Reply n → Prop) : Prop :=
  ∀ t, ∃ reply t', p.run g t = (.ret reply, t') ∧ view t' = (h c (view t)).2 ∧ R (h c (view t)).1 reply

/-- From every state, `p` runs to an answer a guest sees as that of `c`, and the service
moves as `c` moves it. -/
def RelayedAs (h : Handler Services σ) (g : Handler E τ) (view : τ → σ) (c : ServiceCall) {A : Type}
    (p : Prog E A) (V : c.Ans → A → Prop) : Prop :=
  ∀ t, ∃ y t', p.run g t = (.ret y, t') ∧ view t' = (h c (view t)).2 ∧ V (h c (view t)).1 y

theorem RelayedAs.sim {h : Handler Services σ} {g : Handler E τ} {view : τ → σ} {c : ServiceCall} {A : Type}
    {p : Prog E A} {V : c.Ans → A → Prop} (hp : RelayedAs h g view c p V) :
    Sim h g (fun s t => view t = s) V (Prog.ask (E := Services) c) p := by
  rintro _ t rfl
  obtain ⟨y, t', hrun, hview, hv⟩ := hp t
  rw [hrun]
  exact ⟨hv, hview⟩

/-- A request that was encoded goes out as it was encoded. -/
theorem request_ready {n k : Nat} {A : Type} {enc : Buf n × Option Nat} (hk : enc.2 = some k) (hn : k ≤ n)
    (msg : String) (f : Bytes → Prog E A) :
    (expect msg enc.2 >>= fun len => slice_to enc.1.val len >>= f) = f (enc.1.val.take k) := by
  have hle : k ≤ enc.1.val.length := by rw [enc.1.property]; exact hn
  rw [hk, expect, Prog.pure_eq, Prog.ret_bind, slice_to_le hle, Prog.ret_bind]

/-- Send `bytes` back through a buffer. -/
def deliver (reply : Bytes) (status : UInt16) (bytes : Bytes) : Reply reply.length :=
  match writeFront bytes reply with
  | (buffer, some n) => (buffer, .ok (status, n))
  | (buffer, none) => (buffer, .error (.Other 0))

theorem deliver_sent (reply : Bytes) (status : UInt16) (bytes : Bytes) :
    Sent status bytes (deliver reply status bytes) := by
  intro hl
  obtain ⟨h₁, h₂⟩ := writeFront_fits rfl hl
  unfold deliver
  split
  · next buffer n hw =>
    rw [hw] at h₁ h₂
    obtain rfl := Option.some.inj h₁
    exact ⟨rfl, h₂⟩
  · next buffer hw =>
    rw [hw] at h₁
    cases h₁

theorem deliver_refused (reply : Bytes) {ok access status : UInt16} {code : ErrorCode} (hne : status ≠ ok)
    (hacc : status = access ↔ code = .Access) : Refused ok access code (deliver reply status []) := by
  obtain ⟨h, -⟩ := deliver_sent reply status [] (Nat.zero_le _)
  exact ⟨status, 0, h, hne, hacc⟩

/-- What the keystore signs with has the length of an Ed25519 signature. -/
def SignatureLen (h : Handler Services σ) : Prop :=
  ∀ badge key message s signature, (h (.sign badge key message) s).1 = .ok signature → signature.length = SIGNATURE_LEN

section Remote
variable [Crates]

/-- The other end of `channel` runs the keystore `h` under one badge and key. -/
structure RemoteKeystore (h : Handler Services σ) (badge : UInt64) (key : KeyId) (channel : Channel E)
    (g : Handler E τ) (view : τ → σ) : Prop where
  encrypt : ∀ nonce aad text request reply, Crates.decode_encrypt_request request = some (nonce, aad, text) →
    Relays h g view (.encrypt badge key nonce aad text) (channel.call Crates.OP_ENCRYPT request reply)
      fun
      | (ciphertext, .ok tag), r => ∃ out : Bytes, encryptReplyLen ciphertext ≤ out.length ∧
        Sent Crates.crypto_OK ((Crates.encode_encrypt_reply tag ciphertext out).1.val.take
          (encryptReplyLen ciphertext)) r
      | (_, .error e), r => Refused Crates.crypto_OK Crates.crypto_ACCESS (to_error_code e) r
  decrypt : ∀ nonce aad tag text request reply,
    Crates.decode_decrypt_request request = some (nonce, aad, tag, text) →
    Relays h g view (.decrypt badge key nonce aad text tag) (channel.call Crates.OP_DECRYPT request reply)
      fun
      | (plaintext, .ok ()), r => Sent Crates.crypto_OK (Crates.encode_decrypt_reply plaintext) r
      | (_, .error e), r => Refused Crates.crypto_OK Crates.crypto_ACCESS (to_error_code e) r
  sign : ∀ message request reply, Crates.decode_sign_request request = message →
    Relays h g view (.sign badge key message) (channel.call Crates.OP_SIGN request reply)
      fun
      | .ok signature, r => Sent Crates.crypto_OK (Crates.encode_sign_reply signature) r
      | .error e, r => Refused Crates.crypto_OK Crates.crypto_ACCESS (to_error_code e) r

/-- The other end of `channel` runs the store `h` under one badge and file. It sends an
unwritten file as an empty one. -/
structure RemoteFilesystem (h : Handler Services σ) (badge : UInt64) (file : FileId) (channel : Channel E)
    (g : Handler E τ) (view : τ → σ) : Prop where
  read : ∀ reply, Relays h g view (.read badge file (zeros MAX_BLOCK_LEN).val) (channel.call Crates.OP_READ [] reply)
    fun
    | (content, .ok n), r => Sent Crates.fs_OK (content.val.take n) r
    | (_, .error .FileEmpty), r => Sent Crates.fs_OK [] r
    | (_, .error e), r => Refused Crates.fs_OK Crates.fs_ACCESS (to_fs_error_code e) r
  write : ∀ data reply, data.length ≤ MAX_BLOCK_LEN →
    Relays h g view (.write badge file data) (channel.call Crates.OP_WRITE data reply)
    fun
    | .ok (), r => Sent Crates.fs_OK [] r
    | .error e, r => Refused Crates.fs_OK Crates.fs_ACCESS (to_fs_error_code e) r

/-! ## Remotes that relay -/

/-- A remote that runs the keystore `h` under `badge` and `key`. -/
def remoteKeystore (h : Handler Services σ) (badge : UInt64) (key : KeyId) (status : KeystoreError → UInt16) :
    Handler Ipc σ
  | .channel op request reply, s =>
    if op = Crates.OP_ENCRYPT then
      match Crates.decode_encrypt_request request with
      | none => (deliver reply (status (.Channel .Malformed)) [], s)
      | some (nonce, aad, text) =>
        match h (.encrypt badge key nonce aad text) s with
        | ((ciphertext, .ok tag), s') =>
          let out := (Crates.encode_encrypt_reply tag ciphertext (zeros (encryptReplyLen ciphertext))).1.val
          (deliver reply Crates.crypto_OK (out.take (encryptReplyLen ciphertext)), s')
        | ((_, .error e), s') => (deliver reply (status e) [], s')
    else if op = Crates.OP_DECRYPT then
      match Crates.decode_decrypt_request request with
      | none => (deliver reply (status (.Channel .Malformed)) [], s)
      | some (nonce, aad, tag, text) =>
        match h (.decrypt badge key nonce aad text tag) s with
        | ((plaintext, .ok ()), s') => (deliver reply Crates.crypto_OK (Crates.encode_decrypt_reply plaintext), s')
        | ((_, .error e), s') => (deliver reply (status e) [], s')
    else
      match h (.sign badge key (Crates.decode_sign_request request)) s with
      | (.ok signature, s') => (deliver reply Crates.crypto_OK (Crates.encode_sign_reply signature), s')
      | (.error e, s') => (deliver reply (status e) [], s')
  | .now_ns f, s => h (.now_ns f) s

/-- A remote that runs the store `h` under `badge` and `file`. -/
def remoteStore (h : Handler Services σ) (badge : UInt64) (file : FileId) (status : StoreError → UInt16) :
    Handler Ipc σ
  | .channel op request reply, s =>
    if op = Crates.OP_READ then
      match h (.read badge file (zeros MAX_BLOCK_LEN).val) s with
      | ((content, .ok n), s') => (deliver reply Crates.fs_OK (content.val.take n), s')
      | ((_, .error .FileEmpty), s') => (deliver reply Crates.fs_OK [], s')
      | ((_, .error e), s') => (deliver reply (status e) [], s')
    else
      match h (.write badge file request) s with
      | (.ok (), s') => (deliver reply Crates.fs_OK [], s')
      | (.error e, s') => (deliver reply (status e) [], s')
  | .now_ns f, s => h (.now_ns f) s

/-- The remote keeps what `RemoteKeystore` asks if its statuses do. -/
theorem remoteKeystore_relays (h : Handler Services σ) (badge : UInt64) (key : KeyId) (status : KeystoreError → UInt16)
    (hok : ∀ e, status e ≠ Crates.crypto_OK)
    (hacc : ∀ e, status e = Crates.crypto_ACCESS ↔ to_error_code e = .Access)
    (hops : [Crates.OP_ENCRYPT, Crates.OP_DECRYPT, Crates.OP_SIGN].Nodup) :
    RemoteKeystore h badge key outsideChannel (remoteKeystore h badge key status) id := by
  have hED : Crates.OP_ENCRYPT ≠ Crates.OP_DECRYPT := by intro he; simp [he] at hops
  have hES : Crates.OP_ENCRYPT ≠ Crates.OP_SIGN := by intro he; simp [he] at hops
  have hDS : Crates.OP_DECRYPT ≠ Crates.OP_SIGN := by intro he; simp [he] at hops
  constructor
  · intro nonce aad text request reply hdec s
    refine ⟨_, _, rfl, ?_⟩
    simp only [id_eq, remoteKeystore, if_true, hdec]
    rcases h (.encrypt badge key nonce aad text) s with ⟨⟨ciphertext, e | tag⟩, s'⟩
    · exact ⟨rfl, deliver_refused reply (hok e) (hacc e)⟩
    · exact ⟨rfl, _, Nat.le_of_eq (zeros _).property.symm, deliver_sent _ _ _⟩
  · intro nonce aad tag text request reply hdec s
    refine ⟨_, _, rfl, ?_⟩
    simp only [id_eq, remoteKeystore, if_neg hED.symm, if_true, hdec]
    rcases h (.decrypt badge key nonce aad text tag) s with ⟨⟨plaintext, e | _⟩, s'⟩
    · exact ⟨rfl, deliver_refused reply (hok e) (hacc e)⟩
    · exact ⟨rfl, deliver_sent _ _ _⟩
  · rintro message request reply rfl s
    refine ⟨_, _, rfl, ?_⟩
    simp only [id_eq, remoteKeystore, if_neg hES.symm, if_neg hDS.symm]
    rcases h (.sign badge key (Crates.decode_sign_request request)) s with ⟨e | signature, s'⟩
    · exact ⟨rfl, deliver_refused reply (hok e) (hacc e)⟩
    · exact ⟨rfl, deliver_sent _ _ _⟩

theorem remoteStore_relays (h : Handler Services σ) (badge : UInt64) (file : FileId) (status : StoreError → UInt16)
    (hok : ∀ e, status e ≠ Crates.fs_OK) (hacc : ∀ e, status e = Crates.fs_ACCESS ↔ to_fs_error_code e = .Access)
    (hops : Crates.OP_READ ≠ Crates.OP_WRITE) :
    RemoteFilesystem h badge file outsideChannel (remoteStore h badge file status) id := by
  constructor
  · intro reply s
    refine ⟨_, _, rfl, ?_⟩
    simp only [id_eq, remoteStore, if_true]
    rcases h (.read badge file (zeros MAX_BLOCK_LEN).val) s with ⟨⟨content, e | n⟩, s'⟩
    · cases e
      case FileEmpty => exact ⟨rfl, deliver_sent _ _ _⟩
      all_goals exact ⟨rfl, deliver_refused reply (hok _) (hacc _)⟩
    · exact ⟨rfl, deliver_sent _ _ _⟩
  · intro data reply hdata s
    refine ⟨_, _, rfl, ?_⟩
    simp only [id_eq, remoteStore, if_neg hops.symm]
    rcases h (.write badge file data) s with ⟨e | _, s'⟩
    · exact ⟨rfl, deliver_refused reply (hok e) (hacc e)⟩
    · exact ⟨rfl, deliver_sent _ _ _⟩

end Remote

/-! ## The reference services, remotely -/

theorem reference_signatureLen : SignatureLen reference := by
  intro badge key message s signature h
  unfold reference at h
  cases hb : mayWrite badge <;> simp only [hb] at h <;> cases h
  exact (zeros SIGNATURE_LEN).property

/-- One status for what is refused, one for what fails. -/
def keystoreStatus (e : KeystoreError) : UInt16 :=
  letI := lengthPrefixed
  if to_error_code e = .Access then 1 else 2

def storeStatus (e : StoreError) : UInt16 :=
  letI := lengthPrefixed
  if to_fs_error_code e = .Access then 1 else 2

theorem remoteKeystore_reference (badge : UInt64) (key : KeyId) :
    letI := lengthPrefixed
    RemoteKeystore reference badge key outsideChannel (remoteKeystore reference badge key keystoreStatus) id := by
  let _ := lengthPrefixed
  refine remoteKeystore_relays _ _ _ _ ?_ ?_ (by decide)
  · intro e
    unfold keystoreStatus
    split <;> decide
  · intro e
    unfold keystoreStatus
    split
    · next h => exact ⟨fun _ => h, fun _ => rfl⟩
    · next h => exact ⟨fun he => absurd he (by decide), fun he => absurd he h⟩

theorem remoteStore_reference (badge : UInt64) (file : FileId) :
    letI := lengthPrefixed
    RemoteFilesystem reference badge file outsideChannel (remoteStore reference badge file storeStatus) id := by
  let _ := lengthPrefixed
  refine remoteStore_relays _ _ _ _ ?_ ?_ (by decide)
  · intro e
    unfold storeStatus
    split <;> decide
  · intro e
    unfold storeStatus
    split
    · next h => exact ⟨fun _ => h, fun _ => rfl⟩
    · next h => exact ⟨fun he => absurd he (by decide), fun he => absurd he h⟩

/-! ## Simulation -/

section Refinement
variable [Crates]

/-- Served from `here` over `h` and from `there` over `g`, the calls get the same replies
and leave the same handles (or panic alike), and the service is in the same state. -/
def ServedAlike [Clocked E] (h : Handler Services σ) (g : Handler E τ) (view : τ → σ) (here : RuntimeState T Services)
    (there : RuntimeState T E) (cs : List GuestCall) (t : τ) : Prop :=
  OutcomeRel (fun x y => x.1.table = y.1.table ∧ x.2 = y.2) ((serve call cs here).run h (view t)).1
    ((serve call cs there).run g t).1 ∧
  view ((serve call cs there).run g t).2 = ((serve call cs here).run h (view t)).2

/-- States that agree but for related services are served alike. -/
theorem Twins.servedAlike [Clocked E] {h : Handler Services σ} {g : Handler E τ} {view : τ → σ} {ok : Entry → Prop}
    {here : RuntimeState T Services} {there : RuntimeState T E}
    (hv : Twins h g (fun s t => view t = s) ok here there) {cs : List GuestCall} (hcs : ∀ c ∈ cs, c ≠ .now) (t : τ) :
    ServedAlike h g view here there cs t := by
  have hsim := (call_sim T h g _ ok).serve (fun c hc hnow => absurd hnow (hcs c hc)) hv
  refine (hsim.mono ?_) (view t) t rfl
  intro x y hxy
  exact ⟨hxy.1.table.symm, hxy.2⟩

/-! ## One exchange -/

theorem exchange_run (channel : Channel E) (op : UInt16) (request reply : Bytes) :
    (IpcKeystore.exchange channel op request reply).run = channel.call op request reply >>= fun x =>
      match x.2 with
      | .error e => .ret (.error (.Channel e))
      | .ok (status, n) =>
        if status ≠ Crates.crypto_OK then .ret (.error (.RemoteDenied status))
        else slice_to x.1 n >>= fun b => .ret (.ok b) := by
  unfold IpcKeystore.exchange
  refine Eq.trans (Prog.bind_assoc (channel.call op request reply) _ _) ?_
  refine congrArg (channel.call op request reply >>= ·) (funext fun x => ?_)
  obtain ⟨b, e | ⟨status, n⟩⟩ := x
  · rfl
  · change ExceptT.run (if status ≠ Crates.crypto_OK then throw (.RemoteDenied status)
      else ((slice_to b n : Prog E Bytes) : ExceptT KeystoreError (Prog E) Bytes)) = _
    by_cases hs : status ≠ Crates.crypto_OK
    · simp only [if_pos hs]
      rfl
    · simp only [if_neg hs]
      rfl

section Exchange
variable {channel : Channel E} {g : Handler E τ} {t t' : τ} {op : UInt16} {request reply : Bytes}
  {r : Reply reply.length}

theorem exchange_sent {bytes : Bytes} (hr : (channel.call op request reply).run g t = (.ret r, t'))
    (hs : Sent Crates.crypto_OK bytes r) (hl : bytes.length ≤ reply.length) :
    (IpcKeystore.exchange channel op request reply).run.run g t = (.ret (.ok bytes), t') := by
  obtain ⟨h₁, h₂⟩ := hs hl
  have hn : bytes.length ≤ r.1.val.length := by rw [r.1.property]; exact hl
  rw [exchange_run, Prog.run_bind_ret _ _ hr, h₁]
  simp [slice_to_le hn, h₂]

theorem exchange_refused {code : ErrorCode} (hr : (channel.call op request reply).run g t = (.ret r, t'))
    (hs : Refused Crates.crypto_OK Crates.crypto_ACCESS code r) :
    ∃ e, (IpcKeystore.exchange channel op request reply).run.run g t = (.ret (.error e), t') ∧
      to_error_code e = code := by
  obtain ⟨status, n, h₁, hne, hacc⟩ := hs
  refine ⟨.RemoteDenied status, ?_, ?_⟩
  · rw [exchange_run, Prog.run_bind_ret _ _ hr, h₁]
    simp [hne]
  · by_cases h : status = Crates.crypto_ACCESS
    · simp [to_error_code, h, hacc.1 h]
    · cases code with
      | Access => exact absurd (hacc.2 rfl) h
      | Invalid => simp [to_error_code, h]

end Exchange

/-! ## The keystore -/

section Keystore
variable {h : Handler Services σ} {badge : UInt64} {key : KeyId} {channel : Channel E} {g : Handler E τ}
  {view : τ → σ}

theorem encrypt_relayed (hw : FaithfulWire) (hr : RemoteKeystore h badge key channel g view) (badge' : UInt64)
    (key' : KeyId) (nonce : Nonce) (aad buffer : WitList) :
    RelayedAs h g view (.encrypt badge key nonce aad buffer)
      (IpcKeystore.encrypt channel badge' key' nonce aad buffer) fun x y => encrypted x = encrypted y := by
  intro t
  -- The request is encoded into a buffer of exactly its size.
  have hsize := (zeros (4 + NONCE_LEN + 4 + aad.val.length + buffer.val.length)).property
  obtain ⟨hlen, hdec⟩ := hw.encrypt_request nonce aad buffer _ aad.property (Nat.le_of_eq hsize.symm)
  rw [show IpcKeystore.encrypt channel badge' key' nonce aad.val buffer.val = _ from
    request_ready hlen (Nat.le_of_eq hsize.symm) _ _]
  obtain ⟨reply, t', hcall, hview, hans⟩ := hr.encrypt nonce aad buffer _
    (zeros (4 + TAG_LEN + buffer.val.length)).val hdec t
  generalize h (.encrypt badge key nonce aad buffer) (view t) = ans at hview hans ⊢
  obtain ⟨⟨ciphertext, e | tag⟩, s'⟩ := ans
  · obtain ⟨e', hrun, hcode⟩ := exchange_refused hcall hans
    rw [Prog.run_bind_ret _ _ hrun]
    refine ⟨_, t', rfl, hview, ?_⟩
    simp only [encrypted, hcode]
  · obtain ⟨out, hout, hsent⟩ := hans
    obtain ⟨-, hreply⟩ := hw.encrypt_reply tag ciphertext out hout
    have hfit : encryptReplyLen ciphertext.val = (zeros (4 + TAG_LEN + buffer.val.length)).val.length := by
      rw [(zeros _).property, encryptReplyLen, ciphertext.property]
    rw [Prog.run_bind_ret _ _ (exchange_sent hcall hsent
      (Nat.le_trans (List.length_take_le _ _) (Nat.le_of_eq hfit)))]
    refine ⟨(ciphertext, .ok tag), t', ?_, hview, rfl⟩
    simp [hreply, ciphertext.property, copy_from_slice_eq]

theorem decrypt_relayed (hw : FaithfulWire) (hr : RemoteKeystore h badge key channel g view) (badge' : UInt64)
    (key' : KeyId) (nonce : Nonce) (aad buffer : WitList) (tag : Tag) :
    RelayedAs h g view (.decrypt badge key nonce aad buffer tag)
      (IpcKeystore.decrypt channel badge' key' nonce aad buffer tag) fun x y => decrypted x = decrypted y := by
  intro t
  -- As for `encrypt`, the buffer has exactly the size of the request.
  have hsize := (zeros (4 + NONCE_LEN + 4 + aad.val.length + 4 + TAG_LEN + buffer.val.length)).property
  obtain ⟨hlen, hdec⟩ := hw.decrypt_request nonce aad tag buffer _ aad.property (Nat.le_of_eq hsize.symm)
  rw [show IpcKeystore.decrypt channel badge' key' nonce aad.val buffer.val tag = _ from
    request_ready hlen (Nat.le_of_eq hsize.symm) _ _]
  obtain ⟨reply, t', hcall, hview, hans⟩ := hr.decrypt nonce aad tag buffer _ (zeros buffer.val.length).val hdec t
  generalize h (.decrypt badge key nonce aad buffer tag) (view t) = ans at hview hans ⊢
  obtain ⟨⟨plaintext, e | _⟩, s'⟩ := ans
  · obtain ⟨e', hrun, hcode⟩ := exchange_refused hcall hans
    rw [Prog.run_bind_ret _ _ hrun]
    refine ⟨_, t', rfl, hview, ?_⟩
    simp only [decrypted, hcode]
  · have hfit : (Crates.encode_decrypt_reply plaintext.val).length = (zeros buffer.val.length).val.length := by
      rw [hw.decrypt_reply_len, (zeros _).property, plaintext.property]
    rw [Prog.run_bind_ret _ _ (exchange_sent hcall hans (Nat.le_of_eq hfit))]
    refine ⟨(plaintext, .ok ()), t', ?_, hview, rfl⟩
    simp [hw.decrypt_reply, plaintext.property, copy_from_slice_eq]

theorem sign_relayed (hw : FaithfulWire) (hr : RemoteKeystore h badge key channel g view) (hs : SignatureLen h)
    (badge' : UInt64) (key' : KeyId) (message : WitList) :
    RelayedAs h g view (.sign badge key message) (IpcKeystore.sign channel badge' key' message)
      fun x y => signed x = signed y := by
  intro t
  obtain ⟨reply, t', hcall, hview, hans⟩ := hr.sign message _ (zeros SIGNATURE_LEN).val (hw.sign_request message.val) t
  have hlen := hs badge key message (view t)
  generalize h (.sign badge key message) (view t) = ans at hview hans hlen ⊢
  obtain ⟨e | signature, s'⟩ := ans
  · obtain ⟨e', hrun, hcode⟩ := exchange_refused hcall hans
    refine ⟨.error e', t', ?_, hview, ?_⟩
    · exact Prog.run_bind_ret _ _ hrun
    · simp only [signed, Except.mapError, hcode]
  · -- The reply buffer holds one signature, which is what the service returns.
    have hfit : (Crates.encode_sign_reply signature).length = (zeros SIGNATURE_LEN).val.length := by
      rw [hw.sign_reply_len, (zeros _).property, hlen signature rfl]
    refine ⟨.ok signature, t', ?_, hview, rfl⟩
    refine (Prog.run_bind_ret _ _ (exchange_sent hcall hans (Nat.le_of_eq hfit))).trans ?_
    simp [hw.sign_reply]

/-- Through every record of the one relationship, the remote is as good as the service. -/
theorem RemoteKeystore.sim (hw : FaithfulWire) (hr : RemoteKeystore h badge key channel g view) (hs : SignatureLen h)
    {ok : Entry → Prop} (hok : ∀ cap, ok (.key cap) → cap.badge = badge ∧ cap.key = key) :
    KeystoreSim h g (fun s t => view t = s) ok outsideKeystore (IpcKeystore.service channel) where
  encrypt cap hc nonce aad buffer := by
    obtain ⟨hb, hk⟩ := hok cap hc
    rw [hb, hk]
    exact (encrypt_relayed hw hr badge key nonce aad buffer).sim
  decrypt cap hc nonce aad buffer tag := by
    obtain ⟨hb, hk⟩ := hok cap hc
    rw [hb, hk]
    exact (decrypt_relayed hw hr badge key nonce aad buffer tag).sim
  sign cap hc message := by
    obtain ⟨hb, hk⟩ := hok cap hc
    rw [hb, hk]
    exact (sign_relayed hw hr hs badge key message).sim

end Keystore

/-- Over any number of slots, declined or holding the one badge and key, and whatever the
guest calls, `with_keystore` of a service and `with_keystore` of an `IpcKeystore` to a
remote of it reply alike and leave the same handles, and the service is in the same state. -/
theorem ipc_keystore_refines [Clocked E] (hw : FaithfulWire) (T : ResourceTable) (m : GrantManifest)
    (h : Handler Services σ) (hlen : SignatureLen h) (badge : UInt64) (key : KeyId) (channel : Channel E)
    (g : Handler E τ) (view : τ → σ) (hr : RemoteKeystore h badge key channel g view)
    (hm : ∀ cap, some cap ∈ m.keystore_keys → cap.badge = badge ∧ cap.key = key)
    (cs : List GuestCall) (hcs : ∀ c ∈ cs, c ≠ .now) (t : τ) :
    ServedAlike h g view ((RuntimeState.new m : RuntimeState T Services).with_keystore outsideKeystore)
      ((RuntimeState.new m : RuntimeState T E).with_keystore (IpcKeystore.service channel)) cs t := by
  let ok : Entry → Prop := fun x => ∀ cap, x = .key cap → cap.badge = badge ∧ cap.key = key
  have hks : KeystoreSim h g (fun s t => view t = s) ok outsideKeystore (IpcKeystore.service channel) :=
    hr.sim hw hlen fun cap hc => hc cap rfl
  have hm' : ∀ cap, some cap ∈ m.keystore_keys → ok (.key cap) := by
    intro cap hc cap' he
    cases he
    exact hm cap hc
  have hstart := Twins.attach (T := T) (.some hks) .none hm' (fun _ _ _ he => nomatch he)
  exact hstart.servedAlike hcs t

end Refinement

/-- Three slots, one of them granted, and a guest that encrypts through it, sends a nonce
that is too short, and goes on after a drop. -/
theorem ipc_keystore_refines_reference :
    letI := lengthPrefixed
    ServedAlike (T := slabTable Entry 4 (by decide)) reference
      (remoteKeystore reference 7 (.from_raw 3) keystoreStatus) id
      ((RuntimeState.new ⟨[none, some (.keystore_key 7 (.from_raw 3)), none], [], none⟩).with_keystore outsideKeystore)
      ((RuntimeState.new ⟨[none, some (.keystore_key 7 (.from_raw 3)), none], [], none⟩).with_keystore
        (IpcKeystore.service outsideChannel))
      [.keystoreOpen 1, .encrypt 0 ⟨List.replicate 24 9, by decide⟩ ⟨[4], by decide⟩ ⟨[1, 2], by decide⟩,
        .encrypt 0 ⟨[], by decide⟩ ⟨[], by decide⟩ ⟨[], by decide⟩, .keyDrop 0, .sign 0 ⟨[5], by decide⟩]
      (fun _ => none) := by
  let _ := lengthPrefixed
  refine ipc_keystore_refines lengthPrefixed_faithful _ _ reference reference_signatureLen 7 (.from_raw 3)
    outsideChannel _ id (remoteKeystore_reference 7 (.from_raw 3)) ?_ _ (by decide) _
  intro cap hc
  have hcap : cap = .keystore_key 7 (.from_raw 3) := by simpa using hc
  rw [hcap]
  exact ⟨rfl, rfl⟩

section Refinement
variable [Crates]

/-! ## The store -/

section Filesystem
variable {h : Handler Services σ} {badge : UInt64} {file : FileId} {channel : Channel E} {g : Handler E τ}
  {view : τ → σ}

theorem to_fs_error_code_refused {status : UInt16} {code : ErrorCode}
    (h : status = Crates.fs_ACCESS ↔ code = .Access) : to_fs_error_code (.RemoteCryptoDenied status) = code := by
  by_cases hs : status = Crates.fs_ACCESS
  · simp [to_fs_error_code, hs, h.1 hs]
  · cases code with
    | Access => exact absurd (h.2 rfl) hs
    | Invalid => simp [to_fs_error_code, hs]

theorem read_relayed (hr : RemoteFilesystem h badge file channel g view) (badge' : UInt64) (file' : FileId) :
    RelayedAs h g view (.read badge file (zeros MAX_BLOCK_LEN).val)
      (IpcFilesystem.read channel badge' file' (zeros MAX_BLOCK_LEN).val) fun x y => readBack x = readBack y := by
  intro t
  obtain ⟨reply, t', hcall, hview, hans⟩ := hr.read (zeros MAX_BLOCK_LEN).val t
  generalize h (.read badge file (zeros MAX_BLOCK_LEN).val) (view t) = ans at hview hans ⊢
  unfold IpcFilesystem.read
  rw [Prog.run_bind_ret _ _ hcall]
  obtain ⟨⟨content, e | n⟩, s'⟩ := ans
  · by_cases he : e = .FileEmpty
    -- The remote has no error for an empty file: it sends no bytes.
    · subst he
      obtain ⟨h₁, -⟩ := hans (Nat.zero_le _)
      refine ⟨(reply.1, .ok 0), t', ?_, hview, ?_⟩
      · simp [h₁]
      · simp [readBack]
    · have hans' : Refused Crates.fs_OK Crates.fs_ACCESS (to_fs_error_code e) reply := by
        cases e <;> first | exact hans | exact absurd rfl he
      obtain ⟨status, n, h₁, hne, hacc⟩ := hans'
      refine ⟨(reply.1, .error (.RemoteCryptoDenied status)), t', ?_, hview, ?_⟩
      · simp [h₁, hne]
      · change readBack (content, .error e) = readBack (reply.1, .error (.RemoteCryptoDenied status))
        rw [readBack_error he, readBack_error (by simp), to_fs_error_code_refused hacc]
  · -- A content never outgrows the buffer it is read into.
    have hfit : (content.val.take n).length ≤ (zeros MAX_BLOCK_LEN).val.length :=
      Nat.le_trans (List.length_take_le' _ _) (Nat.le_of_eq content.property)
    obtain ⟨h₁, h₂⟩ := hans hfit
    refine ⟨(reply.1, .ok (content.val.take n).length), t', ?_, hview, ?_⟩
    · simp [h₁]
    · simp only [readBack, h₂]

theorem write_relayed (hr : RemoteFilesystem h badge file channel g view) (badge' : UInt64) (file' : FileId)
    {data : Bytes} (hdata : data.length ≤ MAX_BLOCK_LEN) :
    RelayedAs h g view (.write badge file data) (IpcFilesystem.write channel badge' file' data)
      fun x y => written x = written y := by
  intro t
  obtain ⟨reply, t', hcall, hview, hans⟩ := hr.write data [] hdata t
  generalize h (.write badge file data) (view t) = ans at hview hans ⊢
  unfold IpcFilesystem.write
  rw [Prog.run_bind_ret _ _ hcall]
  obtain ⟨e | _, s'⟩ := ans
  · obtain ⟨status, n, h₁, hne, hacc⟩ := hans
    refine ⟨.error (.RemoteCryptoDenied status), t', ?_, hview, ?_⟩
    · simp [h₁, hne]
    · simp [written, Except.mapError, to_fs_error_code_refused hacc]
  · obtain ⟨h₁, -⟩ := hans (Nat.le_refl 0)
    refine ⟨.ok (), t', ?_, hview, rfl⟩
    simp [h₁]

theorem RemoteFilesystem.sim (hr : RemoteFilesystem h badge file channel g view) {ok : Entry → Prop}
    (hok : ∀ cap, ok (.file cap) → cap.badge = badge ∧ cap.file = file) :
    FilesystemSim h g (fun s t => view t = s) ok outsideFilesystem (IpcFilesystem.service channel) where
  read cap hc := by
    obtain ⟨hb, hf⟩ := hok cap hc
    rw [hb, hf]
    exact (read_relayed hr badge file).sim
  write cap hc data hdata := by
    obtain ⟨hb, hf⟩ := hok cap hc
    rw [hb, hf]
    exact (write_relayed hr badge file hdata).sim

end Filesystem

/-- The same of `with_filesystem` over a store and over an `IpcFilesystem` to a remote of it. -/
theorem ipc_filesystem_refines [Clocked E] (T : ResourceTable) (m : GrantManifest) (h : Handler Services σ)
    (badge : UInt64) (file : FileId) (channel : Channel E) (g : Handler E τ) (view : τ → σ)
    (hr : RemoteFilesystem h badge file channel g view)
    (hm : ∀ cap, some cap ∈ m.filesystem_files → cap.badge = badge ∧ cap.file = file)
    (cs : List GuestCall) (hcs : ∀ c ∈ cs, c ≠ .now) (t : τ) :
    ServedAlike h g view ((RuntimeState.new m : RuntimeState T Services).with_filesystem outsideFilesystem)
      ((RuntimeState.new m : RuntimeState T E).with_filesystem (IpcFilesystem.service channel)) cs t := by
  let ok : Entry → Prop := fun x => ∀ cap, x = .file cap → cap.badge = badge ∧ cap.file = file
  have hfs : FilesystemSim h g (fun s t => view t = s) ok outsideFilesystem (IpcFilesystem.service channel) :=
    hr.sim fun cap hc => hc cap rfl
  have hm' : ∀ cap, some cap ∈ m.filesystem_files → ok (.file cap) := by
    intro cap hc cap' he
    cases he
    exact hm cap hc
  have hstart := Twins.attach (T := T) .none (.some hfs) (fun _ _ _ he => nomatch he) hm'
  exact hstart.servedAlike hcs t

end Refinement

/-- The granted file is read before it was ever written, written, and read again. -/
theorem ipc_filesystem_refines_reference :
    letI := lengthPrefixed
    ServedAlike (T := slabTable Entry 4 (by decide)) reference
      (remoteStore reference 7 (.from_raw 3) storeStatus) id
      ((RuntimeState.new ⟨[], [some (.filesystem_file 7 (.from_raw 3)), none], none⟩).with_filesystem outsideFilesystem)
      ((RuntimeState.new ⟨[], [some (.filesystem_file 7 (.from_raw 3)), none], none⟩).with_filesystem
        (IpcFilesystem.service outsideChannel))
      [.filesystemOpen 0, .read 0, .write 0 ⟨[1, 2], by decide⟩, .read 0, .read 5] (fun _ => none) := by
  let _ := lengthPrefixed
  refine ipc_filesystem_refines _ _ reference 7 (.from_raw 3) outsideChannel _ id
    (remoteStore_reference 7 (.from_raw 3)) ?_ _ (by decide) _
  intro cap hc
  have hcap : cap = .filesystem_file 7 (.from_raw 3) := by simpa using hc
  rw [hcap]
  exact ⟨rfl, rfl⟩

end LanternRuntime.Host

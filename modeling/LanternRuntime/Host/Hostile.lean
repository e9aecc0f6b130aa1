import LanternRuntime.Host.Remote
import LanternRuntime.Host.Totality
/-!
# A peer that answers as it likes

The other side of a channel chooses status, length and bytes of its reply. Only
that the length is one of the reply buffer is `Channel::call`'s own promise.
`Atomic` is what the keystore methods make of any such reply: the buffer is
replaced as a whole or not at all, and every other reply is an error.
-/
open ProgLib

namespace LanternRuntime.Host

variable {E : Sig} {β : Type}

/-- The reported length is one of the reply buffer. -/
def Reply.Within {n : Nat} (x : Reply n) : Prop := ∀ status len, x.2 = .ok (status, len) → len ≤ n

section Crates
variable [Crates]

/-- An encoder succeeds on a buffer of the size the mapping computes for it, and stays inside. -/
structure SizedEncoders : Prop where
  encrypt_request : ∀ (nonce : Nonce) (aad plaintext out : Bytes), out.length = encryptRequestLen aad plaintext →
    ∃ len, (Crates.encode_encrypt_request nonce aad plaintext out).2 = some len ∧ len ≤ out.length
  decrypt_request : ∀ (nonce : Nonce) (aad : Bytes) (tag : Tag) (ciphertext out : Bytes),
    out.length = decryptRequestLen aad ciphertext →
    ∃ len, (Crates.encode_decrypt_request nonce aad tag ciphertext out).2 = some len ∧ len ≤ out.length

/-! ## One buffer -/

/-- What is left in the buffer and returned, when the reply was `x` and `decode` takes it apart. -/
structure Atomic (decode : Bytes → Option (β × Bytes)) (buffer : Bytes) {n : Nat} (x : Reply n)
    (y : Buf buffer.length × Except KeystoreError β) : Prop where
  kept : ∀ {e}, y.2 = .error e → y.1.val = buffer
  replaced : ∀ {t}, y.2 = .ok t →
    ∃ len, x.2 = .ok (Crates.crypto_OK, len) ∧ decode (x.1.val.take len) = some (t, y.1.val)
  failed : ∀ {e}, x.2 = .error e → y.2 = .error (.Channel e)
  denied : ∀ {status len}, x.2 = .ok (status, len) → status ≠ Crates.crypto_OK → y.2 = .error (.RemoteDenied status)
  malformed : ∀ {len}, x.2 = .ok (Crates.crypto_OK, len) →
    (∀ t text, decode (x.1.val.take len) = some (t, text) → text.length ≠ buffer.length) →
    y.2 = .error (.Channel .Malformed)
  accepted : ∀ {len t text}, x.2 = .ok (Crates.crypto_OK, len) → decode (x.1.val.take len) = some (t, text) →
    text.length = buffer.length → y.2 = .ok t

/-- The end of `encrypt` and `decrypt`: take the bytes apart and fill the buffer with the text. -/
def settle (decode : Bytes → Option (β × Bytes)) (buffer : Bytes) :
    Except KeystoreError Bytes → Prog E (Buf buffer.length × Except KeystoreError β)
  | .error e => .ret (.same buffer, .error e)
  | .ok reply => match decode reply with
    | none => .ret (.same buffer, .error (.Channel .Malformed))
    | some (t, text) =>
      if text.length ≠ buffer.length then .ret (.same buffer, .error (.Channel .Malformed))
      else copy_from_slice buffer text >>= fun out => .ret (out, .ok t)

omit [Crates] in
/-- A text of the right length fills the buffer; anything else leaves it and is malformed. -/
theorem settle_ok (decode : Bytes → Option (β × Bytes)) (buffer b : Bytes) :
    (∃ t text, ∃ h : text.length = buffer.length, decode b = some (t, text) ∧
      (settle decode buffer (.ok b) : Prog E _) = .ret (⟨text, h⟩, .ok t)) ∨
    ((∀ t text, decode b = some (t, text) → text.length ≠ buffer.length) ∧
      (settle decode buffer (.ok b) : Prog E _) = .ret (.same buffer, .error (.Channel .Malformed))) := by
  cases hdec : decode b with
  | none => exact .inr ⟨nofun, by simp [settle, hdec]⟩
  | some v =>
    obtain ⟨t, text⟩ := v
    by_cases hlen : text.length = buffer.length
    · exact .inl ⟨t, text, hlen, rfl, by simp [settle, hdec, hlen, copy_from_slice_eq]⟩
    · refine .inr ⟨?_, by simp [settle, hdec, hlen]⟩
      rintro t' text' ⟨⟩
      exact hlen

/-- An error that is the right one leaves the buffer as it was. -/
theorem atomic_error {decode : Bytes → Option (β × Bytes)} {buffer : Bytes} {n : Nat} {x : Reply n} {e : KeystoreError}
    (hfailed : ∀ e', x.2 = .error e' → e = .Channel e')
    (hdenied : ∀ status len, x.2 = .ok (status, len) → status ≠ Crates.crypto_OK → e = .RemoteDenied status)
    (hmalformed : ∀ len, x.2 = .ok (Crates.crypto_OK, len) → e = .Channel .Malformed ∧
      ∀ t text, decode (x.1.val.take len) = some (t, text) → text.length ≠ buffer.length) :
    Atomic decode buffer x (.same buffer, .error e) where
  kept _ := rfl
  replaced := nofun
  failed hx := congrArg Except.error (hfailed _ hx)
  denied hx hne := congrArg Except.error (hdenied _ _ hx hne)
  malformed hx _ := congrArg Except.error (hmalformed _ hx).1
  accepted hx hdec hlen := absurd hlen ((hmalformed _ hx).2 _ _ hdec)

/-- The exchange, seen from its reply. -/
def replied {n : Nat} (x : Reply n) : Prog E (Except KeystoreError Bytes) :=
  match x.2 with
  | .error e => .ret (.error (.Channel e))
  | .ok (status, len) =>
    if status ≠ Crates.crypto_OK then .ret (.error (.RemoteDenied status))
    else slice_to x.1 len >>= fun b => .ret (.ok b)

/-- Only an `OK` reply is taken apart; every other one is an error that says why. -/
theorem replied_cases {n : Nat} {x : Reply n} (hx : x.Within) :
    (∃ len, x.2 = .ok (Crates.crypto_OK, len) ∧ (replied x : Prog E _) = .ret (.ok (x.1.val.take len))) ∨
    ∃ e, (replied x : Prog E _) = .ret (.error e) ∧ (∀ e', x.2 = .error e' → e = .Channel e') ∧
      ∀ status len, x.2 = .ok (status, len) → status ≠ Crates.crypto_OK ∧ e = .RemoteDenied status := by
  obtain ⟨reply, e | ⟨status, len⟩⟩ := x
  · refine .inr ⟨.Channel e, rfl, ?_, nofun⟩
    rintro e' ⟨⟩
    rfl
  · by_cases hs : status = Crates.crypto_OK
    · subst hs
      have hle : len ≤ reply.val.length := by
        rw [reply.property]
        exact hx _ _ rfl
      exact .inl ⟨len, rfl, by simp [replied, slice_to_le hle]⟩
    · refine .inr ⟨.RemoteDenied status, by simp [replied, hs], nofun, ?_⟩
      rintro _ _ ⟨⟩
      exact ⟨hs, rfl⟩

/-- Whatever the reply, the rest of the method is atomic. -/
theorem replied_settles (decode : Bytes → Option (β × Bytes)) (buffer : Bytes) {n : Nat} {x : Reply n} (hx : x.Within) :
    ∃ y, Atomic decode buffer x y ∧ (replied x >>= settle decode buffer : Prog E _) = .ret y := by
  rcases replied_cases (E := E) hx with ⟨len, hok, heq⟩ | ⟨e, heq, hfailed, hdenied⟩
  · rw [heq, Prog.ret_bind]
    rcases settle_ok (E := E) decode buffer (x.1.val.take len) with ⟨t, text, hlen, hdec, heq'⟩ | ⟨hno, heq'⟩
    · refine ⟨(⟨text, hlen⟩, .ok t), ⟨nofun, ?_, ?_, ?_, ?_, ?_⟩, heq'⟩
      · rintro _ ⟨⟩
        exact ⟨len, hok, hdec⟩
      · intro _ hx'
        cases hok.symm.trans hx'
      · intro _ _ hx' hne
        cases hok.symm.trans hx'
        exact absurd rfl hne
      · intro _ hx' hno
        cases hok.symm.trans hx'
        exact absurd hlen (hno t text hdec)
      · intro _ t' text' hx' hdec' _
        cases hok.symm.trans hx'
        cases hdec.symm.trans hdec'
        rfl
    · refine ⟨_, atomic_error (e := .Channel .Malformed) ?_ ?_ ?_, heq'⟩
      · intro _ hx'
        cases hok.symm.trans hx'
      · intro _ _ hx' hne
        cases hok.symm.trans hx'
        exact absurd rfl hne
      · intro _ hx'
        cases hok.symm.trans hx'
        exact ⟨rfl, hno⟩
  · rw [heq, Prog.ret_bind]
    refine ⟨_, atomic_error hfailed (fun status len hx' _ => (hdenied status len hx').2) ?_, rfl⟩
    intro len hx'
    exact absurd rfl (hdenied _ len hx').1

/-! ## The methods, seen from their reply -/

/-- `decode_decrypt_reply` never fails, and carries no tag. -/
def decode_plaintext (reply : Bytes) : Option (Unit × Bytes) := some ((), Crates.decode_decrypt_reply reply)

section Methods
variable (hw : SizedEncoders) (channel : Channel E) (badge : UInt64) (key : KeyId) (nonce : Nonce) (aad buffer : Bytes)
include hw

/-- `encrypt` makes one call, of a request that only its arguments determine. -/
theorem encrypt_eq : ∃ request, IpcKeystore.encrypt channel badge key nonce aad buffer =
    channel.call Crates.OP_ENCRYPT request (zeros (4 + TAG_LEN + buffer.length)).val >>= fun x =>
      replied x >>= settle Crates.decode_encrypt_reply buffer := by
  obtain ⟨len, hlen, hle⟩ := hw.encrypt_request nonce aad buffer _ (zeros (encryptRequestLen aad buffer)).property
  refine ⟨(Crates.encode_encrypt_request nonce aad buffer
    (zeros (encryptRequestLen aad buffer)).val).1.val.take len, ?_⟩
  rw [show IpcKeystore.encrypt channel badge key nonce aad buffer = _ from request_ready hlen hle _ _, exchange_run,
    Prog.bind_assoc]
  refine congrArg (channel.call Crates.OP_ENCRYPT _ _ >>= ·) (funext fun x => ?_)
  refine congrArg (replied x >>= ·) (funext fun result => ?_)
  rcases result with e | reply
  · rfl
  · dsimp only [settle]
    cases Crates.decode_encrypt_reply reply <;> rfl

theorem decrypt_eq (tag : Tag) : ∃ request, IpcKeystore.decrypt channel badge key nonce aad buffer tag =
    channel.call Crates.OP_DECRYPT request (zeros buffer.length).val >>= fun x =>
      replied x >>= settle decode_plaintext buffer := by
  obtain ⟨len, hlen, hle⟩ := hw.decrypt_request nonce aad tag buffer _ (zeros (decryptRequestLen aad buffer)).property
  refine ⟨(Crates.encode_decrypt_request nonce aad tag buffer
    (zeros (decryptRequestLen aad buffer)).val).1.val.take len,
    ?_⟩
  rw [show IpcKeystore.decrypt channel badge key nonce aad buffer tag = _ from request_ready hlen hle _ _, exchange_run,
    Prog.bind_assoc]
  refine congrArg (channel.call Crates.OP_DECRYPT _ _ >>= ·) (funext fun x => ?_)
  refine congrArg (replied x >>= ·) (funext fun result => ?_)
  rcases result with e | reply <;> rfl

omit hw in
theorem sign_eq (message : Bytes) : IpcKeystore.sign channel badge key message =
    channel.call Crates.OP_SIGN (Crates.encode_sign_request message) (zeros SIGNATURE_LEN).val >>= fun x =>
      replied x >>= fun result => .ret (result.map Crates.decode_sign_reply) := by
  dsimp only [IpcKeystore.sign]
  rw [exchange_run, Prog.bind_assoc]
  refine congrArg (channel.call Crates.OP_SIGN _ _ >>= ·) (funext fun x => ?_)
  refine congrArg (replied x >>= ·) (funext fun result => ?_)
  rcases result with e | reply <;> rfl

end Methods

/-- What the methods of `IpcFilesystem` make of a reply. -/
def fs_replied : Except ChannelError (UInt16 × Nat) → Except StoreError Nat
  | .error e => .error (.Channel e)
  | .ok (status, len) => if status ≠ Crates.fs_OK then .error (.RemoteCryptoDenied status) else .ok len

section Filesystem
variable (channel : Channel E) (badge : UInt64) (file : FileId)

theorem read_eq (buffer : Bytes) : IpcFilesystem.read channel badge file buffer =
    channel.call Crates.OP_READ [] buffer >>= fun x => .ret (x.1, fs_replied x.2) := by
  refine congrArg (channel.call Crates.OP_READ [] buffer >>= ·) (funext fun x => ?_)
  obtain ⟨out, e | ⟨status, len⟩⟩ := x
  · rfl
  · by_cases hs : status = Crates.fs_OK <;> simp [fs_replied, hs]

theorem write_eq (data : Bytes) : IpcFilesystem.write channel badge file data =
    channel.call Crates.OP_WRITE data [] >>= fun x => .ret ((fs_replied x.2).map fun _ => ()) := by
  refine congrArg (channel.call Crates.OP_WRITE data [] >>= ·) (funext fun x => ?_)
  obtain ⟨out, e | ⟨status, len⟩⟩ := x
  · rfl
  · by_cases hs : status = Crates.fs_OK <;> simp [fs_replied, hs, Except.map]

end Filesystem

/-! ## Guest calls on live handles -/

section Calls
variable {T : ResourceTable} [Clocked E] {st : RuntimeState T E} {channel : Channel E}

theorem call_sign {key : Handle} {message : WitList} {cap : HostCapability}
    (hget : T.get st.table key = some (.key cap)) (hks : st.keystore = some (IpcKeystore.service channel)) :
    call st (.sign key message) =
      channel.call Crates.OP_SIGN (Crates.encode_sign_request message) (zeros SIGNATURE_LEN).val >>= fun x =>
        replied x >>= fun result => .ret (st, .bytes (signed (result.map Crates.decode_sign_reply))) := by
  have hcap : st.keystore_cap key = .ok cap := by rw [RuntimeState.keystore_cap, hget]
  have hbackend : st.keystore_backend = .ok (IpcKeystore.service channel) := by
    rw [RuntimeState.keystore_backend, hks]
    rfl
  simp only [call, keystore.sign_run, hcap, hbackend, IpcKeystore.service, sign_eq, Prog.bind_assoc, Prog.ret_bind,
    Prog.pure_eq]

theorem call_read {file : Handle} {cap : HostFile} (hget : T.get st.table file = some (.file cap))
    (hfs : st.filesystem = some (IpcFilesystem.service channel)) :
    call st (.read file) = channel.call Crates.OP_READ [] (zeros MAX_BLOCK_LEN).val >>= fun x =>
      .ret (st, .bytes (readBack (x.1, fs_replied x.2))) := by
  have hcap : st.file_cap file = .ok cap := by rw [RuntimeState.file_cap, hget]
  have hbackend : st.filesystem_backend = .ok (IpcFilesystem.service channel) := by
    rw [RuntimeState.filesystem_backend, hfs]
    rfl
  simp only [call, filesystem.read_run, hcap, hbackend, IpcFilesystem.service, read_eq, Prog.bind_assoc, Prog.ret_bind,
    Prog.pure_eq]

theorem call_write {file : Handle} {data : WitList} {cap : HostFile} (hget : T.get st.table file = some (.file cap))
    (hfs : st.filesystem = some (IpcFilesystem.service channel)) (hdata : data.val.length ≤ MAX_BLOCK_LEN) :
    call st (.write file data) = channel.call Crates.OP_WRITE data [] >>= fun x =>
      .ret (st, .written (written ((fs_replied x.2).map fun _ => ()))) := by
  have hcap : st.file_cap file = .ok cap := by rw [RuntimeState.file_cap, hget]
  have hbackend : st.filesystem_backend = .ok (IpcFilesystem.service channel) := by
    rw [RuntimeState.filesystem_backend, hfs]
    rfl
  simp only [call, filesystem.write_run, hcap, hbackend, if_neg (Nat.not_lt.2 hdata), IpcFilesystem.service, write_eq,
    Prog.bind_assoc, Prog.ret_bind, Prog.pure_eq]

end Calls

omit [Crates] in
/-- A call of the outside channel, and what the method makes of the reply. -/
theorem runs_channel {α : Type} {op : UInt16} {request reply : Bytes} {f : Reply reply.length → Prog Ipc α}
    {tr : List (Event Ipc)} {o : Outcome α} (h : Runs (outsideChannel.call op request reply >>= f) tr o) :
    ∃ (x : Reply reply.length) (tr' : List (Event Ipc)), tr = ⟨.channel op request reply, x⟩ :: tr' ∧
      Runs (f x) tr' o :=
  runs_call.1 h

end Crates

/-- `Channel::call` keeps to the reply buffer. -/
def KeepsReply (e : Event Ipc) : Prop :=
  match e with
  | ⟨.channel _ _ reply, x⟩ => Reply.Within (n := reply.length) x
  | _ => True

/-- The method made one call of the channel, and was atomic given its reply. -/
def AtomicRun [Crates] (op : UInt16) (decode : Bytes → Option (β × Bytes)) (buffer : Bytes) (tr : List (Event Ipc))
    (o : Outcome (Buf buffer.length × Except KeystoreError β)) : Prop :=
  ∃ (request reply : Bytes) (x : Reply reply.length) (y : Buf buffer.length × Except KeystoreError β),
    tr = [⟨.channel op request reply, x⟩] ∧ o = .ret y ∧ Atomic decode buffer x y

/-- For all arguments, and every reply of the peer: neither method panics, and both are atomic. -/
theorem ipc_keystore_atomic [Crates] (hw : SizedEncoders) (badge : UInt64) (key : KeyId) (nonce : Nonce)
    (aad buffer : Bytes) (tag : Tag) :
    (∀ tr o, Runs (IpcKeystore.encrypt outsideChannel badge key nonce aad buffer) tr o → (∀ e ∈ tr, KeepsReply e) →
      AtomicRun Crates.OP_ENCRYPT Crates.decode_encrypt_reply buffer tr o) ∧
    ∀ tr o, Runs (IpcKeystore.decrypt outsideChannel badge key nonce aad buffer tag) tr o → (∀ e ∈ tr, KeepsReply e) →
      AtomicRun Crates.OP_DECRYPT decode_plaintext buffer tr o := by
  constructor
  · intro tr o hr hkeeps
    obtain ⟨request, heq⟩ := encrypt_eq hw outsideChannel badge key nonce aad buffer
    rw [heq] at hr
    obtain ⟨x, tr', rfl, hr'⟩ := runs_channel hr
    obtain ⟨y, hatomic, hy⟩ := replied_settles (E := Ipc) Crates.decode_encrypt_reply buffer
      (hkeeps _ List.mem_cons_self : x.Within)
    rw [hy] at hr'
    obtain ⟨rfl, rfl⟩ := runs_ret.1 hr'
    exact ⟨request, _, x, y, rfl, rfl, hatomic⟩
  · intro tr o hr hkeeps
    obtain ⟨request, heq⟩ := decrypt_eq hw outsideChannel badge key nonce aad buffer tag
    rw [heq] at hr
    obtain ⟨x, tr', rfl, hr'⟩ := runs_channel hr
    obtain ⟨y, hatomic, hy⟩ := replied_settles (E := Ipc) decode_plaintext buffer
      (hkeeps _ List.mem_cons_self : x.Within)
    rw [hy] at hr'
    obtain ⟨rfl, rfl⟩ := runs_ret.1 hr'
    exact ⟨request, _, x, y, rfl, rfl, hatomic⟩

/-! ## A codec that keeps the assumption -/

theorem lengthPrefixed_sized : @SizedEncoders lengthPrefixed := by
  apply @SizedEncoders.mk lengthPrefixed
  case encrypt_request =>
    intro nonce aad plaintext out hout
    have hlen : (putField nonce.val ++ (putField aad ++ plaintext)).length = encryptRequestLen aad plaintext := by
      simp [encryptRequestLen, nonce.property]; omega
    exact ⟨_, (writeFront_fits hlen (Nat.le_of_eq hout.symm)).1, Nat.le_of_eq hout.symm⟩
  case decrypt_request =>
    intro nonce aad tag ciphertext out hout
    have hlen : (putField nonce.val ++ (putField aad ++ (putField tag.val ++ ciphertext))).length =
        decryptRequestLen aad ciphertext := by
      simp [decryptRequestLen, nonce.property, tag.property]; omega
    exact ⟨_, (writeFront_fits hlen (Nat.le_of_eq hout.symm)).1, Nat.le_of_eq hout.symm⟩

/-- A peer that answers every request with `OK` and no bytes. -/
def truncating [Crates] : Handler Ipc Unit
  | .channel _ _ reply, s => ((.same reply, .ok (Crates.crypto_OK, 0)), s)
  | .now_ns _, s => ((0 : UInt64), s)

theorem truncating_keepsReply [Crates] {α : Type} (p : Prog Ipc α) : ∀ e ∈ p.trace truncating (), KeepsReply e := by
  induction p with
  | ret | panic => exact nofun
  | call c k ih =>
    intro e he
    rcases List.mem_cons.1 he with rfl | he
    · cases c with
      | channel op request reply =>
        rintro _ _ ⟨⟩
        exact Nat.zero_le _
      | now_ns => trivial
    · exact ih _ e he

/-- Two bytes are encrypted and decrypted through a peer that sends none back. -/
theorem ipc_keystore_atomic_truncated :
    letI := lengthPrefixed
    let encrypt := IpcKeystore.encrypt outsideChannel 7 ⟨3⟩ (zeros NONCE_LEN) [] [1, 2]
    let decrypt := IpcKeystore.decrypt outsideChannel 7 ⟨3⟩ (zeros NONCE_LEN) [] [1, 2] (zeros TAG_LEN)
    AtomicRun Crates.OP_ENCRYPT Crates.decode_encrypt_reply [1, 2] (encrypt.trace truncating ())
      (encrypt.run truncating ()).1 ∧
    AtomicRun Crates.OP_DECRYPT decode_plaintext [1, 2] (decrypt.trace truncating ())
      (decrypt.run truncating ()).1 := by
  let _ := lengthPrefixed
  have h := ipc_keystore_atomic lengthPrefixed_sized 7 ⟨3⟩ (zeros NONCE_LEN) [] [1, 2] (zeros TAG_LEN)
  exact ⟨h.1 _ _ (runs_run _ _ _) (truncating_keepsReply _), h.2 _ _ (runs_run _ _ _) (truncating_keepsReply _)⟩

end LanternRuntime.Host

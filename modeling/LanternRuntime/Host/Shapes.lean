import LanternRuntime.Host.Hostile
import LanternRuntime.Host.Routing
/-!
# The shapes of replies

What `host.wit` promises about the length of a successful reply, for backends
over a channel whose peer answers as it likes. `sign` is the one method that
does not look at the length it is given.
-/
open ProgLib

namespace LanternRuntime.Host

section Promises
variable [Crates]

/-! ## Backends over the channel -/

omit [Crates] in
theorem returns_channel {α : Type} {Q : α → Prop} {op : UInt16} {request reply : Bytes}
    {f : Reply reply.length → Prog Ipc α} (h : ∀ x : Reply reply.length, x.Within → Returns KeepsReply Q (f x)) :
    Returns KeepsReply Q (outsideChannel.call op request reply >>= f) :=
  h

theorem sign_returns (badge : UInt64) (key : KeyId) (message : Bytes) :
    Returns KeepsReply (fun _ => True) (IpcKeystore.sign outsideChannel badge key message) := by
  rw [sign_eq]
  refine returns_channel fun x hx => ?_
  rcases replied_cases (E := Ipc) hx with ⟨len, -, heq⟩ | ⟨e, heq, -⟩ <;> rw [heq] <;> trivial

theorem ipcKeystore_total (hw : SizedEncoders) : (IpcKeystore.service outsideChannel).Total KeepsReply where
  encrypt badge key nonce aad buffer := by
    obtain ⟨request, heq⟩ := encrypt_eq hw outsideChannel badge key nonce aad buffer
    dsimp only [IpcKeystore.service]
    rw [heq]
    refine returns_channel fun x hx => ?_
    obtain ⟨y, -, hy⟩ := replied_settles (E := Ipc) Crates.decode_encrypt_reply buffer hx
    rw [hy]
    trivial
  decrypt badge key nonce aad buffer tag := by
    obtain ⟨request, heq⟩ := decrypt_eq hw outsideChannel badge key nonce aad buffer tag
    dsimp only [IpcKeystore.service]
    rw [heq]
    refine returns_channel fun x hx => ?_
    obtain ⟨y, -, hy⟩ := replied_settles (E := Ipc) decode_plaintext buffer hx
    rw [hy]
    trivial
  sign := sign_returns

theorem ipcFilesystem_total : (IpcFilesystem.service outsideChannel).Total KeepsReply where
  read badge file buffer := by
    rintro ⟨buffer', e | ⟨status, len⟩⟩ -
    · trivial
    · change Returns _ _ (if status ≠ Crates.fs_OK then _ else _)
      split <;> trivial
  write badge file data := by
    rintro ⟨_, e | ⟨status, len⟩⟩ -
    · trivial
    · change Returns _ _ (if status ≠ Crates.fs_OK then _ else _)
      split <;> trivial

/-! ## Shapes of replies -/

/-- A successful reply has the shape that `host.wit` gives it, and a file's content is what
was received. -/
def Shaped : GuestCall → GuestReply → List (Event Ipc) → Prop
  | .encrypt _ _ _ plaintext, .encrypted (.ok (ciphertext, tag)), _ =>
    ciphertext.length = plaintext.val.length ∧ tag.length = TAG_LEN
  | .decrypt _ _ _ ciphertext _, .bytes (.ok plaintext), _ => plaintext.length = ciphertext.val.length
  | .sign _ _, .bytes (.ok signature), _ => signature.length = SIGNATURE_LEN
  | .read _, .bytes (.ok content), tr => content.length ≤ MAX_BLOCK_LEN ∧
    ∃ (x : Reply (zeros MAX_BLOCK_LEN).val.length) (len : Nat),
      tr = [⟨.channel Crates.OP_READ [] (zeros MAX_BLOCK_LEN).val, x⟩] ∧ x.2 = .ok (Crates.fs_OK, len) ∧
      content = x.1.val.take len
  | _, _, _ => True

/-- A `sign` whose `OK` reply does not carry as many bytes as a signature has. -/
def OddSignature (c : GuestCall) (tr : List (Event Ipc)) : Prop :=
  ∃ (key : Handle) (message : WitList) (request reply : Bytes) (x : Reply reply.length) (len : Nat),
    c = .sign key message ∧ tr = [⟨.channel Crates.OP_SIGN request reply, x⟩] ∧ x.2 = .ok (Crates.crypto_OK, len) ∧
      (Crates.decode_sign_reply (x.1.val.take len)).length ≠ SIGNATURE_LEN

theorem shaped_fail (c : GuestCall) (e : ErrorCode) (tr : List (Event Ipc)) : Shaped c (c.fail e) tr := by
  cases c <;> trivial

theorem oddSignature_of_ne {c : GuestCall} (h : ∀ key message, c ≠ .sign key message) (tr : List (Event Ipc)) :
    ¬ OddSignature c tr := by
  rintro ⟨key, message, -, -, -, -, rfl, -⟩
  exact h key message rfl

theorem oddSignature_nil {c : GuestCall} : ¬ OddSignature c [] := by
  rintro ⟨_, _, _, _, _, _, _, h, _⟩
  cases h

section Served
variable {T : ResourceTable} {st : RuntimeState T Ipc} {c : GuestCall} {r : GuestReply} {tr : List (Event Ipc)}

/-- A signature is handed on in whatever length it came. -/
theorem sign_shaped (key : Handle) (message : WitList) (badge : UInt64) (id : KeyId)
    (hr : Runs (IpcKeystore.sign outsideChannel badge id message >>= fun x => .ret (.bytes (signed x))) tr (.ret r))
    (hkeeps : ∀ e ∈ tr, KeepsReply e) :
    Shaped (.sign key message) r tr ↔ ¬ OddSignature (.sign key message) tr := by
  rw [sign_eq, Prog.bind_assoc] at hr
  obtain ⟨x, tr', rfl, hr'⟩ := runs_channel hr
  have hx : x.Within := hkeeps _ List.mem_cons_self
  rcases replied_cases (E := Ipc) hx with ⟨len, hok, heq⟩ | ⟨e, heq, -, hdenied⟩
  · rw [heq] at hr'
    obtain ⟨rfl, he⟩ := runs_ret.1 hr'
    cases he
    change (Crates.decode_sign_reply (x.1.val.take len)).length = SIGNATURE_LEN ↔ _
    constructor
    · rintro hlen ⟨_, _, _, _, x', len', -, htr, hok', hodd⟩
      cases htr
      cases hok.symm.trans hok'
      exact hodd hlen
    · intro hno
      by_contra hodd
      exact hno ⟨key, message, _, _, x, len, rfl, rfl, hok, hodd⟩
  · rw [heq] at hr'
    obtain ⟨rfl, he⟩ := runs_ret.1 hr'
    cases he
    refine iff_of_true trivial ?_
    rintro ⟨_, _, _, _, x', len', -, htr, hok', -⟩
    cases htr
    exact (hdenied _ _ hok').1 rfl

/-- A file's content is as long as the remote said, and that is at most the buffer. -/
theorem read_shaped (file : Handle) (badge : UInt64) (id : FileId)
    (hr : Runs (IpcFilesystem.read outsideChannel badge id (zeros MAX_BLOCK_LEN).val >>= fun x =>
      .ret (.bytes (readBack x))) tr (.ret r)) (hkeeps : ∀ e ∈ tr, KeepsReply e) : Shaped (.read file) r tr := by
  obtain ⟨y, hread, rfl⟩ := runs_bind_ret.1 hr
  obtain ⟨⟨out, e | ⟨status, len⟩⟩, tr', rfl, hr'⟩ := runs_channel hread
  · obtain ⟨-, he⟩ := runs_ret.1 hr'
    cases he
    trivial
  · have hlen : len ≤ MAX_BLOCK_LEN := (zeros MAX_BLOCK_LEN).property ▸ hkeeps _ List.mem_cons_self status len rfl
    dsimp only at hr'
    split at hr'
    · obtain ⟨-, he⟩ := runs_ret.1 hr'
      cases he
      trivial
    · next hs =>
      obtain ⟨rfl, he⟩ := runs_ret.1 hr'
      cases he
      refine ⟨Nat.le_trans (List.length_take_le _ _) hlen, (out, .ok (status, len)), len, rfl, ?_, rfl⟩
      rw [not_ne_iff.1 hs]

theorem Serves.shaped {p : Prog Ipc GuestReply} (hs : Serves st c p)
    (hks : st.keystore = some (IpcKeystore.service outsideChannel))
    (hfs : st.filesystem = some (IpcFilesystem.service outsideChannel))
    (hr : Runs p tr (.ret r)) (hkeeps : ∀ e ∈ tr, KeepsReply e) : Shaped c r tr ↔ ¬ OddSignature c tr := by
  cases hs with
  | dead | malformed | unattached =>
    obtain ⟨rfl, he⟩ := runs_ret.1 hr
    cases he
    exact iff_of_true (shaped_fail ..) oddSignature_nil
  | encrypt =>
    refine iff_of_true ?_ (oddSignature_of_ne (by rintro _ _ ⟨⟩) tr)
    obtain ⟨⟨text, _ | tag⟩, -, rfl⟩ := runs_bind_ret.1 hr
    · trivial
    · exact ⟨text.property, tag.property⟩
  | decrypt =>
    refine iff_of_true ?_ (oddSignature_of_ne (by rintro _ _ ⟨⟩) tr)
    obtain ⟨⟨text, _ | _⟩, -, rfl⟩ := runs_bind_ret.1 hr
    · trivial
    · exact text.property
  | @sign _ _ cap _ _ hb =>
    cases hks.symm.trans hb
    exact sign_shaped _ _ cap.badge cap.key hr hkeeps
  | @read _ cap _ _ hb =>
    cases hfs.symm.trans hb
    refine iff_of_true ?_ (oddSignature_of_ne (by rintro _ _ ⟨⟩) tr)
    exact read_shaped _ cap.badge cap.file hr hkeeps
  | write =>
    refine iff_of_true ?_ (oddSignature_of_ne (by rintro _ _ ⟨⟩) tr)
    obtain ⟨x, -, rfl⟩ := runs_bind_ret.1 hr
    trivial
  | now =>
    refine iff_of_true ?_ (oddSignature_of_ne (by rintro _ _ ⟨⟩) tr)
    trivial
  | resolution => exact iff_of_true trivial (oddSignature_of_ne (by rintro _ _ ⟨⟩) tr)
  | unclocked => cases (runs_panic.1 hr).2

omit [Crates] in
theorem clock_returns (f : FnPtr) : Returns KeepsReply (fun _ => True) (Clocked.callFn f : Prog Ipc UInt64) :=
  fun _ _ => trivial

/-- No `sign` panics. -/
theorem sign_call_returns (key : Handle) (message : WitList)
    (hks : st.keystore = some (IpcKeystore.service outsideChannel)) :
    Returns KeepsReply (fun _ => True) (call st (.sign key message)) := by
  obtain ⟨p, hs, heq⟩ := serves_of st (c := .sign key message) rfl
  rw [heq]
  refine Returns.bind (Q := fun _ => True) ?_ fun _ _ => trivial
  cases hs with
  | dead | malformed | unattached => trivial
  | @sign _ _ cap _ _ hb =>
    cases hks.symm.trans hb
    exact (sign_returns cap.badge cap.key message).bind fun _ _ => trivial
  | unclocked hc => rcases hc with h | h <;> cases h

/-- With both backends over the channel, a reply has its shape whatever the peer sent, except
where it sent an odd signature. No key or file operation panics. -/
theorem replies_keep_shape {o : Outcome (RuntimeState T Ipc × GuestReply)}
    (hks : st.keystore = some (IpcKeystore.service outsideChannel))
    (hfs : st.filesystem = some (IpcFilesystem.service outsideChannel))
    (hr : Runs (call st c) tr o) (hkeeps : ∀ e ∈ tr, KeepsReply e) :
    ((∀ st' r, o = .ret (st', r) → Shaped c r tr) ↔ ¬ OddSignature c tr) ∧
    (SizedEncoders → ∀ i h, c.handle? = some (i, h) → ∃ st' r, o = .ret (st', r)) := by
  refine ⟨?_, fun hw i h hh => ?_⟩
  · by_cases hop : c.isOperation = true
    · obtain ⟨p, hs, heq⟩ := serves_of st hop
      cases o with
      | ret x =>
        obtain ⟨st', r⟩ := x
        have hr' := hr
        rw [heq] at hr'
        obtain ⟨r', hp, he⟩ := runs_bind_ret.1 hr'
        cases he
        constructor
        · exact fun hshaped => (hs.shaped hks hfs hp hkeeps).1 (hshaped _ _ rfl)
        · rintro hno st' r' ⟨⟩
          exact (hs.shaped hks hfs hp hkeeps).2 hno
      | panic msg =>
        refine iff_of_true nofun ?_
        rintro ⟨key, message, _, _, _, _, rfl, -⟩
        obtain ⟨_, he, -⟩ := (sign_call_returns key message hks).runs hr hkeeps
        cases he
    · -- Opens and drops have no result of another shape.
      cases c with
      | keystoreOpen | filesystemOpen | keyDrop | fileDrop =>
        exact iff_of_true (fun _ _ _ => trivial) (oddSignature_of_ne (by rintro _ _ ⟨⟩) tr)
      | _ => exact absurd rfl hop
  · have hst : st.Total KeepsReply := by
      constructor
      · intro backend hb
        cases hks.symm.trans hb
        exact ipcKeystore_total hw
      · intro backend hb
        cases hfs.symm.trans hb
        exact ipcFilesystem_total
    obtain ⟨⟨st', r⟩, rfl, -⟩ := (call_returns hst clock_returns (by rintro (rfl | rfl) <;> cases hh)).runs hr hkeeps
    exact ⟨st', r, rfl⟩

end Served
end Promises
/-- The granted key opened, with both backends over the channel. -/
def keyOverIpc [Crates] : RuntimeState (slabTable Entry 1 (by decide)) Ipc :=
  (keystore.open (.attach oneKey (some (IpcKeystore.service outsideChannel))
    (some (IpcFilesystem.service outsideChannel))) 1).1

/-- The peer answers an `encrypt` with nothing, which is an error and not an empty ciphertext. -/
theorem replies_keep_shape_truncated :
    letI := lengthPrefixed
    let c : GuestCall := .encrypt 0 ⟨(zeros NONCE_LEN).val, by decide⟩ ⟨[], by decide⟩ ⟨[1, 2], by decide⟩
    let served := call keyOverIpc c
    ((∀ st r, (served.run truncating ()).1 = .ret (st, r) → Shaped c r (served.trace truncating ())) ↔
      ¬ OddSignature c (served.trace truncating ())) ∧
    (SizedEncoders → ∀ i h, c.handle? = some (i, h) → ∃ st r, (served.run truncating ()).1 = .ret (st, r)) := by
  let _ := lengthPrefixed
  exact replies_keep_shape rfl rfl (runs_run _ _ _) (truncating_keepsReply _)

/-- The peer answers a `sign` with nothing, and the guest is handed an empty signature. -/
theorem empty_signature_accepted :
    letI := lengthPrefixed
    let c : GuestCall := .sign 0 ⟨[1, 2], by decide⟩
    let tr : List (Event Ipc) := [⟨.channel Crates.OP_SIGN [1, 2] (zeros SIGNATURE_LEN).val,
      (.same (zeros SIGNATURE_LEN).val, .ok (Crates.crypto_OK, 0))⟩]
    keyOverIpc.keystore = some (IpcKeystore.service outsideChannel) ∧
    keyOverIpc.filesystem = some (IpcFilesystem.service outsideChannel) ∧
    (∀ e ∈ tr, KeepsReply e) ∧
    Runs (call keyOverIpc c) tr (.ret (keyOverIpc, .bytes (.ok []))) ∧ ¬ Shaped c (.bytes (.ok [])) tr := by
  let _ := lengthPrefixed
  exact ⟨rfl, rfl, truncating_keepsReply (call keyOverIpc (.sign 0 ⟨[1, 2], by decide⟩)),
    runs_run truncating (call keyOverIpc (.sign 0 ⟨[1, 2], by decide⟩)) (), nofun⟩

end LanternRuntime.Host

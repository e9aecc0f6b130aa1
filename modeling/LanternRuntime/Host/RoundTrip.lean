import LanternRuntime.Host.Remote
import LanternRuntime.Host.Routing
/-!
# Decryption undoes encryption

`AeadKeystore` is what a keystore promises of its cipher. `RoundTrips` is what
a guest gets from it through the mapping, between any two of its handles that
name the same key and across anything it does in between.
`decrypt_undoes_encrypt` shows it of the keystore itself and of an
`IpcKeystore` to a remote of it.
-/
open ProgLib

namespace LanternRuntime.Host

variable {T : ResourceTable} {E : Sig} {σ τ : Type}

/-- A key's cipher: what a ciphertext and its tag open to, if they are authentic. -/
abbrev Opens := KeyId → Nonce → (aad ciphertext : Bytes) → Tag → Option Bytes

/-- A keystore whose cipher opens what it sealed and rejects everything else. -/
structure AeadKeystore (h : Handler Services σ) where
  opens : Opens
  /-- The badge permits decryption with the key. -/
  mayDecrypt : σ → UInt64 → KeyId → Prop
  sealed : ∀ {badge key nonce aad text s ciphertext tag},
    (h (.encrypt badge key nonce aad text) s).1 = (ciphertext, .ok tag) →
    opens key nonce aad ciphertext.val tag = some text
  opened : ∀ {badge key nonce aad ciphertext tag text s}, mayDecrypt s badge key →
    opens key nonce aad ciphertext tag = some text →
    ∃ out, (h (.decrypt badge key nonce aad ciphertext tag) s).1 = (out, .ok ()) ∧ out.val = text
  rejected : ∀ {badge key nonce aad ciphertext tag s}, mayDecrypt s badge key →
    opens key nonce aad ciphertext tag = none →
    ∃ out, (h (.decrypt badge key nonce aad ciphertext tag) s).1 = (out, .error .CryptoFailure)

/-- The arguments of a `decrypt` have the right lengths and are authentic. -/
def Authentic (opens : Opens) (key : KeyId) (nonce aad ciphertext tag : Bytes) : Prop :=
  ∃ (n : Nonce) (t : Tag), n.val = nonce ∧ t.val = tag ∧ (opens key n aad ciphertext t).isSome = true

theorem ok_of_granted {m : GrantManifest} {ok : HostCapability → Prop}
    (hm : ∀ cap, some cap ∈ m.keystore_keys → ok cap) {slot : UInt32} {cap : HostCapability}
    (hg : m.granted slot .Keystore = some (.key cap)) : ok cap := by
  obtain ⟨cap', hk, he⟩ := Option.map_eq_some_iff.1 hg
  cases he
  exact hm cap (List.mem_of_getElem? (Option.join_eq_some_iff.1 hk))

section Guest
variable [Crates]

/-! ## What a guest sees of a keystore -/

/-- A keystore whose answers, as a guest sees them, are those of a cipher. -/
structure Ciphers (g : Handler E τ) (ks : KeystoreService E) (ok : HostCapability → Prop) (opens : Opens)
    (may : τ → UInt64 → KeyId → Prop) : Prop where
  sealed : ∀ {cap} {nonce : Nonce} {aad text : WitList} {t y t' c tag}, ok cap →
    (ks.encrypt cap.badge cap.key nonce aad text).run g t = (.ret y, t') → encrypted y = .ok (c, tag) →
    ∃ tg : Tag, tg.val = tag ∧ opens cap.key nonce aad c tg = some text
  opened : ∀ {cap} {nonce : Nonce} {aad ciphertext : WitList} {tag : Tag} {text t}, ok cap →
    may t cap.badge cap.key → opens cap.key nonce aad ciphertext tag = some text →
    ∃ y t', (ks.decrypt cap.badge cap.key nonce aad ciphertext tag).run g t = (.ret y, t') ∧ decrypted y = .ok text
  rejected : ∀ {cap} {nonce : Nonce} {aad ciphertext : WitList} {tag : Tag} {t}, ok cap →
    may t cap.badge cap.key → opens cap.key nonce aad ciphertext tag = none →
    ∃ y t', (ks.decrypt cap.badge cap.key nonce aad ciphertext tag).run g t = (.ret y, t') ∧
      decrypted y = .error .Invalid

theorem AeadKeystore.ciphers {h : Handler Services σ} (A : AeadKeystore h) :
    Ciphers h outsideKeystore (fun _ => True) A.opens A.mayDecrypt where
  sealed := by
    intro cap nonce aad text t y t' c tag _ hr hy
    cases hr
    generalize hans : (h (.encrypt cap.badge cap.key nonce aad text) t).1 = ans at hy
    obtain ⟨out, e | tg⟩ := ans
    · cases hy
    · cases hy
      exact ⟨tg, rfl, A.sealed hans⟩
  opened := by
    intro cap nonce aad ciphertext tag text t _ hmay ho
    obtain ⟨out, hans, rfl⟩ := A.opened hmay ho
    exact ⟨_, _, rfl, by rw [hans]; rfl⟩
  rejected := by
    intro cap nonce aad ciphertext tag t _ hmay ho
    obtain ⟨out, hans⟩ := A.rejected hmay ho
    exact ⟨_, _, rfl, by rw [hans]; rfl⟩

/-- A remote of a cipher is one, through the records of the one relationship. -/
theorem RemoteKeystore.ciphers {h : Handler Services σ} (A : AeadKeystore h) (hw : FaithfulWire) {badge : UInt64}
    {key : KeyId} {channel : Channel E} {g : Handler E τ} {view : τ → σ}
    (hr : RemoteKeystore h badge key channel g view) :
    Ciphers g (IpcKeystore.service channel) (fun cap => cap.badge = badge ∧ cap.key = key) A.opens
      (fun t => A.mayDecrypt (view t)) where
  sealed := by
    rintro cap nonce aad text t y t' c tag ⟨rfl, rfl⟩ hrun hy
    -- The remote ran the service once, and its answer is seen as the service's own.
    obtain ⟨y', t'', hrun', -, hv⟩ := encrypt_relayed hw hr cap.badge cap.key nonce aad text t
    cases hrun.symm.trans hrun'
    exact A.ciphers.sealed trivial rfl (hv.trans hy)
  opened := by
    rintro cap nonce aad ciphertext tag text t ⟨rfl, rfl⟩ hmay ho
    obtain ⟨y, t', hrun, -, hv⟩ := decrypt_relayed hw hr cap.badge cap.key nonce aad ciphertext tag t
    obtain ⟨out, hans, rfl⟩ := A.opened hmay ho
    rw [hans] at hv
    exact ⟨y, t', hrun, hv.symm⟩
  rejected := by
    rintro cap nonce aad ciphertext tag t ⟨rfl, rfl⟩ hmay ho
    obtain ⟨y, t', hrun, -, hv⟩ := decrypt_relayed hw hr cap.badge cap.key nonce aad ciphertext tag t
    obtain ⟨out, hans⟩ := A.rejected hmay ho
    rw [hans] at hv
    exact ⟨y, t', hrun, hv.symm⟩

theorem encrypted_length {n : Nat} {y : Buf n × Except KeystoreError Tag} {c tag : Bytes}
    (h : encrypted y = .ok (c, tag)) : c.length = n := by
  obtain ⟨out, e | tg⟩ := y
  · cases h
  · cases h
    exact out.property

/-! ## Through the mapping -/

section Calls
variable [Clocked E] {g : Handler E τ} {ks : KeystoreService E} {st st' : RuntimeState T E} {t t' : τ} {r : Handle}
  {cap : HostCapability}

theorem call_encrypt (st : RuntimeState T E) (r : Handle) (nonce aad text : WitList) :
    call st (.encrypt r nonce aad text) =
      (keystore.encrypt st r nonce aad text).run >>= fun x => .ret (st, .encrypted x) := rfl

theorem call_decrypt (st : RuntimeState T E) (r : Handle) (nonce aad ciphertext tag : WitList) :
    call st (.decrypt r nonce aad ciphertext tag) =
      (keystore.decrypt st r nonce aad ciphertext tag).run >>= fun x => .ret (st, .bytes x) := rfl

/-- An `Ok` encryption is one of the backend, with the handle's record. -/
theorem encrypt_ok (hg : T.get st.table r = some (.key cap)) (hks : st.keystore = some ks)
    {nonce aad text : WitList} {c tag : Bytes}
    (h : (call st (.encrypt r nonce aad text)).run g t = (.ret (st', .encrypted (.ok (c, tag))), t')) :
    ∃ (n : Nonce) (y : _), n.val = nonce ∧
      (ks.encrypt cap.badge cap.key n aad text).run g t = (.ret y, t') ∧ encrypted y = .ok (c, tag) := by
  have hcap : st.keystore_cap r = .ok cap := by simp [RuntimeState.keystore_cap, hg]
  have hb : st.keystore_backend = .ok ks := by simp [RuntimeState.keystore_backend, hks]
  rw [call_encrypt, keystore.encrypt_run, hcap, hb] at h
  rcases fixed_len_cases NONCE_LEN nonce with ⟨n, hn, -, hf⟩ | ⟨-, hf⟩ <;> rw [hf] at h
  · refine ⟨n, ?_⟩
    rw [Prog.bind_assoc, Prog.run_bind] at h
    cases hrun : (ks.encrypt cap.badge cap.key n aad text).run g t with
    | mk o t₁ =>
      rw [hrun] at h
      cases o with
      | panic msg => cases h
      | ret y =>
        simp only [Prog.ret_bind, Prog.run_ret, Prod.mk.injEq, Outcome.ret.injEq, GuestReply.encrypted.injEq] at h
        obtain ⟨⟨-, hy⟩, rfl⟩ := h
        exact ⟨y, hn, rfl, hy⟩
  · cases h

/-- A decryption that reaches the backend shows what the backend answers. -/
theorem decrypt_forwarded (hg : T.get st.table r = some (.key cap)) (hks : st.keystore = some ks)
    {nonce aad ciphertext tag : WitList} {n : Nonce} {tg : Tag} (hn : n.val = nonce) (ht : tg.val = tag) {y}
    (h : (ks.decrypt cap.badge cap.key n aad ciphertext tg).run g t = (.ret y, t')) :
    (call st (.decrypt r nonce aad ciphertext tag)).run g t = (.ret (st, .bytes (decrypted y)), t') := by
  have hcap : st.keystore_cap r = .ok cap := by simp [RuntimeState.keystore_cap, hg]
  have hb : st.keystore_backend = .ok ks := by simp [RuntimeState.keystore_backend, hks]
  have hfn : fixed_len NONCE_LEN nonce = .ok n := by simp [fixed_len, ← hn, n.property]
  have hft : fixed_len TAG_LEN tag = .ok tg := by simp [fixed_len, ← ht, tg.property]
  rw [call_decrypt, keystore.decrypt_run, hcap, hb, hfn, hft]
  simp only [Prog.bind_assoc, Prog.run_bind_ret _ _ h]
  rfl

/-- A nonce or tag of the wrong length does not reach it. -/
theorem decrypt_malformed (hg : T.get st.table r = some (.key cap)) {nonce aad ciphertext tag : WitList}
    (h : nonce.val.length ≠ NONCE_LEN ∨ tag.val.length ≠ TAG_LEN) :
    (call st (.decrypt r nonce aad ciphertext tag)).run g t = (.ret (st, .bytes (.error .Invalid)), t) := by
  have hcap : st.keystore_cap r = .ok cap := by simp [RuntimeState.keystore_cap, hg]
  rw [call_decrypt, keystore.decrypt_run, hcap]
  rcases fixed_len_cases NONCE_LEN nonce with ⟨n, -, hn, hf⟩ | ⟨-, hf⟩ <;> rw [hf]
  · rcases fixed_len_cases TAG_LEN tag with ⟨tg, -, ht, hf'⟩ | ⟨-, hf'⟩ <;> rw [hf']
    · exact absurd h (by simp [hn, ht])
    · rfl
  · rfl

end Calls

/-! ## Handles that stay -/

omit [Crates] in
/-- Only a drop of `r` takes its entry away. -/
theorem Moves.keeps {st : RuntimeState T E} {c : GuestCall} {reply : GuestReply} {table : T.Table} {r : Handle}
    {x : Entry} (hm : Moves st c reply table) (hg : T.get st.table r = some x) (hk : c ≠ .keyDrop r)
    (hf : c ≠ .fileDrop r) : T.get table r = some x := by
  have hpush : ∀ {e handle table}, T.push st.table e = some (handle, table) → T.get table r = some x := by
    intro e handle table hp
    -- A fresh handle holds nothing, and `r` holds `x`.
    have hne : r ≠ handle := by
      rintro rfl
      rw [T.push_fresh hp] at hg
      cases hg
    rw [T.get_push_other hp hne, hg]
  cases hm with
  | keyOpened _ hp => exact hpush hp
  | fileOpened _ hp => exact hpush hp
  | @keyDropped key =>
    have hne : r ≠ key := by rintro rfl; exact hk rfl
    rw [T.get_delete_other hne, hg]
  | @fileDropped file =>
    have hne : r ≠ file := by rintro rfl; exact hf rfl
    rw [T.get_delete_other hne, hg]
  | keyDeclined | fileDeclined | operated => exact hg

theorem live_after [Clocked E] {st st' : RuntimeState T E} {hist : List (HostStep E)} {r : Handle} {x : Entry}
    (hs : Session call st hist st') (hg : T.get st.table r = some x)
    (hd : ∀ e ∈ hist, e.call ≠ .keyDrop r ∧ e.call ≠ .fileDrop r) : T.get st'.table r = some x := by
  induction hs with
  | nil => exact hg
  | @snoc hist s c tr s' reply _ hr ih =>
    obtain ⟨table, rfl, hm⟩ := moves_of hr
    obtain ⟨hk, hf⟩ := hd _ (List.mem_append_right _ (List.mem_singleton.2 rfl))
    exact hm.keeps (ih fun e he => hd e (List.mem_append_left _ he)) hk hf

/-! ## Round trips -/

def Replies [Clocked E] (g : Handler E τ) (st : RuntimeState T E) (t : τ) (c : GuestCall) (reply : GuestReply) : Prop :=
  ∃ st' t', (call st c).run g t = (.ret (st', reply), t')

/-- From every reachable state, through any two live handles of one key: what an `Ok`
encryption through the first returned has the right lengths, and after anything that
drops neither handle it decrypts to the plaintext through the second, if its badge then
permits that; arguments that are not authentic read `invalid`. -/
def RoundTrips [Clocked E] (T : ResourceTable) (m : GrantManifest) (g : Handler E τ) (ks : KeystoreService E)
    (opens : Opens) (may : τ → UInt64 → KeyId → Prop) : Prop :=
  ∀ (fs : Option (FilesystemService E)) (t₀ t₁ t₂ : τ) (hist : List (HostStep E)) (st₁ st₂ : RuntimeState T E)
    (r₁ r₂ : Handle) (cap₁ cap₂ : HostCapability) (nonce aad text : WitList) (c tag : Bytes),
  Served g call (RuntimeState.attach m (some ks) fs) t₀ hist st₁ t₁ →
  T.get st₁.table r₁ = some (.key cap₁) → T.get st₁.table r₂ = some (.key cap₂) → cap₁.key = cap₂.key →
  (call st₁ (.encrypt r₁ nonce aad text)).run g t₁ = (.ret (st₂, .encrypted (.ok (c, tag))), t₂) →
  c.length = text.val.length ∧ tag.length = TAG_LEN ∧
  ∀ (hist' : List (HostStep E)) (st₃ : RuntimeState T E) (t₃ : τ), Served g call st₂ t₂ hist' st₃ t₃ →
    (∀ e ∈ hist', ∀ r ∈ [r₁, r₂], e.call ≠ .keyDrop r ∧ e.call ≠ .fileDrop r) → may t₃ cap₂.badge cap₂.key →
    (∀ cw tw : WitList, cw.val = c → tw.val = tag →
      Replies g st₃ t₃ (.decrypt r₂ nonce aad cw tw) (.bytes (.ok text.val))) ∧
    ∀ n' a' c' t' : WitList, ¬ Authentic opens cap₂.key n' a' c' t' →
      Replies g st₃ t₃ (.decrypt r₂ n' a' c' t') (.bytes (.error .Invalid))

theorem Ciphers.roundTrips [Clocked E] {g : Handler E τ} {ks : KeystoreService E} {ok : HostCapability → Prop}
    {opens : Opens} {may : τ → UInt64 → KeyId → Prop} (hc : Ciphers g ks ok opens may) {m : GrantManifest}
    (hm : ∀ cap, some cap ∈ m.keystore_keys → ok cap) : RoundTrips T m g ks opens may := by
  intro fs t₀ t₁ t₂ hist st₁ st₂ r₁ r₂ cap₁ cap₂ nonce aad text c tag hs hg₁ hg₂ hkey henc
  have hl := ledger_of hs.session
  obtain ⟨slot₁, -, hgr₁⟩ := hl.live r₁ _ hg₁
  obtain ⟨slot₂, -, hgr₂⟩ := hl.live r₂ _ hg₂
  obtain ⟨n, y, hn, hrun, hy⟩ := encrypt_ok hg₁ hl.keystore henc
  obtain ⟨tg, rfl, hopen⟩ := hc.sealed (ok_of_granted hm hgr₁) hrun hy
  refine ⟨encrypted_length hy, tg.property, ?_⟩
  intro hist' st₃ t₃ hs' hd hmay
  -- The whole session, to see that the backend is still there.
  have hl₃ := ledger_of ((hs.snoc henc).append hs').session
  have hst₂ : st₂.table = st₁.table := by
    have hrun₂ := runs_run g (call st₁ (.encrypt r₁ nonce aad text)) t₁
    rw [henc] at hrun₂
    obtain ⟨table, rfl, hmv⟩ := moves_of hrun₂
    cases hmv
    rfl
  have hg₃ : T.get st₃.table r₂ = some (.key cap₂) :=
    live_after hs'.session (hst₂ ▸ hg₂) fun e he => hd e he r₂ (by simp)
  constructor
  · intro cw tw hcw htw
    subst hcw
    obtain ⟨y', t', hrun', hy'⟩ := hc.opened (ok_of_granted hm hgr₂) hmay (hkey ▸ hopen)
    exact ⟨st₃, t', hy' ▸ decrypt_forwarded hg₃ hl₃.keystore hn htw.symm hrun'⟩
  · intro n' a' c' t' hna
    -- The backend is asked only about lengths it accepts. Others read `invalid` before.
    by_cases hshape : n'.val.length = NONCE_LEN ∧ t'.val.length = TAG_LEN
    · obtain ⟨hn', ht'⟩ := hshape
      cases ho : opens cap₂.key ⟨n', hn'⟩ a' c' ⟨t', ht'⟩ with
      | some text' => exact absurd ⟨_, _, rfl, rfl, by rw [ho]; rfl⟩ hna
      | none =>
        obtain ⟨y', t'', hrun', hy'⟩ := hc.rejected (ok_of_granted hm hgr₂) hmay ho
        exact ⟨st₃, t'', hy' ▸ decrypt_forwarded hg₃ hl₃.keystore rfl rfl hrun'⟩
    · rw [not_and_or] at hshape
      exact ⟨st₃, t₃, decrypt_malformed hg₃ hshape⟩

/-- The round trip holds over any manifest with the keystore itself, and over a manifest
of one relationship with an `IpcKeystore` to a remote of it. -/
theorem decrypt_undoes_encrypt [Clocked E] (T : ResourceTable) (m : GrantManifest) (h : Handler Services σ)
    (A : AeadKeystore h) :
    RoundTrips T m h outsideKeystore A.opens A.mayDecrypt ∧
    ∀ (badge : UInt64) (key : KeyId) (channel : Channel E) (g : Handler E τ) (view : τ → σ), FaithfulWire →
      RemoteKeystore h badge key channel g view →
      (∀ cap, some cap ∈ m.keystore_keys → cap.badge = badge ∧ cap.key = key) →
      RoundTrips T m g (IpcKeystore.service channel) A.opens (fun t => A.mayDecrypt (view t)) := by
  refine ⟨A.ciphers.roundTrips fun _ _ => trivial, ?_⟩
  intro badge key channel g view hw hr hm
  exact (hr.ciphers A hw).roundTrips hm

end Guest

/-- The reference keystore has such a cipher. -/
def referenceAead : AeadKeystore reference where
  opens key nonce aad ciphertext tag := if tag = mac key nonce aad ciphertext then some ciphertext else none
  mayDecrypt _ badge _ := mayRead badge = true
  sealed := by
    intro badge key nonce aad text s ciphertext tag h
    unfold reference at h
    cases hb : mayWrite badge <;> simp only [hb] at h <;> cases h
    rw [if_pos rfl]
  opened := by
    intro badge key nonce aad ciphertext tag text s hmay ho
    by_cases ht : tag = mac key nonce aad ciphertext
    · rw [if_pos ht] at ho
      refine ⟨⟨ciphertext, rfl⟩, ?_, Option.some.inj ho⟩
      simp only [reference, hmay, ht]
      rfl
    · rw [if_neg ht] at ho
      cases ho
  rejected := by
    intro badge key nonce aad ciphertext tag s hmay ho
    by_cases ht : tag = mac key nonce aad ciphertext
    · rw [if_pos ht] at ho
      cases ho
    · refine ⟨⟨ciphertext, rfl⟩, ?_⟩
      simp only [reference, hmay, ht]
      rfl

def someNonce : WitList := ⟨List.replicate 24 9, by decide⟩

theorem oneKey_grants (cap : HostCapability) (hc : some cap ∈ oneKey.keystore_keys) :
    cap.badge = 7 ∧ cap.key = .from_raw 3 := by
  have hcap : cap = .keystore_key 7 (.from_raw 3) := by simpa [oneKey] using hc
  rw [hcap]
  exact ⟨rfl, rfl⟩

set_option maxRecDepth 4000 in
/-- The granted key is opened twice, one handle encrypts and the other decrypts; and the
same goes for the remote of the reference keystore. -/
theorem decrypt_undoes_encrypt_reference :
    letI := lengthPrefixed
    (∃ hist st₁ st₂ w₁ w₂, ∃ c tag : WitList, replay reference call [.keystoreOpen 1, .keystoreOpen 1]
        (RuntimeState.attach (T := slabTable Entry 4 (by decide)) oneKey (some outsideKeystore) none)
        (fun _ => none) = some (hist, st₁, w₁) ∧
      (call st₁ (.encrypt 0 someNonce ⟨[4], by decide⟩ ⟨[1, 2], by decide⟩)).run reference w₁ =
        (.ret (st₂, .encrypted (.ok (c.val, tag.val))), w₂) ∧
      Replies reference st₂ w₂ (.decrypt 1 someNonce ⟨[4], by decide⟩ c tag) (.bytes (.ok [1, 2]))) ∧
    RoundTrips (slabTable Entry 4 (by decide)) oneKey
      (remoteKeystore reference 7 (.from_raw 3) keystoreStatus) (IpcKeystore.service outsideChannel)
      referenceAead.opens referenceAead.mayDecrypt := by
  let _ := lengthPrefixed
  have hboth := decrypt_undoes_encrypt (E := Ipc) (τ := Files) (slabTable Entry 4 (by decide))
    oneKey reference referenceAead
  refine ⟨⟨_, _, _, _, _, ⟨[1, 2], by decide⟩, ⟨(mac (.from_raw 3) ⟨List.replicate 24 9, by decide⟩ [4] [1, 2]).val,
    by decide⟩, rfl, rfl, ?_⟩, hboth.2 _ _ _ _ id lengthPrefixed_faithful (remoteKeystore_reference _ _) oneKey_grants⟩
  obtain ⟨-, -, hd⟩ := hboth.1 none _ _ _ _ _ _ 0 1 (.keystore_key 7 (.from_raw 3)) (.keystore_key 7 (.from_raw 3))
    someNonce ⟨[4], by decide⟩ ⟨[1, 2], by decide⟩ _ _
    (replay_served reference call [.keystoreOpen 1, .keystoreOpen 1] (fun _ => none) _ rfl) rfl rfl rfl rfl
  exact (hd [] _ _ .nil (by simp) rfl).1 _ _ rfl rfl

end LanternRuntime.Host

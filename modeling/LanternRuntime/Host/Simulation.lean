import LanternRuntime.Host.Calls
/-!
# The mapping over related services

Two services are related when a guest cannot tell their answers apart.
`call_sim` shows that the mapping adds nothing a guest could tell them apart
by: over related services, states that agree on everything else serve every
call with the same reply and still agree.
-/
open ProgLib

namespace LanternRuntime.Host

variable {T : ResourceTable} {E E' : Sig} {σ σ' : Type}

theorem live_of_keystore_cap {st : RuntimeState T E} {r : Handle} {cap : HostCapability}
    (hc : st.keystore_cap r = .ok cap) :
    T.get st.table r = some (.key cap) := by
  rcases keystore_cap_cases st r with ⟨cap', hg, he⟩ | ⟨-, he⟩
  · rw [hc] at he; cases he; exact hg
  · rw [hc] at he; cases he

theorem live_of_file_cap {st : RuntimeState T E} {r : Handle} {cap : HostFile} (hc : st.file_cap r = .ok cap) :
    T.get st.table r = some (.file cap) := by
  rcases file_cap_cases st r with ⟨cap', hg, he⟩ | ⟨-, he⟩
  · rw [hc] at he; cases he; exact hg
  · rw [hc] at he; cases he

/-! ## Related services -/

section Related
variable [Crates] (h : Handler E σ) (h' : Handler E' σ') (R : σ → σ' → Prop) (ok : Entry → Prop)

/-- Through every record `ok` admits, a guest sees the same of both keystores. -/
structure KeystoreSim (ks : KeystoreService E) (ks' : KeystoreService E') : Prop where
  encrypt : ∀ cap, ok (.key cap) → ∀ (nonce : Nonce) (aad buffer : WitList),
    Sim h h' R (fun x y => encrypted x = encrypted y) (ks.encrypt cap.badge cap.key nonce aad buffer)
      (ks'.encrypt cap.badge cap.key nonce aad buffer)
  decrypt : ∀ cap, ok (.key cap) → ∀ (nonce : Nonce) (aad buffer : WitList) (tag : Tag),
    Sim h h' R (fun x y => decrypted x = decrypted y) (ks.decrypt cap.badge cap.key nonce aad buffer tag)
      (ks'.decrypt cap.badge cap.key nonce aad buffer tag)
  sign : ∀ cap, ok (.key cap) → ∀ message : WitList,
    Sim h h' R (fun x y => signed x = signed y) (ks.sign cap.badge cap.key message)
      (ks'.sign cap.badge cap.key message)

/-- Through every record `ok` admits, a guest sees the same of both stores. -/
structure FilesystemSim (fs : FilesystemService E) (fs' : FilesystemService E') : Prop where
  read : ∀ cap, ok (.file cap) → Sim h h' R (fun x y => readBack x = readBack y)
    (fs.read cap.badge cap.file (zeros MAX_BLOCK_LEN).val) (fs'.read cap.badge cap.file (zeros MAX_BLOCK_LEN).val)
  write : ∀ cap, ok (.file cap) → ∀ data : Bytes, data.length ≤ MAX_BLOCK_LEN →
    Sim h h' R (fun x y => written x = written y) (fs.write cap.badge cap.file data)
      (fs'.write cap.badge cap.file data)

/-- The states agree but for their services, which are related through every record
that is live or can still be opened. -/
structure Twins (st : RuntimeState T E) (st' : RuntimeState T E') : Prop where
  table : st'.table = st.table
  keys : st'.keys = st.keys
  files : st'.files = st.files
  clock : st'.clock = st.clock
  keystore : Option.Rel (KeystoreSim h h' R ok) st.keystore st'.keystore
  filesystem : Option.Rel (FilesystemSim h h' R ok) st.filesystem st'.filesystem
  key_ok : ∀ cap, some cap ∈ st.keys → ok (.key cap)
  file_ok : ∀ cap, some cap ∈ st.files → ok (.file cap)
  live_ok : ∀ r x, T.get st.table r = some x → ok x

end Related

section Twins
variable [Crates] {h : Handler E σ} {h' : Handler E' σ'} {R : σ → σ' → Prop} {ok : Entry → Prop}
  {st : RuntimeState T E} {st' : RuntimeState T E'}

theorem Twins.attach {m : GrantManifest} {ks : Option (KeystoreService E)} {fs : Option (FilesystemService E)}
    {ks' : Option (KeystoreService E')} {fs' : Option (FilesystemService E')}
    (hks : Option.Rel (KeystoreSim h h' R ok) ks ks') (hfs : Option.Rel (FilesystemSim h h' R ok) fs fs')
    (hk : ∀ cap, some cap ∈ m.keystore_keys → ok (.key cap))
    (hf : ∀ cap, some cap ∈ m.filesystem_files → ok (.file cap)) :
    Twins h h' R ok (RuntimeState.attach m ks fs : RuntimeState T E) (RuntimeState.attach m ks' fs') where
  table := rfl
  keys := rfl
  files := rfl
  clock := rfl
  keystore := hks
  filesystem := hfs
  key_ok := hk
  file_ok := hf
  live_ok := by
    intro r x hx
    have hn : T.get T.new r = some x := hx
    rw [T.get_new] at hn
    cases hn

/-- The same push on both sides, of a record that may be opened. -/
theorem Twins.push (hv : Twins h h' R ok st st') {x : Entry} {r : Handle} {table : T.Table}
    (hp : T.push st.table x = some (r, table)) (hx : ok x) :
    Twins h h' R ok { st with table := table } { st' with table := table } := by
  refine { hv with table := rfl, live_ok := ?_ }
  intro r' y hy
  rcases T.get_push hp hy with ⟨-, rfl⟩ | ⟨-, hy'⟩
  · exact hx
  · exact hv.live_ok r' y hy'

/-- The same delete on both sides. -/
theorem Twins.delete (hv : Twins h h' R ok st st') (want : Entry → Bool) (r : Handle) :
    Twins h h' R ok { st with table := (T.delete st.table want r).2 }
      { st' with table := (T.delete st.table want r).2 } := by
  refine { hv with table := rfl, live_ok := ?_ }
  intro r' y hy
  exact hv.live_ok r' y (T.get_delete hy)

theorem Twins.keystore_cap (hv : Twins h h' R ok st st') (r : Handle) :
    st'.keystore_cap r = st.keystore_cap r := by
  simp only [RuntimeState.keystore_cap, hv.table]

theorem Twins.file_cap (hv : Twins h h' R ok st st') (r : Handle) : st'.file_cap r = st.file_cap r := by
  simp only [RuntimeState.file_cap, hv.table]

omit [Crates] in
/-- A backend on both sides, or on neither. -/
theorem rel_backend {A B : Type} {V : A → B → Prop} {x : Option A} {y : Option B} (hr : Option.Rel V x y) :
    (∃ a b, x.elim (.error ErrorCode.Access) .ok = Except.ok a ∧ y.elim (.error ErrorCode.Access) .ok = Except.ok b ∧
      V a b) ∨
    (x.elim (.error .Access) Except.ok = .error ErrorCode.Access ∧
      y.elim (.error .Access) Except.ok = .error ErrorCode.Access) := by
  cases hr with
  | some hv => exact .inl ⟨_, _, rfl, rfl, hv⟩
  | none => exact .inr ⟨rfl, rfl⟩

theorem Twins.keystore_backend (hv : Twins h h' R ok st st') :
    (∃ ks ks', st.keystore_backend = .ok ks ∧ st'.keystore_backend = .ok ks' ∧ KeystoreSim h h' R ok ks ks') ∨
    (st.keystore_backend = .error .Access ∧ st'.keystore_backend = .error .Access) :=
  rel_backend hv.keystore

theorem Twins.filesystem_backend (hv : Twins h h' R ok st st') :
    (∃ fs fs', st.filesystem_backend = .ok fs ∧ st'.filesystem_backend = .ok fs' ∧
      FilesystemSim h h' R ok fs fs') ∨
    (st.filesystem_backend = .error .Access ∧ st'.filesystem_backend = .error .Access) :=
  rel_backend hv.filesystem

/-! ## Operations -/

theorem Twins.encrypt (hv : Twins h h' R ok st st') (r : Handle) (nonce aad plaintext : WitList) :
    Sim h h' R Eq (keystore.encrypt st r nonce aad plaintext).run
      (keystore.encrypt st' r nonce aad plaintext).run := by
  rw [keystore.encrypt_run, keystore.encrypt_run, hv.keystore_cap]
  cases hc : st.keystore_cap r with
  | error e => exact .ret rfl
  | ok cap =>
    cases fixed_len NONCE_LEN nonce with
    | error e => exact .ret rfl
    | ok n =>
      rcases hv.keystore_backend with ⟨ks, ks', hb, hb', hks⟩ | ⟨hb, hb'⟩ <;> rw [hb, hb']
      · refine (hks.encrypt cap (hv.live_ok r _ (live_of_keystore_cap hc)) n aad plaintext).bind ?_
        intro x y hxy
        exact .ret hxy
      · exact .ret rfl

theorem Twins.decrypt (hv : Twins h h' R ok st st') (r : Handle) (nonce aad ciphertext tag : WitList) :
    Sim h h' R Eq (keystore.decrypt st r nonce aad ciphertext tag).run
      (keystore.decrypt st' r nonce aad ciphertext tag).run := by
  rw [keystore.decrypt_run, keystore.decrypt_run, hv.keystore_cap]
  cases hc : st.keystore_cap r with
  | error e => exact .ret rfl
  | ok cap =>
    cases fixed_len NONCE_LEN nonce with
    | error e => exact .ret rfl
    | ok n =>
      cases fixed_len TAG_LEN tag with
      | error e => exact .ret rfl
      | ok t =>
        rcases hv.keystore_backend with ⟨ks, ks', hb, hb', hks⟩ | ⟨hb, hb'⟩ <;> rw [hb, hb']
        · refine (hks.decrypt cap (hv.live_ok r _ (live_of_keystore_cap hc)) n aad ciphertext t).bind ?_
          intro x y hxy
          exact .ret hxy
        · exact .ret rfl

theorem Twins.sign (hv : Twins h h' R ok st st') (r : Handle) (message : WitList) :
    Sim h h' R Eq (keystore.sign st r message).run (keystore.sign st' r message).run := by
  rw [keystore.sign_run, keystore.sign_run, hv.keystore_cap]
  cases hc : st.keystore_cap r with
  | error e => exact .ret rfl
  | ok cap =>
    rcases hv.keystore_backend with ⟨ks, ks', hb, hb', hks⟩ | ⟨hb, hb'⟩ <;> rw [hb, hb']
    · refine (hks.sign cap (hv.live_ok r _ (live_of_keystore_cap hc)) message).bind ?_
      intro x y hxy
      exact .ret hxy
    · exact .ret rfl

theorem Twins.read (hv : Twins h h' R ok st st') (r : Handle) :
    Sim h h' R Eq (filesystem.read st r).run (filesystem.read st' r).run := by
  rw [filesystem.read_run, filesystem.read_run, hv.file_cap]
  cases hc : st.file_cap r with
  | error e => exact .ret rfl
  | ok cap =>
    rcases hv.filesystem_backend with ⟨fs, fs', hb, hb', hfs⟩ | ⟨hb, hb'⟩ <;> rw [hb, hb']
    · refine (hfs.read cap (hv.live_ok r _ (live_of_file_cap hc))).bind ?_
      intro x y hxy
      exact .ret hxy
    · exact .ret rfl

theorem Twins.write (hv : Twins h h' R ok st st') (r : Handle) (bytes : WitList) :
    Sim h h' R Eq (filesystem.write st r bytes).run (filesystem.write st' r bytes).run := by
  rw [filesystem.write_run, filesystem.write_run, hv.file_cap]
  cases hc : st.file_cap r with
  | error e => exact .ret rfl
  | ok cap =>
    by_cases hl : bytes.val.length > MAX_BLOCK_LEN
    · -- Too long on both sides, and no store is asked.
      simp only [hl, if_true]
      exact .ret rfl
    · simp only [hl, if_false]
      rcases hv.filesystem_backend with ⟨fs, fs', hb, hb', hfs⟩ | ⟨hb, hb'⟩ <;> rw [hb, hb']
      · refine (hfs.write cap (hv.live_ok r _ (live_of_file_cap hc)) bytes (Nat.le_of_not_lt hl)).bind ?_
        intro x y hxy
        exact .ret hxy
      · exact .ret rfl

/-- An operation leaves both states as they were, so only its reply matters. -/
theorem Twins.operation {A : Type} (hv : Twins h h' R ok st st') {p : Prog E A} {p' : Prog E' A}
    (hp : Sim h h' R Eq p p') (f : A → GuestReply) :
    Sim h h' R (fun x y => Twins h h' R ok x.1 y.1 ∧ x.2 = y.2) (p >>= fun a => .ret (st, f a))
      (p' >>= fun a => .ret (st', f a)) := by
  refine hp.bind ?_
  rintro a b rfl
  exact .ret ⟨hv, rfl⟩

/-- The same slots on both sides. -/
theorem Twins.open_slot {Record : Type} (hv : Twins h h' R ok st st') {slots slots' : List (Option Record)}
    {entry : Record → Entry} (hslots : slots' = slots) (hok : ∀ cap, some cap ∈ slots → ok (entry cap))
    (slot : UInt32) :
    Twins h h' R ok (st.open_slot slots entry slot).1 (st'.open_slot slots' entry slot).1 ∧
      (st.open_slot slots entry slot).2 = (st'.open_slot slots' entry slot).2 := by
  unfold RuntimeState.open_slot
  rw [hslots]
  cases hs : slots[slot.toNat]?.join with
  | none => exact ⟨hv, rfl⟩
  | some cap =>
    have hm : some cap ∈ slots := List.mem_of_getElem? (Option.join_eq_some_iff.1 hs)
    -- The tables are equal, so both hand out the same handle or none.
    have ht : T.push st'.table (entry cap) = T.push st.table (entry cap) := by rw [hv.table]
    dsimp only
    rw [ht]
    cases hp : T.push st.table (entry cap) with
    | none => exact ⟨hv, rfl⟩
    | some x => exact ⟨hv.push hp (hok cap hm), rfl⟩

end Twins

/-- Over related services every call is served alike. The clock is a service of its
own: where a guest reads it, both sides must have the same one. -/
theorem call_sim [Crates] [Clocked E] [Clocked E'] (T : ResourceTable) (h : Handler E σ) (h' : Handler E' σ')
    (R : σ → σ' → Prop) (ok : Entry → Prop) :
    StepSim (fun c => c = .now → ∀ f, Sim h h' R Eq (Clocked.callFn f) (Clocked.callFn f)) h h' R
      (Twins (T := T) h h' R ok) call call := by
  intro c hnow st st' hv
  cases c with
  | keystoreOpen slot =>
    obtain ⟨hv', hr⟩ := hv.open_slot hv.keys hv.key_ok slot
    exact .ret ⟨hv', congrArg GuestReply.opened hr⟩
  | encrypt r nonce aad plaintext => exact hv.operation (hv.encrypt r nonce aad plaintext) _
  | decrypt r nonce aad ciphertext tag => exact hv.operation (hv.decrypt r nonce aad ciphertext tag) _
  | sign r message => exact hv.operation (hv.sign r message) _
  | keyDrop r =>
    unfold call keystore.drop RuntimeState.drop_handle
    rw [hv.table]
    exact .ret ⟨hv.delete _ r, rfl⟩
  | filesystemOpen slot =>
    obtain ⟨hv', hr⟩ := hv.open_slot hv.files hv.file_ok slot
    exact .ret ⟨hv', congrArg GuestReply.opened hr⟩
  | read r => exact hv.operation (hv.read r) _
  | write r bytes => exact hv.operation (hv.write r bytes) _
  | fileDrop r =>
    unfold call filesystem.drop RuntimeState.drop_handle
    rw [hv.table]
    exact .ret ⟨hv.delete _ r, rfl⟩
  | now =>
    -- Without a source both sides panic alike.
    refine hv.operation ?_ _
    unfold monotonic_clock.now
    rw [hv.clock]
    cases st.clock with
    | none => exact .panic _
    | some clock => exact hnow rfl clock.now_ns
  | resolution =>
    refine hv.operation ?_ _
    unfold monotonic_clock.resolution
    rw [hv.clock]
    cases st.clock with
    | none => exact .panic _
    | some clock => exact .ret rfl

end LanternRuntime.Host

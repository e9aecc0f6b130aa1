import LanternRuntime.Host.State
/-!
# What one guest call can do

`Moves` lists what a guest call does to the state: only the table changes, by
one push or one delete. `Serves` lists the ways an operation is answered: from
the table and its arguments alone, or by one call of the backend. `moves_of`
and `serves_of` show that the lists are complete, so later proofs are case
analyses over them and do not look at the host functions again.
-/
open ProgLib

namespace LanternRuntime.Host

variable {T : ResourceTable} {E : Sig}

/-- The calls that go through a handle to a service, or read the clock. -/
def GuestCall.isOperation : GuestCall → Bool
  | .encrypt .. | .decrypt .. | .sign .. | .read .. | .write .. | .now | .resolution => true
  | _ => false

/-- A key or file operation, with its interface and handle. -/
def GuestCall.handle? : GuestCall → Option (ServiceEndpoint × Handle)
  | .encrypt r .. | .decrypt r .. | .sign r .. => some (.Keystore, r)
  | .read r | .write r .. => some (.Filesystem, r)
  | _ => none

/-- The lengths that are checked before a backend is consulted. -/
def GuestCall.wellFormed : GuestCall → Bool
  | .encrypt _ nonce _ _ => nonce.val.length = NONCE_LEN
  | .decrypt _ nonce _ _ tag => nonce.val.length = NONCE_LEN ∧ tag.val.length = TAG_LEN
  | .write _ bytes => bytes.val.length ≤ MAX_BLOCK_LEN
  | _ => true

/-- The failing reply to an operation. -/
def GuestCall.fail : GuestCall → ErrorCode → GuestReply
  | .encrypt .., e => .encrypted (.error e)
  | .write .., e => .written (.error e)
  | _, e => .bytes (.error e)

def RuntimeState.attached (st : RuntimeState T E) : ServiceEndpoint → Bool
  | .Keystore => st.keystore.isSome
  | .Filesystem => st.filesystem.isSome

/-! ## Moves of the table -/

/-- From `st`, the call may be answered so and leave the table so. -/
inductive Moves (st : RuntimeState T E) : GuestCall → GuestReply → T.Table → Prop
  | keyOpened {slot cap handle table} : st.keys[slot.toNat]? = some (some cap) →
      T.push st.table (.key cap) = some (handle, table) →
      Moves st (.keystoreOpen slot) (.opened (some handle)) table
  | keyDeclined {slot} : Moves st (.keystoreOpen slot) (.opened none) st.table
  | keyDropped {key} : Moves st (.keyDrop key) (.dropped (T.delete st.table Entry.isKey key).1)
      (T.delete st.table Entry.isKey key).2
  | fileOpened {slot cap handle table} : st.files[slot.toNat]? = some (some cap) →
      T.push st.table (.file cap) = some (handle, table) →
      Moves st (.filesystemOpen slot) (.opened (some handle)) table
  | fileDeclined {slot} : Moves st (.filesystemOpen slot) (.opened none) st.table
  | fileDropped {file} : Moves st (.fileDrop file) (.dropped (T.delete st.table Entry.isFile file).1)
      (T.delete st.table Entry.isFile file).2
  | operated {c r} : c.isOperation = true → Moves st c r st.table

/-- What the two `open`s have in common. -/
theorem open_slot_moves {Record : Type} {st : RuntimeState T E} {slots : List (Option Record)} {entry : Record → Entry}
    {slot : UInt32} {c : GuestCall} (hnone : Moves st c (.opened none) st.table)
    (hsome : ∀ {cap handle table}, slots[slot.toNat]? = some (some cap) →
      T.push st.table (entry cap) = some (handle, table) → Moves st c (.opened (some handle)) table) :
    ∃ table, (st.open_slot slots entry slot).1 = { st with table := table } ∧
      Moves st c (.opened (st.open_slot slots entry slot).2) table := by
  unfold RuntimeState.open_slot
  cases hs : slots[slot.toNat]?.join with
  | none => exact ⟨st.table, rfl, hnone⟩
  | some cap =>
    have hs' : slots[slot.toNat]? = some (some cap) := Option.join_eq_some_iff.1 hs
    dsimp only
    cases hp : T.push st.table (entry cap) with
    | none => exact ⟨st.table, rfl, hnone⟩
    | some x => exact ⟨x.2, rfl, hsome hs' hp⟩

theorem keystore_cap_cases (st : RuntimeState T E) (r : Handle) :
    (∃ cap, T.get st.table r = some (.key cap) ∧ st.keystore_cap r = .ok cap) ∨
    ((∀ x, T.get st.table r = some x → x.interface ≠ .Keystore) ∧ st.keystore_cap r = .error .Access) := by
  unfold RuntimeState.keystore_cap
  rcases T.get st.table r with _ | (cap | cap)
  · right; simp
  · left; exact ⟨cap, rfl, rfl⟩
  · right; simp [Entry.interface]

theorem file_cap_cases (st : RuntimeState T E) (r : Handle) :
    (∃ cap, T.get st.table r = some (.file cap) ∧ st.file_cap r = .ok cap) ∨
    ((∀ x, T.get st.table r = some x → x.interface ≠ .Filesystem) ∧ st.file_cap r = .error .Access) := by
  unfold RuntimeState.file_cap
  rcases T.get st.table r with _ | (cap | cap)
  · right; simp
  · right; simp [Entry.interface]
  · left; exact ⟨cap, rfl, rfl⟩

theorem fixed_len_cases (n : Nat) (bytes : Bytes) :
    (∃ b : Buf n, b.val = bytes ∧ bytes.length = n ∧ fixed_len n bytes = .ok b) ∨
    (bytes.length ≠ n ∧ fixed_len n bytes = .error .Invalid) := by
  unfold fixed_len
  by_cases h : bytes.length = n
  · exact .inl ⟨⟨bytes, h⟩, rfl, h, dif_pos h⟩
  · exact .inr ⟨h, dif_neg h⟩

section Clocked
variable [Crates] [Clocked E]

/-- A call that returns has moved the table as `Moves` says and changed nothing
else of the state. -/
theorem moves_of {st st' : RuntimeState T E} {c : GuestCall} {r : GuestReply} {tr : List (Event E)}
    (h : Runs (call st c) tr (.ret (st', r))) :
    ∃ table, st' = { st with table := table } ∧ Moves st c r table := by
  cases c with
  | keystoreOpen slot =>
    obtain ⟨-, he⟩ := runs_ret.1 h
    cases he
    exact open_slot_moves .keyDeclined .keyOpened
  | filesystemOpen slot =>
    obtain ⟨-, he⟩ := runs_ret.1 h
    cases he
    exact open_slot_moves .fileDeclined .fileOpened
  | keyDrop key =>
    obtain ⟨-, he⟩ := runs_ret.1 h
    cases he
    exact ⟨_, rfl, .keyDropped⟩
  | fileDrop file =>
    obtain ⟨-, he⟩ := runs_ret.1 h
    cases he
    exact ⟨_, rfl, .fileDropped⟩
  | encrypt | decrypt | sign | read | write | now | resolution =>
    obtain ⟨x, -, he⟩ := runs_bind_ret.1 h
    cases he
    exact ⟨st.table, rfl, .operated rfl⟩

/-- The calls that are not operations never go outside. -/
theorem trace_of_not_operation {st st' : RuntimeState T E} {c : GuestCall} {r : GuestReply} {tr : List (Event E)}
    (hc : c.isOperation = false) (h : Runs (call st c) tr (.ret (st', r))) : tr = [] := by
  cases c with
  | keystoreOpen | filesystemOpen | keyDrop | fileDrop => exact (runs_ret.1 h).1
  | _ => cases hc

/-! ## Ways to answer an operation -/

/-- From `st`, the operation is answered by running this program. -/
inductive Serves (st : RuntimeState T E) : GuestCall → Prog E GuestReply → Prop
  | dead {c i r} : c.handle? = some (i, r) → (∀ x, T.get st.table r = some x → x.interface ≠ i) →
      Serves st c (.ret (c.fail .Access))
  | malformed {c i r x} : c.handle? = some (i, r) → T.get st.table r = some x → x.interface = i →
      c.wellFormed = false → Serves st c (.ret (c.fail .Invalid))
  | unattached {c i r x} : c.handle? = some (i, r) → T.get st.table r = some x → x.interface = i →
      c.wellFormed = true → st.attached i = false → Serves st c (.ret (c.fail .Access))
  | encrypt {r nonce aad plaintext cap n backend} : T.get st.table r = some (.key cap) → n.val = nonce.val →
      st.keystore = some backend → Serves st (.encrypt r nonce aad plaintext)
        (backend.encrypt cap.badge cap.key n aad plaintext >>= fun x => .ret (.encrypted (encrypted x)))
  | decrypt {r nonce aad ciphertext tag cap n t backend} : T.get st.table r = some (.key cap) →
      n.val = nonce.val → t.val = tag.val → st.keystore = some backend →
      Serves st (.decrypt r nonce aad ciphertext tag)
        (backend.decrypt cap.badge cap.key n aad ciphertext t >>= fun x => .ret (.bytes (decrypted x)))
  | sign {r message cap backend} : T.get st.table r = some (.key cap) → st.keystore = some backend →
      Serves st (.sign r message)
        (backend.sign cap.badge cap.key message >>= fun x => .ret (.bytes (signed x)))
  | read {r cap backend} : T.get st.table r = some (.file cap) → st.filesystem = some backend →
      Serves st (.read r)
        (backend.read cap.badge cap.file (zeros MAX_BLOCK_LEN).val >>= fun x => .ret (.bytes (readBack x)))
  | write {r bytes cap backend} : T.get st.table r = some (.file cap) → bytes.val.length ≤ MAX_BLOCK_LEN →
      st.filesystem = some backend → Serves st (.write r bytes)
        (backend.write cap.badge cap.file bytes >>= fun x => .ret (.written (written x)))
  | now {clock} : st.clock = some clock →
      Serves st .now (Clocked.callFn clock.now_ns >>= fun t => .ret (.time t))
  | resolution {clock} : st.clock = some clock → Serves st .resolution (.ret (.time clock.resolution_ns))
  | unclocked {c} : c = .now ∨ c = .resolution → st.clock = none →
      Serves st c (.panic "monotonic-clock linked without a source")

theorem encrypt_serves (st : RuntimeState T E) (r : Handle) (nonce aad plaintext : WitList) :
    Serves st (.encrypt r nonce aad plaintext)
      ((keystore.encrypt st r nonce aad plaintext).run >>= fun x => .ret (.encrypted x)) := by
  rw [keystore.encrypt_run]
  rcases keystore_cap_cases st r with ⟨cap, hg, hcap⟩ | ⟨hn, hcap⟩ <;> rw [hcap]
  · rcases fixed_len_cases NONCE_LEN nonce with ⟨n, hn, hl, hf⟩ | ⟨hl, hf⟩ <;> rw [hf]
    · unfold RuntimeState.keystore_backend
      cases hb : st.keystore with
      | none =>
        exact .unattached rfl hg rfl (by simpa [GuestCall.wellFormed] using hl) (by simp [RuntimeState.attached, hb])
      | some backend =>
        simp only [Option.elim_some, Prog.bind_assoc, Prog.ret_bind]
        exact .encrypt hg hn hb
    · exact .malformed rfl hg rfl (by simpa [GuestCall.wellFormed] using hl)
  · exact .dead rfl hn

theorem decrypt_serves (st : RuntimeState T E) (r : Handle) (nonce aad ciphertext tag : WitList) :
    Serves st (.decrypt r nonce aad ciphertext tag)
      ((keystore.decrypt st r nonce aad ciphertext tag).run >>= fun x => .ret (.bytes x)) := by
  rw [keystore.decrypt_run]
  rcases keystore_cap_cases st r with ⟨cap, hg, hcap⟩ | ⟨hn, hcap⟩ <;> rw [hcap]
  · rcases fixed_len_cases NONCE_LEN nonce with ⟨n, hn, hl, hf⟩ | ⟨hl, hf⟩ <;> rw [hf]
    · rcases fixed_len_cases TAG_LEN tag with ⟨t, ht, hl', hf'⟩ | ⟨hl', hf'⟩ <;> rw [hf']
      · unfold RuntimeState.keystore_backend
        cases hb : st.keystore with
        | none =>
          exact .unattached rfl hg rfl (by simpa [GuestCall.wellFormed] using ⟨hl, hl'⟩)
            (by simp [RuntimeState.attached, hb])
        | some backend =>
          simp only [Option.elim_some, Prog.bind_assoc, Prog.ret_bind]
          exact .decrypt hg hn ht hb
      · exact .malformed rfl hg rfl (by simp [GuestCall.wellFormed, hl'])
    · exact .malformed rfl hg rfl (by simp [GuestCall.wellFormed, hl])
  · exact .dead rfl hn

theorem sign_serves (st : RuntimeState T E) (r : Handle) (message : WitList) :
    Serves st (.sign r message) ((keystore.sign st r message).run >>= fun x => .ret (.bytes x)) := by
  rw [keystore.sign_run]
  rcases keystore_cap_cases st r with ⟨cap, hg, hcap⟩ | ⟨hn, hcap⟩ <;> rw [hcap]
  · unfold RuntimeState.keystore_backend
    cases hb : st.keystore with
    | none => exact .unattached rfl hg rfl rfl (by simp [RuntimeState.attached, hb])
    | some backend =>
      simp only [Option.elim_some, Prog.bind_assoc, Prog.ret_bind]
      exact .sign hg hb
  · exact .dead rfl hn

theorem read_serves (st : RuntimeState T E) (r : Handle) :
    Serves st (.read r) ((filesystem.read st r).run >>= fun x => .ret (.bytes x)) := by
  rw [filesystem.read_run]
  rcases file_cap_cases st r with ⟨cap, hg, hcap⟩ | ⟨hn, hcap⟩ <;> rw [hcap]
  · unfold RuntimeState.filesystem_backend
    cases hb : st.filesystem with
    | none => exact .unattached rfl hg rfl rfl (by simp [RuntimeState.attached, hb])
    | some backend =>
      simp only [Option.elim_some, Prog.bind_assoc, Prog.ret_bind]
      exact .read hg hb
  · exact .dead rfl hn

theorem write_serves (st : RuntimeState T E) (r : Handle) (bytes : WitList) :
    Serves st (.write r bytes) ((filesystem.write st r bytes).run >>= fun x => .ret (.written x)) := by
  rw [filesystem.write_run]
  rcases file_cap_cases st r with ⟨cap, hg, hcap⟩ | ⟨hn, hcap⟩ <;> rw [hcap]
  · by_cases hl : bytes.val.length > MAX_BLOCK_LEN
    · simp only [hl, if_true]
      exact .malformed rfl hg rfl (by simpa [GuestCall.wellFormed] using hl)
    · simp only [hl, if_false]
      unfold RuntimeState.filesystem_backend
      cases hb : st.filesystem with
      | none =>
        exact .unattached rfl hg rfl (by simpa [GuestCall.wellFormed] using hl) (by simp [RuntimeState.attached, hb])
      | some backend =>
        simp only [Option.elim_some, Prog.bind_assoc, Prog.ret_bind]
        exact .write hg (Nat.le_of_not_lt hl) hb
  · exact .dead rfl hn

/-- Every operation is answered in one of the ways of `Serves`, and leaves the state alone. -/
theorem serves_of (st : RuntimeState T E) {c : GuestCall} (hc : c.isOperation = true) :
    ∃ p, Serves st c p ∧ call st c = p >>= fun reply => .ret (st, reply) := by
  cases c with
  | keystoreOpen | filesystemOpen | keyDrop | fileDrop => cases hc
  | encrypt r nonce aad plaintext =>
    exact ⟨_, encrypt_serves st r nonce aad plaintext, by rw [Prog.bind_assoc]; rfl⟩
  | decrypt r nonce aad ciphertext tag =>
    exact ⟨_, decrypt_serves st r nonce aad ciphertext tag, by rw [Prog.bind_assoc]; rfl⟩
  | sign r message => exact ⟨_, sign_serves st r message, by rw [Prog.bind_assoc]; rfl⟩
  | read r => exact ⟨_, read_serves st r, by rw [Prog.bind_assoc]; rfl⟩
  | write r bytes => exact ⟨_, write_serves st r bytes, by rw [Prog.bind_assoc]; rfl⟩
  | now =>
    unfold call monotonic_clock.now
    cases h : st.clock with
    | none => exact ⟨_, .unclocked (.inl rfl) h, rfl⟩
    | some clock => exact ⟨_, .now h, by rw [Prog.bind_assoc]; rfl⟩
  | resolution =>
    unfold call monotonic_clock.resolution
    cases h : st.clock with
    | none => exact ⟨_, .unclocked (.inr rfl) h, rfl⟩
    | some clock => exact ⟨_, .resolution h, rfl⟩

end Clocked

end LanternRuntime.Host

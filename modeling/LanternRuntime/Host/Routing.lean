import LanternRuntime.Host.Calls
import LanternRuntime.Host.Wire
/-!
# Where a guest's calls go

The ledger of a session is what its opens and drops say about each handle:
`lastEvent hist r` is the last thing that happened to `r`. `ledger_of` shows
that the resource table never holds more than the ledger: a live handle is
backed by the manifest slot it was last opened from.

With it, `guest_calls_routed` says where every call of every session goes,
whatever the services answer.
-/
open ProgLib

namespace LanternRuntime.Host

abbrev HostStep (E : Sig) := Step E GuestCall GuestReply

variable {T : ResourceTable} {E : Sig}

/-! ## The ledger -/

/-- Something that happened to a handle. -/
inductive TableEvent where
  | opened (interface : ServiceEndpoint) (handle : Handle) (slot : UInt32)
  | dropped (handle : Handle)
  deriving DecidableEq

def TableEvent.handle : TableEvent → Handle
  | .opened _ handle _ | .dropped handle => handle

/-- A successful open or drop is an event, nothing else is. -/
def tableEvent : GuestCall → GuestReply → Option TableEvent
  | .keystoreOpen slot, .opened (some handle) => some (.opened .Keystore handle slot)
  | .filesystemOpen slot, .opened (some handle) => some (.opened .Filesystem handle slot)
  | .keyDrop handle, .dropped true => some (.dropped handle)
  | .fileDrop handle, .dropped true => some (.dropped handle)
  | _, _ => none

/-- The most recent event on `r`. -/
def lastEvent (hist : List (HostStep E)) (r : Handle) : Option TableEvent :=
  ((hist.filterMap fun e => tableEvent e.call e.reply).filter fun ev => ev.handle = r).getLast?

theorem lastEvent_snoc (hist : List (HostStep E)) (e : HostStep E) (r : Handle) :
    lastEvent (hist ++ [e]) r = match tableEvent e.call e.reply with
      | some ev => if ev.handle = r then some ev else lastEvent hist r
      | none => lastEvent hist r := by
  unfold lastEvent
  rw [List.filterMap_append, List.filter_append]
  cases h : tableEvent e.call e.reply with
  | none => simp [h]
  | some ev =>
    by_cases hr : ev.handle = r
    · simp [h, hr]
    · simp [h, hr]

/-- The record a manifest has at a slot of an interface. -/
def GrantManifest.granted (m : GrantManifest) (slot : UInt32) : ServiceEndpoint → Option Entry
  | .Keystore => (m.keystore_keys[slot.toNat]?.join).map .key
  | .Filesystem => (m.filesystem_files[slot.toNat]?.join).map .file

/-- The state agrees with the manifest it started from, and its table with the
ledger: what a handle holds is what its last event put there. -/
structure Ledger (m : GrantManifest) (ks : Option (KeystoreService E)) (fs : Option (FilesystemService E))
    (hist : List (HostStep E)) (st : RuntimeState T E) : Prop where
  keys : st.keys = m.keystore_keys
  files : st.files = m.filesystem_files
  clock : st.clock = m.monotonic_clock
  keystore : st.keystore = ks
  filesystem : st.filesystem = fs
  live : ∀ r x, T.get st.table r = some x → ∃ slot, lastEvent hist r = some (.opened x.interface r slot) ∧
    m.granted slot x.interface = some x

section Ledger
variable {m : GrantManifest} {ks : Option (KeystoreService E)} {fs : Option (FilesystemService E)}
  {hist : List (HostStep E)} {st : RuntimeState T E}

theorem ledger_start : Ledger m ks fs [] (RuntimeState.attach m ks fs : RuntimeState T E) where
  keys := rfl
  files := rfl
  clock := rfl
  keystore := rfl
  filesystem := rfl
  live := by
    intro r x h
    have hn : T.get T.new r = some x := h
    rw [T.get_new] at hn
    cases hn

/-- A step without a table event. -/
theorem ledger_quiet (hl : Ledger m ks fs hist st) {e : HostStep E} (he : tableEvent e.call e.reply = none) :
    Ledger m ks fs (hist ++ [e]) st := by
  refine { hl with live := ?_ }
  intro r x hx
  rw [lastEvent_snoc, he]
  exact hl.live r x hx

/-- An open: the pushed entry is the one the manifest has at the opened slot. -/
theorem ledger_push (hl : Ledger m ks fs hist st) {e : HostStep E} {x : Entry} {r : Handle} {slot : UInt32}
    {table : T.Table} (he : tableEvent e.call e.reply = some (.opened x.interface r slot))
    (hp : T.push st.table x = some (r, table)) (hg : m.granted slot x.interface = some x) :
    Ledger m ks fs (hist ++ [e]) { st with table := table } := by
  refine { hl with live := ?_ }
  intro r' y hy
  rw [lastEvent_snoc, he]
  -- What is live now was pushed just now, or was live before under another handle.
  rcases T.get_push hp hy with ⟨rfl, rfl⟩ | ⟨hne, hy'⟩
  · exact ⟨slot, if_pos rfl, hg⟩
  · have hother : (TableEvent.opened x.interface r slot).handle ≠ r' := Ne.symm hne
    simp only [if_neg hother]
    exact hl.live r' y hy'

/-- A drop: what it leaves was there before, and a handle it reports as dropped
holds nothing. -/
theorem ledger_delete (hl : Ledger m ks fs hist st) {e : HostStep E} {want : Entry → Bool} {r : Handle}
    (he : tableEvent e.call e.reply = if (T.delete st.table want r).1 then some (.dropped r) else none) :
    Ledger m ks fs (hist ++ [e]) { st with table := (T.delete st.table want r).2 } := by
  refine { hl with live := ?_ }
  intro r' x hx
  have hlive := hl.live r' x (T.get_delete hx)
  rw [lastEvent_snoc, he]
  cases hd : (T.delete st.table want r).1 with
  | false => exact hlive
  | true =>
    -- A handle that was dropped holds nothing, so the live one is another.
    have hother : (TableEvent.dropped r).handle ≠ r' := by
      intro hr
      rw [← hr, show (TableEvent.dropped r).handle = r from rfl, T.get_delete_self hd] at hx
      cases hx
    simp only [if_true, if_neg hother]
    exact hlive

/-- One call keeps the ledger. -/
theorem ledger_step (hl : Ledger m ks fs hist st) {c : GuestCall} {r : GuestReply} {table : T.Table}
    (hm : Moves st c r table) (tr : List (Event E)) :
    Ledger m ks fs (hist ++ [⟨c, r, tr⟩]) { st with table := table } := by
  cases hm with
  | keyOpened hk hp => exact ledger_push hl rfl hp (by simp [GrantManifest.granted, Entry.interface, ← hl.keys, hk])
  | fileOpened hf hp => exact ledger_push hl rfl hp (by simp [GrantManifest.granted, Entry.interface, ← hl.files, hf])
  | @keyDropped key =>
    apply ledger_delete hl
    cases (T.delete st.table Entry.isKey key).1 <;> rfl
  | @fileDropped file =>
    apply ledger_delete hl
    cases (T.delete st.table Entry.isFile file).1 <;> rfl
  | keyDeclined => exact ledger_quiet hl rfl
  | fileDeclined => exact ledger_quiet hl rfl
  | operated ho =>
    apply ledger_quiet hl
    cases c <;> first | rfl | cases ho

/-- The ledger holds after every session. -/
theorem ledger_of [Crates] [Clocked E] (h : Session call (RuntimeState.attach m ks fs) hist st) :
    Ledger m ks fs hist st := by
  refine h.inv ledger_start ?_
  intro hist s c tr s' r hl hr
  obtain ⟨table, rfl, hm⟩ := moves_of hr
  exact ledger_step hl hm tr

end Ledger

/-! ## One operation, outside -/

/-- The service call a guest call makes through the entry behind its handle. -/
inductive Forwards : GuestCall → Entry → ServiceCall → Prop
  | encrypt {r nonce aad plaintext cap n} : n.val = nonce.val →
      Forwards (.encrypt r nonce aad plaintext) (.key cap) (.encrypt cap.badge cap.key n aad plaintext)
  | decrypt {r nonce aad ciphertext tag cap n t} : n.val = nonce.val → t.val = tag.val →
      Forwards (.decrypt r nonce aad ciphertext tag) (.key cap) (.decrypt cap.badge cap.key n aad ciphertext t)
  | sign {r message cap} : Forwards (.sign r message) (.key cap) (.sign cap.badge cap.key message)
  | read {r cap} : Forwards (.read r) (.file cap) (.read cap.badge cap.file (zeros MAX_BLOCK_LEN).val)
  | write {r bytes cap} : bytes.val.length ≤ MAX_BLOCK_LEN →
      Forwards (.write r bytes) (.file cap) (.write cap.badge cap.file bytes)

/-- The service call names an object, and a badge for it, that the manifest grants. -/
def ServiceCall.GrantedBy (m : GrantManifest) : ServiceCall → Prop
  | .encrypt badge key _ _ _ | .decrypt badge key _ _ _ _ | .sign badge key _ =>
    ∃ cap, some cap ∈ m.keystore_keys ∧ cap.badge = badge ∧ cap.key = key
  | .read badge file _ | .write badge file _ =>
    ∃ cap, some cap ∈ m.filesystem_files ∧ cap.badge = badge ∧ cap.file = file
  | .now_ns f => ∃ clock, m.monotonic_clock = some clock ∧ clock.now_ns = f

theorem forwards_granted {m : GrantManifest} {slot : UInt32} {i : ServiceEndpoint} {c : GuestCall} {x : Entry}
    {sc : ServiceCall} (hg : m.granted slot i = some x) (hf : Forwards c x sc) : sc.GrantedBy m := by
  cases i with
  | Keystore =>
    obtain ⟨cap, hk, rfl⟩ := Option.map_eq_some_iff.1 hg
    have hm : some cap ∈ m.keystore_keys := List.mem_of_getElem? (Option.join_eq_some_iff.1 hk)
    cases hf <;> exact ⟨cap, hm, rfl, rfl⟩
  | Filesystem =>
    obtain ⟨cap, hk, rfl⟩ := Option.map_eq_some_iff.1 hg
    have hm : some cap ∈ m.filesystem_files := List.mem_of_getElem? (Option.join_eq_some_iff.1 hk)
    cases hf <;> exact ⟨cap, hm, rfl, rfl⟩

/-- What the guest is shown of an answer. -/
def ServiceCall.shown [Crates] : (sc : ServiceCall) → sc.Ans → GuestReply
  | .encrypt .., x => .encrypted (encrypted x)
  | .decrypt .., x => .bytes (decrypted x)
  | .sign .., x => .bytes (signed x)
  | .read .., x => .bytes (readBack x)
  | .write .., x => .written (written x)
  | .now_ns _, t => .time t

def GuestReply.isAccess : GuestReply → Bool
  | .encrypted (.error .Access) | .bytes (.error .Access) | .written (.error .Access) => true
  | _ => false

/-- The services a state was given, if any, are the outside ones. -/
structure Outside (st : RuntimeState T Services) : Prop where
  keystore : ∀ backend, st.keystore = some backend → backend = outsideKeystore
  filesystem : ∀ backend, st.filesystem = some backend → backend = outsideFilesystem

theorem outside_attach {m : GrantManifest} {ks fs : Bool} {st : RuntimeState T Services}
    {hist : List (HostStep Services)}
    (hl : Ledger m (if ks then some outsideKeystore else none) (if fs then some outsideFilesystem else none) hist st) :
    Outside st where
  keystore backend h := by
    rw [hl.keystore] at h
    cases ks <;> cases h; rfl
  filesystem backend h := by
    rw [hl.filesystem] at h
    cases fs <;> cases h; rfl

/-- What an operation does outside and what the guest then sees. -/
inductive Asks [Crates] (st : RuntimeState T Services) : GuestCall → List (Event Services) → GuestReply → Prop
  /-- It fails before any service is called: with `access` if the handle is dead. -/
  | refused {c i r e} : c.handle? = some (i, r) → (∃ x, T.get st.table r = some x ∧ x.interface = i) ∨ e = .Access →
      Asks st c [] (c.fail e)
  /-- It is one service call through a live handle. -/
  | forwarded {c i r x sc a} : c.handle? = some (i, r) → T.get st.table r = some x → x.interface = i →
      Forwards c x sc → Asks st c [⟨sc, a⟩] (sc.shown a)
  | clock {clock} {t : UInt64} : st.clock = some clock → Asks st .now [⟨.now_ns clock.now_ns, t⟩] (.time t)
  | resolution {clock} : st.clock = some clock → Asks st .resolution [] (.time clock.resolution_ns)

/-- The state after an operation is the state before, and `Asks` says the rest. -/
theorem asks_of [Crates] {st st' : RuntimeState T Services} {c : GuestCall} {reply : GuestReply}
    {tr : List (Event Services)} (ho : Outside st) (hc : c.isOperation = true)
    (h : Runs (call st c) tr (.ret (st', reply))) : st' = st ∧ Asks st c tr reply := by
  obtain ⟨p, hs, hp⟩ := serves_of st hc
  rw [hp] at h
  obtain ⟨x, hr, he⟩ := runs_bind_ret.1 h
  cases he
  refine ⟨rfl, ?_⟩
  cases hs with
  | dead hh hn =>
    obtain ⟨rfl, he⟩ := runs_ret.1 hr
    cases he
    exact .refused hh (.inr rfl)
  | malformed hh hg hi | unattached hh hg hi =>
    obtain ⟨rfl, he⟩ := runs_ret.1 hr
    cases he
    exact .refused hh (.inl ⟨_, hg, hi⟩)
  | encrypt hg hn hb =>
    obtain rfl := ho.keystore _ hb
    obtain ⟨a, rfl, rfl⟩ := runs_call_ret hr
    exact .forwarded rfl hg rfl (.encrypt hn)
  | decrypt hg hn ht hb =>
    obtain rfl := ho.keystore _ hb
    obtain ⟨a, rfl, rfl⟩ := runs_call_ret hr
    exact .forwarded rfl hg rfl (.decrypt hn ht)
  | sign hg hb =>
    obtain rfl := ho.keystore _ hb
    obtain ⟨a, rfl, rfl⟩ := runs_call_ret hr
    exact .forwarded rfl hg rfl .sign
  | read hg hb =>
    obtain rfl := ho.filesystem _ hb
    obtain ⟨a, rfl, rfl⟩ := runs_call_ret hr
    exact .forwarded rfl hg rfl .read
  | write hg hl hb =>
    obtain rfl := ho.filesystem _ hb
    obtain ⟨a, rfl, rfl⟩ := runs_call_ret hr
    exact .forwarded rfl hg rfl (.write hl)
  | now hk =>
    obtain ⟨a, rfl, rfl⟩ := runs_call_ret hr
    exact .clock hk
  | resolution hk =>
    obtain ⟨rfl, he⟩ := runs_ret.1 hr
    cases he
    exact .resolution hk
  | unclocked hk => cases hr

/-! ## Routing -/

/-- How a step that follows `hist` is routed. -/
structure Routed (m : GrantManifest) (hist : List (HostStep Services)) (e : HostStep Services) : Prop where
  /-- An operation reaches its service only through a handle last opened from a slot of
  the same interface, once, and with the badge and object of that slot. -/
  forwarded : ∀ i r, e.call.handle? = some (i, r) → e.trace = [] ∨ ∃ slot x sc a,
    lastEvent hist r = some (.opened i r slot) ∧ m.granted slot i = some x ∧ Forwards e.call x sc ∧
    e.trace = [⟨sc, a⟩]
  /-- Otherwise it reads `access` and no service is called. -/
  denied : ∀ i r, e.call.handle? = some (i, r) → (∀ slot, lastEvent hist r ≠ some (.opened i r slot)) →
    e.trace = [] ∧ e.reply.isAccess = true
  /-- Opens and drops call no service. -/
  quiet : e.call.isOperation = false → e.trace = []
  /-- No service sees a badge and object the manifest does not grant together. -/
  granted : ∀ ev ∈ e.trace, ev.call.GrantedBy m

theorem isAccess_fail (c : GuestCall) : (c.fail .Access).isAccess = true := by
  cases c <;> rfl

/-- An operation is routed by the last event of its handle. -/
theorem routed_of_asks [Crates] {m : GrantManifest} {ks : Option (KeystoreService Services)}
    {fs : Option (FilesystemService Services)} {hist : List (HostStep Services)} {st : RuntimeState T Services}
    {c : GuestCall} {reply : GuestReply} {tr : List (Event Services)} (hl : Ledger m ks fs hist st)
    (hop : c.isOperation = true) (ha : Asks st c tr reply) : Routed m hist ⟨c, reply, tr⟩ := by
  have hquiet : c.isOperation = false → tr = [] := by simp [hop]
  cases ha with
  | @refused _ i r e hh hlive =>
    refine ⟨fun _ _ _ => .inl rfl, ?_, hquiet, by simp⟩
    intro i' r' hh' hno
    obtain ⟨rfl, rfl⟩ : i = i' ∧ r = r' := by simpa [hh] using hh'
    rcases hlive with ⟨x, hg, hi⟩ | rfl
    · obtain ⟨slot, hlast, -⟩ := hl.live r x hg
      exact absurd (hi ▸ hlast) (hno slot)
    · exact ⟨rfl, isAccess_fail c⟩
  | @forwarded _ i r x sc a hh hg hi hf =>
    obtain ⟨slot, hlast, hgr⟩ := hl.live r x hg
    rw [hi] at hlast hgr
    refine ⟨?_, ?_, hquiet, ?_⟩
    · intro i' r' hh'
      obtain ⟨rfl, rfl⟩ : i = i' ∧ r = r' := by simpa [hh] using hh'
      exact .inr ⟨slot, x, sc, a, hlast, hgr, hf, rfl⟩
    · intro i' r' hh' hno
      obtain ⟨rfl, rfl⟩ : i = i' ∧ r = r' := by simpa [hh] using hh'
      exact absurd hlast (hno slot)
    · intro ev hev
      rw [List.mem_singleton.1 hev]
      exact forwards_granted hgr hf
  | @clock clock t hk =>
    refine ⟨(fun _ _ hh => nomatch hh), (fun _ _ hh => nomatch hh), hquiet, ?_⟩
    intro ev hev
    rw [List.mem_singleton.1 hev]
    exact ⟨clock, hl.clock ▸ hk, rfl⟩
  | resolution => exact ⟨(fun _ _ hh => nomatch hh), (fun _ _ hh => nomatch hh), hquiet, by simp⟩

/-- In every session of a guest with the state of any manifest, with or without
either service attached and whatever the services answer, every call is routed
by its handle's last table event. -/
theorem guest_calls_routed [Crates] (T : ResourceTable) (m : GrantManifest) (ks fs : Bool)
    (pre post : List (HostStep Services)) (e : HostStep Services) (st : RuntimeState T Services)
    (h : Session call (RuntimeState.attach m (if ks then some outsideKeystore else none)
      (if fs then some outsideFilesystem else none)) (pre ++ e :: post) st) : Routed m pre e := by
  obtain ⟨s₁, s₂, h₁, hr⟩ := h.at
  have hl := ledger_of h₁
  by_cases hop : e.call.isOperation = true
  · exact routed_of_asks hl hop (asks_of (outside_attach hl) hop hr).2
  · have htr := trace_of_not_operation (by simpa using hop) hr
    -- Only an operation goes through a handle.
    have hno : ∀ i r, e.call.handle? ≠ some (i, r) := by
      intro i r hh
      cases hc : e.call <;> rw [hc] at hh hop <;> first | exact hop rfl | cases hh
    exact ⟨fun i r hh => absurd hh (hno i r), fun i r hh => absurd hh (hno i r), fun _ => htr, by simp [htr]⟩

/-- One declined and one granted key. -/
def oneKey : GrantManifest := ⟨[none, some (.keystore_key 7 (.from_raw 3))], [], none⟩

/-- Services that refuse every call. -/
def refusing (ke : KeystoreError) (se : StoreError) : Handler Services Unit
  | .encrypt _ _ _ _ buffer, s => ((.same buffer, .error ke), s)
  | .decrypt _ _ _ _ buffer _, s => ((.same buffer, .error ke), s)
  | .sign _ _ _, s => (.error ke, s)
  | .read _ _ buffer, s => ((.same buffer, .error se), s)
  | .write _ _ _, s => (.error se, s)
  | .now_ns _, s => ((0 : UInt64), s)

/-- The granted slot is opened, and the service is asked and refuses. -/
theorem guest_calls_routed_sign :
    letI := lengthPrefixed
    Routed oneKey [⟨.keystoreOpen 1, .opened (some 0), []⟩]
      ⟨.sign 0 ⟨[], by decide⟩, .bytes (.error .Access), [⟨.sign 7 (.from_raw 3) [], .error .BadgeRevoked⟩]⟩ :=
  letI := lengthPrefixed
  guest_calls_routed (slabTable Entry 1 (by decide)) oneKey true false _ [] _ _
    (replay_served (refusing .BadgeRevoked .BadgeRevoked) call
      [.keystoreOpen 1, .sign 0 ⟨[], by decide⟩] () () rfl).session

end LanternRuntime.Host

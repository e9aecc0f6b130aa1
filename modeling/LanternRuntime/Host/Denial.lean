import LanternRuntime.Host.Routing
import LanternRuntime.Host.Simulation
/-!
# The reason for a denial

`Denied` is the family of refusals that must look alike. `denial_reason_hidden`
is a statement about two runs: an adaptive guest cannot tell services apart
that differ only in which member of the family they refuse with.
-/
open ProgLib

namespace LanternRuntime.Host

variable {T : ResourceTable} {σ σ' : Type}

@[simp] theorem isAccess_encrypted (r : Except ErrorCode (Bytes × Bytes)) :
    (GuestReply.encrypted r).isAccess = true ↔ r = .error .Access := by
  rcases r with (_ | _) | _ <;> simp [GuestReply.isAccess]

@[simp] theorem isAccess_bytes (r : Except ErrorCode Bytes) :
    (GuestReply.bytes r).isAccess = true ↔ r = .error .Access := by
  rcases r with (_ | _) | _ <;> simp [GuestReply.isAccess]

@[simp] theorem isAccess_written (r : Except ErrorCode Unit) :
    (GuestReply.written r).isAccess = true ↔ r = .error .Access := by
  rcases r with (_ | _) | _ <;> simp [GuestReply.isAccess]

section Denied
variable [Crates]

/-- Unknown, revoked, not granted, wrong, missing or destroyed, or a remote that says so. -/
def KeystoreError.Denied (e : KeystoreError) : Prop :=
  e ∈ [.UnknownBadge, .BadgeRevoked, .OpNotGranted, .WrongKey, .NoSuchKey, .KeyDestroyed,
    .RemoteDenied Crates.crypto_ACCESS]

def StoreError.Denied (e : StoreError) : Prop :=
  e ∈ [.UnknownBadge, .BadgeRevoked, .OpNotGranted, .WrongFile, .NoSuchFile, .FileDestroyed,
    .RemoteCryptoDenied Crates.fs_ACCESS]

/-- The two translations send the family, and nothing else, to `access`. -/
theorem to_error_code_denied (e : KeystoreError) : to_error_code e = .Access ↔ e.Denied := by
  cases e with
  | RemoteDenied status => simp [to_error_code, KeystoreError.Denied]
  | _ => simp [to_error_code, KeystoreError.Denied]

theorem to_fs_error_code_denied (e : StoreError) : to_fs_error_code e = .Access ↔ e.Denied := by
  cases e with
  | RemoteCryptoDenied status => simp [to_fs_error_code, StoreError.Denied]
  | _ => simp [to_fs_error_code, StoreError.Denied]

/-- The error a service answered with. -/
def ServiceCall.refusal : (sc : ServiceCall) → sc.Ans → Option (KeystoreError ⊕ StoreError)
  | .encrypt .., (_, .error e) => some (.inl e)
  | .decrypt .., (_, .error e) => some (.inl e)
  | .sign .., .error e => some (.inl e)
  | .read .., (_, .error e) => some (.inr e)
  | .write .., .error e => some (.inr e)
  | _, _ => none

def Denied (sc : ServiceCall) (a : sc.Ans) : Prop :=
  ∃ e, sc.refusal a = some e ∧ e.elim KeystoreError.Denied StoreError.Denied

/-- The answers are the same, or both deny. -/
def Alike (sc : ServiceCall) (a a' : sc.Ans) : Prop :=
  a = a' ∨ (Denied sc a ∧ Denied sc a')

/-- The guest sees a denial, and nothing else, as `access`. -/
theorem shown_isAccess {sc : ServiceCall} {a : sc.Ans} : (sc.shown a).isAccess = true ↔ Denied sc a := by
  unfold Denied
  cases sc with
  | encrypt =>
    obtain ⟨buffer, e | tag⟩ := a
    · simp [ServiceCall.shown, encrypted, ServiceCall.refusal, to_error_code_denied]
    · simp [ServiceCall.shown, encrypted, ServiceCall.refusal, GuestReply.isAccess]
  | decrypt =>
    obtain ⟨buffer, e | u⟩ := a
    · simp [ServiceCall.shown, decrypted, ServiceCall.refusal, to_error_code_denied]
    · simp [ServiceCall.shown, decrypted, ServiceCall.refusal, GuestReply.isAccess]
  | sign =>
    obtain e | b := a
    · simp [ServiceCall.shown, signed, Except.mapError, ServiceCall.refusal, to_error_code_denied]
    · simp [ServiceCall.shown, signed, Except.mapError, ServiceCall.refusal, GuestReply.isAccess]
  | read =>
    obtain ⟨buffer, e | n⟩ := a
    · by_cases he : e = .FileEmpty
      -- An empty file is an answer, not a refusal.
      · subst he
        simp [ServiceCall.shown, readBack, ServiceCall.refusal, GuestReply.isAccess, StoreError.Denied]
      · simp [ServiceCall.shown, readBack_error he, ServiceCall.refusal, to_fs_error_code_denied]
    · simp [ServiceCall.shown, readBack, ServiceCall.refusal, GuestReply.isAccess]
  | write =>
    obtain e | u := a
    · simp [ServiceCall.shown, written, Except.mapError, ServiceCall.refusal, to_fs_error_code_denied]
    · simp [ServiceCall.shown, written, Except.mapError, ServiceCall.refusal, GuestReply.isAccess]
  | now_ns => simp [ServiceCall.shown, ServiceCall.refusal, GuestReply.isAccess]

/-- Two answers that deny are shown alike. -/
theorem shown_of_alike {sc : ServiceCall} {a a' : sc.Ans} (h : Alike sc a a') : sc.shown a = sc.shown a' := by
  rcases h with rfl | ⟨hd, hd'⟩
  · rfl
  · have ha := shown_isAccess.2 hd
    have ha' := shown_isAccess.2 hd'
    cases sc with
    | encrypt =>
      rw [ServiceCall.shown, isAccess_encrypted] at ha ha'
      rw [ServiceCall.shown, ServiceCall.shown, ha, ha']
    | decrypt | sign | read =>
      rw [ServiceCall.shown, isAccess_bytes] at ha ha'
      rw [ServiceCall.shown, ServiceCall.shown, ha, ha']
    | write =>
      rw [ServiceCall.shown, isAccess_written] at ha ha'
      rw [ServiceCall.shown, ServiceCall.shown, ha, ha']
    | now_ns => cases ha

/-! ## Services that differ in their reasons -/

/-- In related states the services answer every call alike, and stay related. -/
def SameButReasons (h : Handler Services σ) (h' : Handler Services σ') (R : σ → σ' → Prop) : Prop :=
  ∀ sc s s', R s s' → Alike sc (h sc s).1 (h' sc s').1 ∧ R (h sc s).2 (h' sc s').2

section Sim
variable {h : Handler Services σ} {h' : Handler Services σ'} {R : σ → σ' → Prop}

theorem SameButReasons.keystore (hR : SameButReasons h h' R) (ok : Entry → Prop) :
    KeystoreSim h h' R ok outsideKeystore outsideKeystore where
  encrypt cap _ nonce aad buffer s s' hs := by
    obtain ⟨ha, hs'⟩ := hR (.encrypt cap.badge cap.key nonce aad buffer) s s' hs
    exact ⟨GuestReply.encrypted.inj (shown_of_alike ha), hs'⟩
  decrypt cap _ nonce aad buffer tag s s' hs := by
    obtain ⟨ha, hs'⟩ := hR (.decrypt cap.badge cap.key nonce aad buffer tag) s s' hs
    exact ⟨GuestReply.bytes.inj (shown_of_alike ha), hs'⟩
  sign cap _ message s s' hs := by
    obtain ⟨ha, hs'⟩ := hR (.sign cap.badge cap.key message) s s' hs
    exact ⟨GuestReply.bytes.inj (shown_of_alike ha), hs'⟩

theorem SameButReasons.filesystem (hR : SameButReasons h h' R) (ok : Entry → Prop) :
    FilesystemSim h h' R ok outsideFilesystem outsideFilesystem where
  read cap _ s s' hs := by
    obtain ⟨ha, hs'⟩ := hR (.read cap.badge cap.file (zeros MAX_BLOCK_LEN).val) s s' hs
    exact ⟨GuestReply.bytes.inj (shown_of_alike ha), hs'⟩
  write cap _ data _ s s' hs := by
    obtain ⟨ha, hs'⟩ := hR (.write cap.badge cap.file data) s s' hs
    exact ⟨GuestReply.written.inj (shown_of_alike ha), hs'⟩

theorem SameButReasons.clock (hR : SameButReasons h h' R) (f : FnPtr) :
    Sim h h' R Eq (Clocked.callFn (E := Services) f) (Clocked.callFn (E := Services) f) := by
  intro s s' hs
  obtain ⟨ha, hs'⟩ := hR (.now_ns f) s s' hs
  exact ⟨GuestReply.time.inj (shown_of_alike ha), hs'⟩

end Sim

/-- Every denial the step met is shown as `access`, and no other refusal is. -/
def HidesReason (e : HostStep Services) : Prop :=
  ∀ ev ∈ e.trace, (Denied ev.call ev.ans → e.reply.isAccess = true) ∧
    ((∃ err, ev.call.refusal ev.ans = some err) → ¬ Denied ev.call ev.ans → e.reply.isAccess = false)

/-- In every session, whatever the services answer. -/
theorem session_hides {m : GrantManifest} {ks fs : Bool} {hist : List (HostStep Services)}
    {st : RuntimeState T Services} (h : Session call (RuntimeState.attach m (if ks then some outsideKeystore else none)
      (if fs then some outsideFilesystem else none)) hist st) : ∀ e ∈ hist, HidesReason e := by
  intro ⟨c, reply, tr⟩ he
  obtain ⟨pre, post, rfl⟩ := List.append_of_mem he
  -- The state that served the step has the outside's own services behind it.
  obtain ⟨s₁, s₂, h₁, hr⟩ := h.at
  intro ev hev
  by_cases hop : c.isOperation = true
  · have ha : Asks s₁ c tr reply := (asks_of (outside_attach (ledger_of h₁)) hop hr).2
    cases ha with
    | refused => cases hev
    | @forwarded _ i r x sc a hh hg hi hf =>
      obtain rfl := List.mem_singleton.1 hev
      refine ⟨shown_isAccess.2, fun _ hnd => ?_⟩
      simpa using mt shown_isAccess.1 hnd
    | clock hk =>
      obtain rfl := List.mem_singleton.1 hev
      exact ⟨fun ⟨_, hd, _⟩ => (nomatch hd), fun ⟨_, hd⟩ => (nomatch hd)⟩
    | resolution => cases hev
  · rw [trace_of_not_operation (by simpa using hop) hr] at hev
    cases hev

/-- The guest that `g` plays with the host functions. -/
abbrev playGuest (T : ResourceTable) (m : GrantManifest) (ks fs : Bool) (g : List GuestReply → GuestCall) (n : Nat) :
    Prog Services (RuntimeState T Services × List GuestReply) :=
  play call g n [] (RuntimeState.attach m (if ks then some outsideKeystore else none)
    (if fs then some outsideFilesystem else none))

/-- If the guest is not cut short, its replies are those of a session in which every
denial read `access`, and no other refusal did. -/
def HidesReasons (T : ResourceTable) (m : GrantManifest) (ks fs : Bool) (g : List GuestReply → GuestCall) (n : Nat)
    (h : Handler Services σ) (s : σ) : Prop :=
  ∀ st rs s', (playGuest T m ks fs g n).run h s = (.ret (st, rs), s') →
    ∃ hist : List (HostStep Services), rs = hist.map Step.reply ∧ (∀ e ∈ hist, HidesReason e) ∧
      Served h call (RuntimeState.attach m (if ks then some outsideKeystore else none)
        (if fs then some outsideFilesystem else none)) s hist st s'

theorem play_hides (T : ResourceTable) (m : GrantManifest) (ks fs : Bool) (g : List GuestReply → GuestCall) (n : Nat)
    (h : Handler Services σ) (s : σ) : HidesReasons T m ks fs g n h s := by
  intro st rs s' hr
  obtain ⟨hist, hs, rfl, -⟩ := play_served hr
  exact ⟨hist, rfl, session_hides hs.session, hs⟩

/-- A guest that picks each call from all replies so far gets the same replies, byte for
byte, from two outsides that differ only in the reasons for which they deny, and leaves
the same handle table. -/
theorem denial_reason_hidden (T : ResourceTable) (m : GrantManifest) (ks fs : Bool) (h : Handler Services σ)
    (h' : Handler Services σ') (R : σ → σ' → Prop) (hR : SameButReasons h h' R)
    (g : List GuestReply → GuestCall) (n : Nat) (s : σ) (s' : σ') (hs : R s s') :
    OutcomeRel (fun x y => x.1.table = y.1.table ∧ x.2 = y.2) ((playGuest T m ks fs g n).run h s).1
      ((playGuest T m ks fs g n).run h' s').1 ∧
    HidesReasons T m ks fs g n h s ∧ HidesReasons T m ks fs g n h' s' := by
  have hks : Option.Rel (KeystoreSim h h' R fun _ => True) (if ks then some outsideKeystore else none)
      (if ks then some outsideKeystore else none) := by
    cases ks with
    | false => exact .none
    | true => exact .some (hR.keystore _)
  have hfs : Option.Rel (FilesystemSim h h' R fun _ => True) (if fs then some outsideFilesystem else none)
      (if fs then some outsideFilesystem else none) := by
    cases fs with
    | false => exact .none
    | true => exact .some (hR.filesystem _)
  -- The strategy reads replies only, so it makes the same calls on both sides.
  have hsim := (call_sim T h h' R fun _ => True).play (fun rs (_ : g rs = .now) => hR.clock) n []
    (Twins.attach (m := m) hks hfs (fun _ _ => trivial) (fun _ _ => trivial))
  refine ⟨((hsim.mono ?_) s s' hs).1, play_hides T m ks fs g n h s, play_hides T m ks fs g n h' s'⟩
  rintro ⟨st, rs⟩ ⟨st', rs'⟩ ⟨hv, hrs⟩
  exact ⟨hv.table.symm, hrs⟩

end Denied

/-- Open the granted key and sign with it, against services that revoked the badge and
services that never heard of it. -/
theorem denial_reason_hidden_revoked :
    letI := lengthPrefixed
    let guest := playGuest (slabTable Entry 1 (by decide)) oneKey true true
      (fun rs => if rs = [] then .keystoreOpen 1 else .sign 0 ⟨[1, 2], by decide⟩) 2
    OutcomeRel (fun x y => x.1.table = y.1.table ∧ x.2 = y.2)
      (guest.run (refusing .BadgeRevoked .BadgeRevoked) ()).1 (guest.run (refusing .UnknownBadge .WrongFile) ()).1 := by
  let _ := lengthPrefixed
  refine (denial_reason_hidden _ oneKey true true _ _ (fun _ _ => True) ?_ _ 2 () () trivial).1
  intro sc s s' _
  refine ⟨?_, trivial⟩
  cases sc with
  | now_ns => exact .inl rfl
  | _ => exact .inr ⟨shown_isAccess.1 rfl, shown_isAccess.1 rfl⟩

end LanternRuntime.Host

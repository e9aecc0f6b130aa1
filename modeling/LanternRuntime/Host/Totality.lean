import LanternRuntime.Host.Calls
import LanternRuntime.ProgLib.Rules
/-!
# Calls that come back

A guest call panics only where its backend does, or where it reads a clock that
is not there. A call that is malformed, or whose backend is not attached, comes
back before any backend is called.
-/
open ProgLib

namespace LanternRuntime.Host

variable {T : ResourceTable} {E : Sig} {A : Event E → Prop}

/-! ## Backends that do not panic -/

/-- No method panics, as long as the outside answers within `A`. -/
structure KeystoreService.Total (A : Event E → Prop) (s : KeystoreService E) : Prop where
  encrypt : ∀ badge key nonce aad buffer, Returns A (fun _ => True) (s.encrypt badge key nonce aad buffer)
  decrypt : ∀ badge key nonce aad buffer tag, Returns A (fun _ => True) (s.decrypt badge key nonce aad buffer tag)
  sign : ∀ badge key message, Returns A (fun _ => True) (s.sign badge key message)

structure FilesystemService.Total (A : Event E → Prop) (s : FilesystemService E) : Prop where
  read : ∀ badge file buffer, Returns A (fun _ => True) (s.read badge file buffer)
  write : ∀ badge file data, Returns A (fun _ => True) (s.write badge file data)

theorem outsideFilesystem_total : outsideFilesystem.Total fun _ => True where
  read _ _ _ := fun _ _ => trivial
  write _ _ _ := fun _ _ => trivial

/-- Neither do the backends of a state, if there are any. -/
structure RuntimeState.Total (A : Event E → Prop) (st : RuntimeState T E) : Prop where
  keystore : ∀ {backend}, st.keystore = some backend → backend.Total A
  filesystem : ∀ {backend}, st.filesystem = some backend → backend.Total A

section Clocked
variable [Crates] [Clocked E] {st : RuntimeState T E} {c : GuestCall}

/-! ## Calls that return -/

theorem Serves.returns {p : Prog E GuestReply} (hs : Serves st c p) (hst : st.Total A)
    (hclock : ∀ f, Returns A (fun _ => True) (Clocked.callFn f : Prog E UInt64))
    (hlinked : c = .now ∨ c = .resolution → st.clock ≠ none) : Returns A (fun _ => True) p := by
  cases hs with
  | dead | malformed | unattached | resolution => trivial
  | encrypt _ _ hb => exact ((hst.keystore hb).encrypt ..).bind fun _ _ => trivial
  | decrypt _ _ _ hb => exact ((hst.keystore hb).decrypt ..).bind fun _ _ => trivial
  | sign _ hb => exact ((hst.keystore hb).sign ..).bind fun _ _ => trivial
  | read _ hb => exact ((hst.filesystem hb).read ..).bind fun _ _ => trivial
  | write _ _ hb => exact ((hst.filesystem hb).write ..).bind fun _ _ => trivial
  | now _ => exact (hclock _).bind fun _ _ => trivial
  | unclocked hc hk => exact absurd hk (hlinked hc)

/-- Only the clock has to be there. -/
theorem call_returns (hst : st.Total A) (hclock : ∀ f, Returns A (fun _ => True) (Clocked.callFn f : Prog E UInt64))
    (hlinked : c = .now ∨ c = .resolution → st.clock ≠ none) : Returns A (fun _ => True) (call st c) := by
  by_cases hop : c.isOperation = true
  · obtain ⟨p, hs, heq⟩ := serves_of st hop
    rw [heq]
    exact (hs.returns hst hclock hlinked).bind fun _ _ => trivial
  · -- Opens and drops only look at the table.
    cases c with
    | keystoreOpen | filesystemOpen | keyDrop | fileDrop => trivial
    | _ => exact absurd rfl hop

/-! ## Calls that come back at once -/

section Handle
variable {i : ServiceEndpoint} {r : Handle} {x : Entry} (hh : c.handle? = some (i, r))

omit [Crates] [Clocked E] in
include hh in
theorem isOperation_of_handle : c.isOperation = true := by
  cases c <;> first | rfl | cases hh

include hh in
/-- A call through a handle that is not served by its backend. -/
theorem call_early {e : ErrorCode} (h : ∀ p, Serves st c p → p = .ret (c.fail e)) :
    call st c = .ret (st, c.fail e) := by
  obtain ⟨p, hs, heq⟩ := serves_of st (isOperation_of_handle hh)
  rw [heq, h p hs]
  rfl

include hh in
theorem call_unattached (hwf : c.wellFormed = true) (hno : st.attached i = false) :
    call st c = .ret (st, c.fail .Access) := by
  apply call_early hh
  intro p hs
  cases hs with
  | unattached | dead => rfl
  | malformed _ _ _ hwf' => exact absurd (hwf'.symm.trans hwf) Bool.false_ne_true
  | encrypt _ _ hb | decrypt _ _ _ hb | sign _ hb =>
    cases hh
    simp [RuntimeState.attached, hb] at hno
  | read _ hb | write _ _ hb =>
    cases hh
    simp [RuntimeState.attached, hb] at hno
  | now | resolution => cases hh
  | unclocked hc => rcases hc with rfl | rfl <;> cases hh

variable (hg : T.get st.table r = some x) (hi : x.interface = i)
include hh hg hi

theorem call_malformed (hwf : c.wellFormed = false) : call st c = .ret (st, c.fail .Invalid) := by
  apply call_early hh
  intro p hs
  cases hs with
  | malformed => rfl
  | dead hh' hno =>
    cases hh.symm.trans hh'
    exact absurd hi (hno x hg)
  | unattached _ _ _ hwf' => exact absurd (hwf.symm.trans hwf') Bool.false_ne_true
  | @encrypt _ nonce _ _ _ n _ _ hn =>
    have hlen : nonce.val.length = NONCE_LEN := hn ▸ n.property
    simp [GuestCall.wellFormed, hlen] at hwf
  | @decrypt _ nonce _ _ tag _ n t _ _ hn ht =>
    have hlen : nonce.val.length = NONCE_LEN := hn ▸ n.property
    have hlen' : tag.val.length = TAG_LEN := ht ▸ t.property
    simp [GuestCall.wellFormed, hlen, hlen'] at hwf
  | write _ hl => simp [GuestCall.wellFormed, hl] at hwf
  | sign | read => cases hwf
  | now | resolution => cases hh
  | unclocked hc => rcases hc with rfl | rfl <;> cases hh

end Handle
end Clocked
end LanternRuntime.Host

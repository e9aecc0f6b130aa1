import LanternRuntime.Confined.Outcome
/-!
# What a failure says

A `FAILURE` carries a stage and a detail. `Blame` says what the last answers of
a run were that failed so, for every pair that the program signals, and
`failure_blames` that it signals no other.
-/
open ProgLib

namespace LanternRuntime.Confined
open Host

/-! ## Causes -/

/-- Why a plan that was read is not hosted. -/
def refusalOf (plan : GrantPlan) : Option Nat :=
  if plan.monotonic_clock.isSome then some 4
  else match plan.keystore, plan.filesystem with
    | [], [] => some 2
    | _ :: _, _ :: _ => some 3
    | _, _ => none

section Causes
variable [Abi]

/-- An answer that a run fails by. -/
inductive Culprit : Stage × Nat → Event World → Prop
  | undecoded {bytes} : Culprit (.Package, 2) ⟨.decode_package_ref bytes, none⟩
  | unparsed {manifest} : Culprit (.Manifest, 1) ⟨.parse_bytes manifest, none⟩
  | refused {manifest plan detail} : refusalOf plan = some detail →
      Culprit (.Manifest, detail) ⟨.parse_bytes manifest, some plan⟩
  | unbound {dest interface e} : Culprit (.Grant, 1) ⟨.bind ENDPOINT_CPTR dest interface 0, .error e⟩
  | grantedTwice {interface} : Culprit (.Grant, 2) ⟨.bind ENDPOINT_CPTR PROBE_CPTR interface 0, .ok true⟩
  | delegated {answer : Except SysError (UInt16 × Nat)} : (∀ badge, answer ≠ .ok (Abi.status_ACCESS, badge)) →
      Culprit (.Grant, 3) ⟨.request_grant DEST_CPTR PROBE_CPTR 0 0xf, answer⟩
  | listed {entry : Except SysError (Option Nat)} : entry ≠ .ok none →
      Culprit (.Grant, 4) ⟨.list ENDPOINT_CPTR 0, entry⟩
  | revoked : Culprit (.Grant, 5) ⟨.revoke ENDPOINT_CPTR 0, .ok Abi.status_OK⟩
  | undeserialized {cwasm e} : Culprit (.Deserialize, 0) ⟨.deserialize cwasm, .error e⟩
  | unlinked {interface} : Culprit (.Link, 0) ⟨.add_to_linker interface, false⟩
  | untrapped {component} : Culprit (.Link, 1) ⟨.define_unknown_imports_as_traps component, false⟩
  | unfuelled : Culprit (.Instantiate, 0) ⟨.set_fuel DEFAULT_FUEL, false⟩
  | unfound : Culprit (.Lookup, 0) ⟨.get_typed_func "probe", false⟩
  | unopened {op ans} : chunkStatus ans ≠ some Abi.status_OK →
      Culprit (.Revocation, 1) ⟨.call_with_label DEST_CPTR op [0, 0, 0], ans⟩
  | unsignalled {e} : Culprit (.Revocation, 2) ⟨.signal REVOKE_REQUEST_CPTR, .error e⟩
  | unanswered {e} : Culprit (.Revocation, 2) ⟨.wait REVOKE_DONE_CPTR, .error e⟩
  | unclosed {op ans} : chunkStatus ans = none → Culprit (.Revocation, 1) ⟨.call_with_label DEST_CPTR op [0, 0, 0], ans⟩
  | closed {op ans status} : chunkStatus ans = some status → status ≠ Abi.status_ACCESS →
      Culprit (.Revocation, 0x100 ||| status.toNat) ⟨.call_with_label DEST_CPTR op [0, 0, 0], ans⟩

variable [Crates] (T : ResourceTable)

/-- The last answers of a run that failed so. -/
inductive Blame : Stage × Nat → Events → Prop
  | event {e ev} : Culprit e ev → Blame e [ev]
  /-- A copy that was tampered with was accepted. -/
  | forged {bytes package pre key post} : TRUSTED_PUBLISHERS = pre ++ key :: post →
      Blame (.Package, 3) (⟨.decode_package_ref bytes, some package⟩ ::
        (rejections (forge package) pre ++ [⟨.package_verify (forge package) key, true⟩]))
  /-- Every publisher's key rejected the package. -/
  | untrusted {bytes package} :
      Blame (.Package, 4) (⟨.decode_package_ref bytes, some package⟩ ::
        (rejections (forge package) TRUSTED_PUBLISHERS ++ rejections package TRUSTED_PUBLISHERS))
  /-- The grant was not refused what it must be. -/
  | attenuation {e buffer result suf} : attenuation result = .error e → Runs own_encrypt suf (.ret (buffer, result)) →
      Blame e suf
  /-- The guest was instantiated, or called, and did not come back. -/
  | uninstantiated {linker component state suf} {store : Store T} :
      Runs (guest_run linker state DEFAULT_FUEL (.instantiate component)) suf (.ret (store, none)) →
      Blame (.Instantiate, 1) (⟨.set_fuel DEFAULT_FUEL, true⟩ :: suf)
  | firstCall {linker suf} {store store' : Store T} :
      Runs (guest_run linker store.state store.fuel (.call "probe")) suf (.ret (store', none)) →
      Blame (.Call, 0) (⟨.get_typed_func "probe", true⟩ :: suf)
  | secondCall {linker op closing suf} {store store' : Store T} : chunkStatus closing = some Abi.status_ACCESS →
      Runs (guest_run linker store.state store.fuel (.call "probe")) suf (.ret (store', none)) →
      Blame (.Call, 1) (chunk op 0 closing ++ suf)
  /-- It came back with a report that does not pass. -/
  | verdict {linker report required detail suf} {store store' : Store T} :
      check_report report required = .error (.Verdict, detail) →
      Runs (guest_run linker store.state store.fuel (.call "probe")) suf (.ret (store', some report)) →
      Blame (.Verdict, detail) (⟨.get_typed_func "probe", true⟩ :: suf)
  | unrefused {linker op closing report refused suf} {store store' : Store T} :
      chunkStatus closing = some Abi.status_ACCESS → refusal report refused = false →
      Runs (guest_run linker store.state store.fuel (.call "probe")) suf (.ret (store', some report)) →
      Blame (.Revocation, 3) (chunk op 0 closing ++ suf)

/-- A run that ended with such answers. -/
def Failed (e : Stage × Nat) (tr : Events) : Prop := ∃ suf, suf <:+ tr ∧ Blame T e suf

variable {T} {e : Stage × Nat} {tr tr₁ tr₂ : Events}

theorem Blame.failed (h : Blame T e tr) : Failed T e tr := ⟨tr, List.suffix_refl tr, h⟩

theorem Culprit.failed {ev : Event World} (h : Culprit e ev) : Failed T e [ev] := (Blame.event h).failed

/-- What happened before does not matter. -/
theorem Failed.after (tr₁ : Events) (h : Failed T e tr₂) : Failed T e (tr₁ ++ tr₂) := by
  obtain ⟨suf, hsuf, hb⟩ := h
  exact ⟨suf, hsuf.trans (List.suffix_append tr₁ tr₂), hb⟩

/-! ## The package and its plan -/

variable {package : VerifiedPackage} {manifest : GrantManifest} {state : RuntimeState T World} {checks : ProbeChecks}

/-- Where the request was interrupted, the last answer says so. -/
theorem Interrupted.failed {op : UInt16} {f : Failure} (h : Interrupted op f tr) :
    Failed T (.Revocation, f.detail) tr := by
  cases h with
  | opening hopening => exact (Culprit.unopened hopening).failed.after [_]
  | signal => exact Culprit.unsignalled.failed.after _
  | wait => exact (Culprit.unanswered.failed.after [_]).after _
  | closingCall _ hclosing => exact (((Culprit.unclosed hclosing).failed.after [_]).after _).after _
  | closing _ hclosing hne => exact (((Culprit.closed hclosing hne).failed.after [_]).after _).after _

variable {len : Nat}

end Causes

end LanternRuntime.Confined

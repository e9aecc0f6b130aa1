import LanternRuntime.Confined.Program
import LanternRuntime.ProgLib.Rules
/-!
# What a run has shown so far

Facts about the events of a run of `host_the_guest`: which package was decoded
and trusted, what its manifest asks for, and what the binder answered. They only
accumulate. `Allowed` says which facts each call of the program needs.
-/
open ProgLib

namespace LanternRuntime.Confined
open Host

abbrev Events := List (Event World)

/-! ## Plans -/

/-- The interface of a plan that this process can wire: the only one declared, and no clock. -/
def GrantPlan.declared (plan : GrantPlan) : Option ServiceEndpoint :=
  match plan.monotonic_clock, plan.keystore, plan.filesystem with
  | none, _ :: _, [] => some .Keystore
  | none, [], _ :: _ => some .Filesystem
  | _, _, _ => none

def GrantPlan.requests (plan : GrantPlan) : ServiceEndpoint → List ResourceRequest
  | .Keystore => plan.keystore
  | .Filesystem => plan.filesystem

/-- The number under which the binder knows an interface. -/
def interfaceNumber [Abi] : ServiceEndpoint → Nat
  | .Keystore => Abi.INTERFACE_KEYSTORE
  | .Filesystem => Abi.INTERFACE_FILESYSTEM

/-! ## Facts -/

/-- The package that was decoded. -/
def decoded (tr : Events) : Option PackageRef :=
  tr.findSome? fun e => match e with
    | ⟨.decode_package_ref _, package⟩ => package
    | _ => none

/-- A trusted publisher's key verified the decoded package. -/
def Trusted (tr : Events) (package : PackageRef) : Prop :=
  decoded tr = some package ∧
  ∃ key ∈ TRUSTED_PUBLISHERS, (⟨.package_verify package key, true⟩ : Event World) ∈ tr

/-- And its manifest was parsed as `plan`. -/
def Planned (tr : Events) (package : PackageRef) (plan : GrantPlan) : Prop :=
  Trusted tr package ∧ (⟨.parse_bytes package.manifest_bytes, some plan⟩ : Event World) ∈ tr

section Abi
variable [Abi]

/-- The binder answered the request for slot 0 of `s`. -/
def Answered (tr : Events) (s : ServiceEndpoint) (granted : Bool) : Prop :=
  (⟨.bind ENDPOINT_CPTR DEST_CPTR (interfaceNumber s) 0, .ok granted⟩ : Event World) ∈ tr

/-- The one interface that the trusted manifest declares was requested, and the request answered. -/
def Ready (tr : Events) (package : PackageRef) (s : ServiceEndpoint) : Prop :=
  ∃ plan granted, Planned tr package plan ∧ plan.declared = some s ∧ Answered tr s granted

/-- The binder granted it. -/
def Granted (tr : Events) : Prop := ∃ s, Answered tr s true

variable {tr tr' : Events} {package : PackageRef} {plan : GrantPlan} {s : ServiceEndpoint}

omit [Abi] in
theorem decoded_mono (h : tr <+: tr') (hd : decoded tr = some package) : decoded tr' = some package := by
  obtain ⟨more, rfl⟩ := h
  unfold decoded at hd ⊢
  rw [List.findSome?_append, hd]
  rfl

omit [Abi] in
theorem Trusted.mono (h : tr <+: tr') (ht : Trusted tr package) : Trusted tr' package := by
  obtain ⟨hd, key, hkey, hmem⟩ := ht
  exact ⟨decoded_mono h hd, key, hkey, h.subset hmem⟩

omit [Abi] in
theorem Planned.mono (h : tr <+: tr') (hp : Planned tr package plan) : Planned tr' package plan :=
  ⟨hp.1.mono h, h.subset hp.2⟩

theorem Ready.mono (h : tr <+: tr') (hr : Ready tr package s) : Ready tr' package s := by
  obtain ⟨plan, granted, hp, hd, ha⟩ := hr
  exact ⟨plan, granted, hp.mono h, hd, h.subset ha⟩

theorem Granted.mono (h : tr <+: tr') (hg : Granted tr) : Granted tr' := by
  obtain ⟨s, ha⟩ := hg
  exact ⟨s, h.subset ha⟩

/-! ## Allowed calls -/

/-- The calls that check the package. -/
def WorldCall.isCheck : WorldCall → Bool
  | .mapped_package _ | .decode_package_ref _ | .package_verify .. => true
  | _ => false

/-- The calls that go to the launch binder. -/
def WorldCall.isBinder : WorldCall → Bool
  | .bind .. | .list .. | .revoke .. => true
  | _ => false

omit [Abi] in
theorem isBinder_of_isCheck {c : WorldCall} (h : c.isCheck = true) : c.isBinder = false := by
  cases c <;> first | rfl | cases h

/-- `open(slot)` of an interface. -/
def openCall : ServiceEndpoint → UInt32 → GuestCall
  | .Keystore, slot => .keystoreOpen slot
  | .Filesystem, slot => .filesystemOpen slot

/-- What must have happened before a call. The manifest is parsed right after the check. A channel
to the service needs a grant, and so does a handle that is given to the guest, which must just have
opened slot 0. -/
def Allowed (tr : Events) : WorldCall → Prop
  | .mapped_package _ | .decode_package_ref _ | .package_verify .. => True
  | .parse_bytes manifest => (∃ package, Trusted tr package ∧ manifest = package.manifest_bytes) ∧
      ∀ e ∈ tr, e.call.isCheck = true
  | .bind _ _ interface _ => ∃ package plan s, Planned tr package plan ∧ plan.declared = some s ∧
      interface = interfaceNumber s
  | .deserialize cwasm => ∃ package s, Ready tr package s ∧ cwasm = package.cwasm_bytes
  | .channel .. => (∃ package s, Ready tr package s) ∧ Granted tr
  | .guest (.resume (.opened (some _))) => (∃ package s, Ready tr package s) ∧ Granted tr ∧
      ∃ input s, tr.getLast? = some ⟨.guest input, .host (openCall s 0)⟩
  | _ => ∃ package s, Ready tr package s

/-- A call that needs no more than the binder's answer. -/
def WorldCall.isPlain : WorldCall → Bool
  | .mapped_package _ | .decode_package_ref _ | .package_verify .. | .parse_bytes _ | .bind .. | .deserialize _
  | .channel .. | .guest _ => false
  | _ => true

theorem Ready.allows (h : Ready tr package s) {c : WorldCall} (hc : c.isPlain = true) : Allowed tr c := by
  cases c <;> first | exact ⟨package, s, h⟩ | cases hc

/-- Only a check can come before the package is trusted. -/
theorem Allowed.trusted {c : WorldCall} (h : Allowed tr c) (hc : c.isCheck = false) :
    ∃ package, Trusted tr package := by
  have hready : ∀ {package s}, Ready tr package s → ∃ package, Trusted tr package := by
    rintro package s ⟨plan, granted, hp, -⟩
    exact ⟨package, hp.1⟩
  unfold Allowed at h
  split at h
  · cases hc
  · cases hc
  · cases hc
  · obtain ⟨⟨package, ht, -⟩, -⟩ := h
    exact ⟨package, ht⟩
  · obtain ⟨package, plan, s, hp, -⟩ := h
    exact ⟨package, hp.1⟩
  · obtain ⟨package, s, hr, -⟩ := h
    exact hready hr
  · obtain ⟨⟨package, s, hr⟩, -⟩ := h
    exact hready hr
  · obtain ⟨⟨package, s, hr⟩, -⟩ := h
    exact hready hr
  · obtain ⟨package, s, hr⟩ := h
    exact hready hr

end Abi
end LanternRuntime.Confined

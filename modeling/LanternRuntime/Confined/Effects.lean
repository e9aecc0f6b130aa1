import LanternRuntime.Confined.Guest
/-!
# What each part of the program calls

One lemma for each function of `confined-runtime`: from the facts it starts
with, every call it makes is `Allowed`, and if it succeeds the next fact holds.
`host_the_guest_ensures` puts them together.
-/
open ProgLib

namespace LanternRuntime.Confined
open Host

section Calls
variable {P : WorldCall → Prop} {ε ε' α : Type}

theorem orElse_only {p : Prog World (Except ε α)} (hp : Only P p) (e : ε') : Only P (orElse p e).run := by
  refine Only.andThen hp.lift fun result => ?_
  cases result <;> trivial

theorem orFail_only {p : Prog World Bool} (hp : Only P p) (e : ε') : Only P (orFail p e).run := by
  refine Only.andThen hp.lift fun result => ?_
  cases result <;> trivial

theorem require_only (condition : Bool) (e : Stage × Nat) : Only P (require condition e).run := by
  cases condition <;> trivial

end Calls

/-- What is required holds from then on. -/
theorem require_ensures {α : Type} {ok : Events → WorldCall → Prop} {M : Events → α → Prop} {condition : Bool}
    {e : Stage × Nat} {f : Unit → StageResult α} {tr : Events}
    (hf : condition = true → Ensures ok (OnOk M) (f ()).run tr) :
    Ensures ok (OnOk M) (require condition e >>= f).run tr := by
  cases condition with
  | true => exact hf rfl
  | false => exact OnOk.error

variable [Abi]

/-! ## The package -/

section Package
variable {package : PackageRef} {tr : Events}

theorem any_ensures (keys : List PublicKey) (tr : Events) :
    Ensures Allowed (fun tr' o => o = .ret true →
      ∃ key ∈ keys, (⟨.package_verify package key, true⟩ : Event World) ∈ tr')
      (any (fun key => ask (.package_verify package key)) keys) tr := by
  -- By induction on the keys, over whatever happened before.
  induction keys generalizing tr with
  | nil => exact nofun
  | cons key keys ih =>
    refine ⟨trivial, fun (genuine : Bool) => ?_⟩
    cases genuine with
    | true => exact fun _ => ⟨key, List.mem_cons_self, List.mem_append_right _ (List.mem_singleton.2 rfl)⟩
    | false =>
      refine (ih (tr ++ [⟨.package_verify package key, false⟩])).mono ?_
      intro tr' o h ho
      obtain ⟨key', hkey', hmem⟩ := h ho
      exact ⟨key', List.mem_cons_of_mem _ hkey', hmem⟩

theorem any_trusted_ensures (tr : Events) :
    Ensures Allowed (OnOk fun tr' genuine => genuine = true →
        ∃ key ∈ TRUSTED_PUBLISHERS, (⟨.package_verify package key, true⟩ : Event World) ∈ tr')
      (liftM (any_trusted package) : StageResult Bool).run tr := by
  apply ensures_lift
  refine (any_ensures TRUSTED_PUBLISHERS tr).mono ?_
  rintro tr' o h genuine rfl rfl
  exact h rfl

theorem verify_package_trusts (len : Nat) :
    Ensures Allowed (OnOk fun tr p => ∃ package, Trusted tr package ∧ p = ⟨package.manifest_bytes, package.cwasm_bytes⟩)
      (verify_package len).run [] := by
  unfold verify_package
  apply require_ensures
  rintro -
  refine ⟨trivial, fun bytes => ⟨trivial, fun (ans : Option PackageRef) => ?_⟩⟩
  cases ans with
  | none => exact OnOk.error
  | some package =>
    apply Ensures.andThen (any_trusted_ensures _)
    intro tr₁ forged hpre₁ _
    apply require_ensures
    rintro -
    apply Ensures.andThen (any_trusted_ensures _)
    intro tr₂ genuine hpre₂ hkey
    apply require_ensures
    intro hgenuine
    exact OnOk.intro ⟨package, ⟨decoded_mono (hpre₁.trans hpre₂) rfl, hkey hgenuine⟩, rfl⟩

omit [Abi] in
theorem verify_package_only (len : Nat) : Only (fun c : WorldCall => c.isCheck = true) (verify_package len).run := by
  have hany : ∀ (package : PackageRef) (keys : List PublicKey), Only (fun c : WorldCall => c.isCheck = true)
      (any (fun key => ask (.package_verify package key)) keys) := by
    intro package keys
    induction keys with
    | nil => trivial
    | cons key keys ih =>
      refine ⟨rfl, fun (genuine : Bool) => ?_⟩
      cases genuine with
      | true => trivial
      | false => exact ih
  refine Only.andThen (require_only _ _) fun _ => ⟨rfl, fun bytes => ⟨rfl, fun (ans : Option PackageRef) => ?_⟩⟩
  cases ans with
  | none => trivial
  | some package =>
    refine Only.andThen (hany _ _).lift fun forged => ?_
    refine Only.andThen (require_only _ _) fun _ => ?_
    refine Only.andThen (hany _ _).lift fun genuine => ?_
    exact Only.andThen (require_only _ _) fun _ => trivial

theorem verify_package_ensures (len : Nat) :
    Ensures Allowed (OnOk fun tr p => (∀ e ∈ tr, e.call.isCheck = true) ∧
        ∃ package, Trusted tr package ∧ p = ⟨package.manifest_bytes, package.cwasm_bytes⟩)
      (verify_package len).run [] := by
  refine ((verify_package_only len).grows (verify_package_trusts len)).mono ?_
  rintro tr o ⟨⟨more, rfl, hmore⟩, hM⟩ p ho
  exact ⟨hmore, hM p ho⟩

end Package

/-- The manifest of a trusted package is parsed. -/
theorem plan_ensures {tr : Events} {package : PackageRef} (ht : Trusted tr package)
    (hcheck : ∀ e ∈ tr, e.call.isCheck = true) :
    Ensures Allowed (OnOk fun tr' plan => Planned tr' package plan)
      (VerifiedPackage.plan ⟨package.manifest_bytes, package.cwasm_bytes⟩).run tr := by
  refine ⟨⟨⟨package, ht, rfl⟩, hcheck⟩, fun (ans : Option GrantPlan) => ?_⟩
  cases ans with
  | none => exact OnOk.error
  | some plan =>
    refine OnOk.intro ⟨ht.mono (List.prefix_append ..), ?_⟩
    exact List.mem_append_right _ (List.mem_singleton.2 rfl)

/-! ## The grant -/

section Grant
variable {tr : Events} {package : PackageRef} {plan : GrantPlan} {s : ServiceEndpoint}

/-- After the binder's answer only plain calls, and requests for the same interface, remain. -/
def grantCall (s : ServiceEndpoint) (c : WorldCall) : Prop :=
  (∃ dest, c = .bind ENDPOINT_CPTR dest (interfaceNumber s) 0) ∨ c.isPlain = true

/-- What `request_grant` does with a grant. -/
def self_checks (interface : Nat) : StageResult Bool := do
  let again ← orElse (ask (.bind ENDPOINT_CPTR PROBE_CPTR interface 0)) (.Grant, 1)
  require (!again) (.Grant, 2)
  let answer : Except SysError (UInt16 × Nat) ← ask (.request_grant DEST_CPTR PROBE_CPTR 0 0xf)
  require (match answer with | .ok (status, _) => status = Abi.status_ACCESS | .error _ => false) (.Grant, 3)
  let entry : Except SysError (Option Nat) ← ask (.list ENDPOINT_CPTR 0)
  require (match entry with | .ok none => true | _ => false) (.Grant, 4)
  let revoked : Except SysError UInt16 ← ask (.revoke ENDPOINT_CPTR 0)
  require (match revoked with | .ok status => status ≠ Abi.status_OK | .error _ => true) (.Grant, 5)
  return true

theorem self_checks_only {P : WorldCall → Prop} {interface : Nat}
    (hbind : P (.bind ENDPOINT_CPTR PROBE_CPTR interface 0))
    (hrequest : P (.request_grant DEST_CPTR PROBE_CPTR 0 0xf)) (hlist : P (.list ENDPOINT_CPTR 0))
    (hrevoke : P (.revoke ENDPOINT_CPTR 0)) : Only P (self_checks interface).run := by
  refine Only.andThen (orElse_only (only_ask.2 hbind) _) fun again => ?_
  refine Only.andThen (require_only _ _) fun _ => ?_
  refine Only.andThen (Only.lift (only_ask.2 hrequest)) fun answer => ?_
  refine Only.andThen (require_only _ _) fun _ => ?_
  refine Only.andThen (Only.lift (only_ask.2 hlist)) fun entry => ?_
  refine Only.andThen (require_only _ _) fun _ => ?_
  refine Only.andThen (Only.lift (only_ask.2 hrevoke)) fun revoked => ?_
  exact Only.andThen (require_only _ _) fun _ => trivial

theorem request_grant_only {P : WorldCall → Prop} {interface : Nat}
    (hbind : ∀ dest, P (.bind ENDPOINT_CPTR dest interface 0))
    (hrequest : P (.request_grant DEST_CPTR PROBE_CPTR 0 0xf))
    (hlist : P (.list ENDPOINT_CPTR 0)) (hrevoke : P (.revoke ENDPOINT_CPTR 0)) :
    Only P (request_grant interface).run := by
  refine Only.andThen (orElse_only (only_ask.2 (hbind _)) _) fun granted => ?_
  cases granted with
  | false => trivial
  | true => exact self_checks_only (hbind _) hrequest hlist hrevoke

theorem request_grant_ensures (hp : Planned tr package plan) (hs : plan.declared = some s) :
    Ensures Allowed (OnOk fun tr' granted => Ready tr' package s ∧ (granted = true → Granted tr'))
      (request_grant (interfaceNumber s)).run tr := by
  unfold request_grant
  have hallowed : ∀ {tr' dest}, tr <+: tr' → Allowed tr' (.bind ENDPOINT_CPTR dest (interfaceNumber s) 0) :=
    fun hpre => ⟨package, plan, s, hp.mono hpre, hs, rfl⟩
  refine Ensures.andThen (M := fun tr' granted => Answered tr' s granted) ?_ ?_
  · refine ⟨hallowed (List.prefix_refl tr), fun (ans : Except SysError Bool) => ?_⟩
    cases ans with
    | error e => exact OnOk.error
    | ok granted => exact OnOk.intro (List.mem_append_right _ (List.mem_singleton.2 rfl))
  · intro tr₁ granted hpre₁ hans
    have hready : Ready tr₁ package s := ⟨plan, granted, hp.mono hpre₁, hs, hans⟩
    cases granted with
    | false => exact OnOk.intro ⟨hready, nofun⟩
    | true =>
      have hgranted : Granted tr₁ := ⟨s, hans⟩
      refine Only.ensures (P := grantCall s) (self_checks_only (.inl ⟨_, rfl⟩) (.inr rfl) (.inr rfl) (.inr rfl)) ?_ ?_
      · rintro tr c (⟨dest, rfl⟩ | hc)
        · exact hallowed (hpre₁.trans (List.prefix_append ..))
        · exact (hready.mono (List.prefix_append ..)).allows hc
      · intro tr o _ granted _
        exact ⟨hready.mono (List.prefix_append ..), fun _ => hgranted.mono (List.prefix_append ..)⟩

end Grant

/-! ## The probe -/

section Probe

/-- The calls that `run_probe` makes of its own. -/
def ProbeCall (cwasm : Bytes) : WorldCall → Prop
  | .deserialize bytes => bytes = cwasm
  | .add_to_linker _ | .define_unknown_imports_as_traps _ | .set_fuel _ | .get_typed_func _ | .write_frame _
  | .call_with_label .. | .signal _ | .wait _ => True
  | _ => False

variable {cwasm : Bytes}

omit [Abi] in
theorem build_linker_only (manifest : GrantManifest) : Only (ProbeCall cwasm) (build_linker manifest).run := by
  have hlink : ∀ condition i linker, Only (ProbeCall cwasm) (link_if condition i linker).run := by
    intro condition i linker
    cases condition with
    | true => exact Only.andThen (orFail_only (only_ask.2 trivial) _) fun _ => trivial
    | false => trivial
  refine Only.andThen (hlink _ _ _) fun linker => ?_
  exact Only.andThen (hlink _ _ _) fun linker => hlink _ _ _

theorem revoke_only (op : UInt16) : Only (ProbeCall cwasm) (revoke_during_open_request op).run := by
  have hchunk : ∀ op flags, Only (ProbeCall cwasm) (send_empty_chunk op flags).run := by
    intro op flags
    refine Only.andThen (Only.lift (only_ask.2 trivial)) fun _ => ?_
    exact Only.andThen (orElse_only (only_ask.2 trivial) _) fun _ => trivial
  refine Only.andThen (hchunk op _) fun _ => ?_
  refine Only.andThen (require_only _ _) fun _ => ?_
  refine Only.andThen (orElse_only (only_ask.2 trivial) _) fun _ => ?_
  refine Only.andThen (orElse_only (only_ask.2 trivial) _) fun _ => ?_
  exact Only.andThen (hchunk op 0) fun _ => require_only _ _

variable [Crates] {T : ResourceTable} {granted : Bool} {ok : Events → WorldCall → Prop} {Inv : Events → Prop}
  {In : Events → GuestInput → Prop} (hrule : GuestRule T granted ok Inv In) {tr : Events}
include hrule

omit [Abi] in
/-- A part that only makes calls allowed by then. -/
theorem GuestRule.only {α ε : Type} (hinv : Inv tr) {p : ExceptT ε (Prog World) α} {P : WorldCall → Prop}
    (hp : Only P p.run) (hP : ∀ {tr c}, Inv tr → P c → ok tr c) : Ensures ok (OnOk fun tr' _ => Inv tr') p.run tr := by
  refine hp.ensures ?_ ?_
  · exact fun tr' c hc => hP (hrule.mono (List.prefix_append ..) hinv) hc
  · exact fun tr' o _ a _ => hrule.mono (List.prefix_append ..) hinv

omit [Abi] in
/-- Entering the guest. -/
theorem GuestRule.enter {ε : Type} (hinv : Inv tr) (store : Store T) (hst : Attached granted store.state)
    (linker : Linker) {input : GuestInput} (hin : In tr input) (e : ε) :
    Ensures ok (OnOk fun tr' x => Inv tr' ∧ Attached granted x.1.state) (store.enter linker input e).run tr := by
  unfold Store.enter
  apply Ensures.andThen (ensures_lift (hst.guest_run hrule linker store.fuel hinv hin))
  rintro tr' ⟨store', result⟩ hpre hst'
  cases result with
  | none => exact OnOk.error
  | some report => exact OnOk.intro ⟨hrule.mono hpre hinv, hst'⟩

/-- `run_probe` makes calls of its own, and enters the guest anew three times. -/
theorem GuestRule.run_probe {package : VerifiedPackage}
    (hown : ∀ {tr c}, Inv tr → ProbeCall package.cwasm_bytes c → ok tr c)
    (hstart : ∀ {tr component}, In tr (.instantiate component)) (hcall : ∀ {tr name}, In tr (.call name))
    (hinv : Inv tr)
    {manifest : GrantManifest}
    {state : RuntimeState T World} (hst : Attached granted state) (checks : ProbeChecks) :
    Ensures ok (OnOk fun tr' _ => Inv tr') (Confined.run_probe package manifest state checks).run tr := by
  have own : ∀ {α ε : Type} {p : ExceptT ε (Prog World) α} {tr}, Inv tr → Only (ProbeCall package.cwasm_bytes) p.run →
      Ensures ok (OnOk fun tr' _ => Inv tr') p.run tr := fun hinv hp => hrule.only hinv hp hown
  unfold Confined.run_probe
  apply Ensures.andThen (own hinv (orElse_only ?_ _))
  · intro tr₁ component _ h₁
    apply Ensures.andThen (own h₁ (orElse_only (build_linker_only manifest) _))
    intro tr₂ linker _ h₂
    apply Ensures.andThen (own h₂ (orFail_only (only_ask.2 trivial) _))
    intro tr₃ _ _ h₃
    apply Ensures.andThen (own h₃ (orFail_only (only_ask.2 trivial) _))
    intro tr₄ _ _ h₄
    apply Ensures.andThen (hrule.enter h₄ ⟨state, DEFAULT_FUEL⟩ hst linker hstart _)
    rintro tr₅ ⟨store₅, _⟩ _ ⟨h₅, hst₅⟩
    apply Ensures.andThen (own h₅ (orFail_only (only_ask.2 trivial) _))
    intro tr₆ _ _ h₆
    apply Ensures.andThen (hrule.enter h₆ store₅ hst₅ linker hcall _)
    rintro tr₇ ⟨store₇, report⟩ _ ⟨h₇, hst₇⟩
    have hreport : Only (ProbeCall package.cwasm_bytes)
        (liftM (check_report report checks.required) : StageResult Unit).run := by
      cases check_report report checks.required <;> trivial
    apply Ensures.andThen (own h₇ hreport)
    intro tr₈ _ _ h₈
    apply Ensures.andThen (own h₈ (revoke_only checks.open_op))
    intro tr₉ _ _ h₉
    apply Ensures.andThen (hrule.enter h₉ store₇ hst₇ linker hcall _)
    rintro tr₁₀ ⟨store₁₀, report⟩ _ ⟨h₁₀, -⟩
    exact own h₁₀ (require_only _ _)
  · refine ⟨rfl, fun (ans : Except WasmError Component) => ?_⟩
    cases ans <;> trivial

end Probe

section Running
variable {tr : Events} {package : PackageRef} {s : ServiceEndpoint} {granted : Bool}

theorem Running.allows (h : Running tr package s granted) {c : WorldCall} (hc : ProbeCall package.cwasm_bytes c) :
    Allowed tr c := by
  cases c with
  | deserialize bytes => exact ⟨package, s, h.ready, hc⟩
  | _ => first | exact h.ready.allows rfl | cases hc

end Running

/-! ## The two wirings, as one -/

section Wirings
variable [Crates] (T : ResourceTable)

/-- The manifest that a wiring builds, for the declared requests and the binder's answer. -/
def grantsOf : ServiceEndpoint → List ResourceRequest → Bool → GrantManifest
  | .Keystore => keystore_grants
  | .Filesystem => filesystem_grants

/-- And its `RuntimeState`. -/
def stateOf : ServiceEndpoint → List ResourceRequest → Bool → RuntimeState T World
  | .Keystore, requests, granted =>
    (RuntimeState.new (keystore_grants requests granted)).with_keystore (IpcKeystore.service (channelTo DEST_CPTR))
  | .Filesystem, requests, granted =>
    (RuntimeState.new (filesystem_grants requests granted)).with_filesystem
      (IpcFilesystem.service (channelTo DEST_CPTR))

/-- What happens between the binder's answer and the probe. -/
def checkOf : ServiceEndpoint → Bool → StageResult Unit
  | .Keystore, granted => check_attenuation granted (IpcKeystore.service (channelTo DEST_CPTR)) (.from_raw 0)
  | .Filesystem, _ => return ()

def probeOf : ServiceEndpoint → ProbeChecks
  | .Keystore => keystore_checks
  | .Filesystem => filesystem_checks

/-- `host_keystore` and `host_filesystem`. -/
def host_interface (s : ServiceEndpoint) (package : VerifiedPackage) (requests : List ResourceRequest) :
    StageResult Unit := do
  let granted ← request_grant (interfaceNumber s)
  checkOf s granted
  run_probe package (grantsOf s requests granted) (stateOf T s requests granted) (probeOf s)

/-- A plan that declares one interface is wired for it. -/
theorem host_plan_declared {package : VerifiedPackage} {plan : GrantPlan} {s : ServiceEndpoint}
    (hs : plan.declared = some s) :
    host_plan T package plan = host_interface T s package (plan.requests s) := by
  obtain ⟨keystore, filesystem, clock⟩ := plan
  rcases clock with _ | ⟨⟩ <;> rcases keystore with _ | ⟨k, ks⟩ <;> rcases filesystem with _ | ⟨f, fs⟩ <;> cases hs
  · rfl
  · rfl

/-- Every other plan is refused, without another call. -/
theorem host_plan_refused {package : VerifiedPackage} {plan : GrantPlan} (hs : plan.declared = none) :
    ∃ detail, (host_plan T package plan).run = .ret (.error (.Manifest, detail)) := by
  obtain ⟨keystore, filesystem, clock⟩ := plan
  rcases clock with _ | ⟨⟩ <;> rcases keystore with _ | ⟨k, ks⟩ <;> rcases filesystem with _ | ⟨f, fs⟩ <;>
    first | exact ⟨_, rfl⟩ | cases hs

omit [Crates] [Abi] in
/-- Only slot 0 is ever filled, and only under a grant. -/
theorem slots_filled {α : Type} {n : Nat} {granted : Bool} {grant x : α} {slot : UInt32}
    (h : (slots n granted grant)[slot.toNat]? = some (some x)) : granted = true ∧ slot = 0 := by
  unfold slots at h
  rw [List.getElem?_map] at h
  obtain ⟨i, hi, hx⟩ := Option.map_eq_some_iff.1 h
  have hslot : i = slot.toNat := by
    obtain ⟨_, he⟩ := List.getElem?_eq_some_iff.1 hi
    rw [List.getElem_range] at he
    exact he.symm
  cases hcond : granted && i == 0 with
  | false => simp [hcond] at hx
  | true =>
    obtain ⟨hgranted, hzero⟩ : granted = true ∧ i = 0 := by simpa using hcond
    refine ⟨hgranted, ?_⟩
    apply UInt32.toNat_inj.1
    rw [← hslot, hzero]
    rfl

omit [Abi] in
theorem attached_state (s : ServiceEndpoint) (requests : List ResourceRequest) (granted : Bool) :
    Attached granted (stateOf T s requests granted) := by
  have hnone : ∀ {r x}, T.get T.new r = some x → granted = true := by
    intro r x hx
    rw [T.get_new] at hx
    cases hx
  cases s with
  | Keystore => exact ⟨fun hs => (Option.some.inj hs).symm, nofun, slots_filled, nofun, hnone⟩
  | Filesystem => exact ⟨nofun, fun hs => (Option.some.inj hs).symm, nofun, slots_filled, hnone⟩

omit [Abi] in
/-- Only a grant is checked, over the channel. -/
theorem check_only (s : ServiceEndpoint) (granted : Bool) : Only (Reaches granted) (checkOf s granted).run := by
  cases s with
  | Filesystem => trivial
  | Keystore =>
    cases granted with
    | false => trivial
    | true =>
      have hchannel : ∀ op request reply, Only (Reaches true) ((channelTo DEST_CPTR).call op request reply) :=
        fun op request reply => only_ask.2 (.inr ⟨rfl, rfl⟩)
      refine Only.andThen (Only.lift (ipc_encrypt_only hchannel ..)) ?_
      rintro ⟨buffer, e | tag⟩
      · cases e <;> first | exact require_only _ _ | trivial
      · trivial

theorem host_plan_ensures {tr : Events} {package : PackageRef} {plan : GrantPlan} (hp : Planned tr package plan) :
    Ensures Allowed (OnOk fun _ _ => True)
      (host_plan T ⟨package.manifest_bytes, package.cwasm_bytes⟩ plan).run tr := by
  cases hs : plan.declared with
  | none =>
    obtain ⟨detail, hrefused⟩ := host_plan_refused T hs
    rw [hrefused]
    exact OnOk.error
  | some s =>
    rw [host_plan_declared T hs]
    unfold host_interface
    apply Ensures.andThen (request_grant_ensures hp hs)
    rintro tr₁ granted _ ⟨hready, hgranted⟩
    have hrule : GuestRule T granted Allowed (fun tr => Running tr package s granted) Input := allowedRule
    apply Ensures.andThen (hrule.only ⟨hready, hgranted⟩ (check_only s granted) hrule.call)
    intro tr₂ _ _ hrunning
    have hown : ∀ {tr c}, Running tr package s granted → ProbeCall package.cwasm_bytes c → Allowed tr c :=
      fun h hc => h.allows hc
    refine (hrule.run_probe hown nofun nofun hrunning (attached_state T s _ granted) (probeOf s)).mono ?_
    exact fun _ _ _ _ _ => trivial

/-- Every call of every run of `host_the_guest` is allowed by what came before it. -/
theorem host_the_guest_ensures (len : Nat) :
    Ensures Allowed (OnOk fun _ _ => True) (host_the_guest T len).run [] := by
  unfold host_the_guest
  apply Ensures.andThen (verify_package_ensures len)
  rintro tr₁ _ _ ⟨hcheck, package, ht, rfl⟩
  apply Ensures.andThen (plan_ensures ht hcheck)
  intro tr₂ plan _ hp
  exact host_plan_ensures T hp

end Wirings

end LanternRuntime.Confined

import LanternRuntime.Confined.Probing
/-!
# How a launch ends

`Launched` is the launch-and-revoke sequence up to the second report, as it went
when nothing was refused that must not be. `launch_outcome` says that a run
signals `SUCCESS` exactly if it went so and the second report is a refusal. The
binder may have declined the slot: then the checks of a grant are left out, and
the open request needs an answer all the same.
-/
open ProgLib

namespace LanternRuntime.Confined
open Host

/-! ## One signal -/

/-- The calls that report how the program ended. -/
def WorldCall.isReport : WorldCall → Bool
  | .signal_with .. => true
  | _ => false

/-- What happens before `host` runs. -/
def preamble : Events := [⟨.init_heap HEAP_BASE HEAP_LEN, ()⟩, ⟨.report_panics_via FAILURE_CPTR, ()⟩]

/-- The heap's top, and the signal of a success. -/
def success (top : Nat) : Events :=
  [⟨.heap_stats, top⟩, ⟨.signal_with SUCCESS_CPTR Stage.Done.code (top - HEAP_BASE), ()⟩]

/-- The signal of a failure. -/
def failure (stage : Stage) (detail : Nat) : Events := [⟨.signal_with FAILURE_CPTR stage.code detail, ()⟩]

/-- The end of `run_and_report`. -/
def report_result : Except (Stage × Nat) Unit → Prog World Unit
  | .ok () => .call .heap_stats fun top : Nat => ask (.signal_with SUCCESS_CPTR Stage.Done.code (top - HEAP_BASE))
  | .error (stage, detail) => ask (.signal_with FAILURE_CPTR stage.code detail)

theorem run_and_report_eq (len : Nat) (host : Nat → StageResult Unit) : run_and_report len host =
    .call (.init_heap HEAP_BASE HEAP_LEN) fun _ => .call (.report_panics_via FAILURE_CPTR) fun _ =>
      (host len).run >>= report_result := by
  refine congrArg (Prog.call (E := World) _) (funext fun _ => congrArg (Prog.call (E := World) _) (funext fun _ => ?_))
  refine congrArg ((host len).run >>= ·) (funext fun result => ?_)
  rcases result with ⟨stage, detail⟩ | ⟨⟩ <;> rfl

theorem runs_report_result {result : Except (Stage × Nat) Unit} {tr : Events} {o : Outcome Unit} :
    Runs (report_result result) tr o ↔ o = .ret () ∧ match result with
      | .ok () => ∃ top, tr = success top
      | .error (stage, detail) => tr = failure stage detail := by
  rcases result with ⟨stage, detail⟩ | ⟨⟩
  · constructor
    · intro h
      obtain ⟨⟨⟩, tr', rfl, h₁⟩ := runs_call.1 h
      obtain ⟨rfl, rfl⟩ := runs_ret.1 h₁
      exact ⟨rfl, rfl⟩
    · rintro ⟨rfl, rfl⟩
      exact runs_call.2 ⟨(), [], rfl, .ret _⟩
  · constructor
    · intro h
      obtain ⟨top, tr', rfl, h₁⟩ := runs_call.1 h
      obtain ⟨⟨⟩, tr'', rfl, h₂⟩ := runs_call.1 h₁
      obtain ⟨rfl, rfl⟩ := runs_ret.1 h₂
      exact ⟨rfl, top, rfl⟩
    · rintro ⟨rfl, top, rfl⟩
      exact runs_call.2 ⟨top, _, rfl, runs_call.2 ⟨(), [], rfl, .ret _⟩⟩

/-- What is signalled is what `host` returned. -/
theorem runs_run_and_report {len : Nat} {host : Nat → StageResult Unit} {tr : Events} {o : Outcome Unit} :
    Runs (run_and_report len host) tr o ↔ ∃ mid rest, tr = preamble ++ (mid ++ rest) ∧
      ((∃ result, Runs (host len).run mid (.ret result) ∧ Runs (report_result result) rest o) ∨
        ∃ msg, Runs (host len).run mid (.panic msg) ∧ o = .panic msg ∧ rest = []) := by
  rw [run_and_report_eq]
  constructor
  · intro h
    obtain ⟨⟨⟩, tr₁, rfl, h₁⟩ := runs_call.1 h
    obtain ⟨⟨⟩, tr₂, rfl, h₂⟩ := runs_call.1 h₁
    rcases runs_bind.1 h₂ with ⟨mid, rest, result, rfl, hhost, h₃⟩ | ⟨msg, rfl, hhost⟩
    · exact ⟨mid, rest, rfl, .inl ⟨result, hhost, h₃⟩⟩
    · exact ⟨tr₂, [], by rw [List.append_nil]; rfl, .inr ⟨msg, hhost, rfl, rfl⟩⟩
  · rintro ⟨mid, rest, rfl, h⟩
    refine runs_call.2 ⟨(), _, rfl, runs_call.2 ⟨(), mid ++ rest, rfl, runs_bind.2 ?_⟩⟩
    rcases h with ⟨result, hhost, h⟩ | ⟨msg, hhost, rfl, rfl⟩
    · exact .inl ⟨mid, rest, result, rfl, hhost, h⟩
    · rw [List.append_nil]
      exact .inr ⟨msg, rfl, hhost⟩

/-! ## Launches -/

section Launch
variable [Crates] [Abi] (T : ResourceTable) (len : Nat)

/-- The package verified and declares `s` alone, the binder answered `granted` and the checks of a
grant passed, the first report passed, the grant was revoked, and the second probe reported. -/
inductive Launched : ServiceEndpoint → Bool → String → Events → Prop
  | intro {package plan s granted x report tr₁ tr₂ tr₃ tr₄ tr₅} : Verified len package tr₁ → plan.declared = some s →
      Asked (interfaceNumber s) granted tr₂ → Attenuated s granted tr₃ →
      Started ⟨package.manifest_bytes, package.cwasm_bytes⟩ (grantsOf s (plan.requests s) granted)
        (stateOf T s (plan.requests s) granted) (probeOf s).required x tr₄ →
      Ended x.1 x.2 (probeOf s) report tr₅ →
      Launched s granted report
        (tr₁ ++ ⟨.parse_bytes package.manifest_bytes, some plan⟩ :: (tr₂ ++ (tr₃ ++ (tr₄ ++ tr₅))))

variable {T len} {s : ServiceEndpoint} {granted : Bool} {report : String} {tr : Events}

/-- The last check is that the second report is a refusal. -/
theorem Launched.runs (h : Launched T len s granted report tr) : Runs (host_the_guest T len).run tr
    (.ret (if refusal report (probeOf s).refused then .ok () else .error (.Revocation, 3))) := by
  obtain ⟨hverified, hplan, hasked, hattenuated, hstarted, hended⟩ := h
  refine runs_andThen.2 (.inl ⟨_, _, _, rfl, verify_package_ok.2 ⟨_, rfl, hverified⟩, ?_⟩)
  refine runs_andThen.2 (.inl ⟨[_], _, _, rfl, plan_ok.2 rfl, ?_⟩)
  rw [host_plan_declared T hplan]
  refine runs_andThen.2 (.inl ⟨_, _, _, rfl, request_grant_ok.2 hasked, ?_⟩)
  refine runs_andThen.2 (.inl ⟨_, _, (), rfl, check_ok.2 hattenuated, ?_⟩)
  rw [run_probe_halves]
  exact runs_andThen.2 (.inl ⟨_, _, _, rfl, first_half_ok.2 hstarted, hended.runs⟩)

variable (T len) in
/-- The launch went so, and the second report is a refusal. -/
def AsRequired (tr : Events) : Prop :=
  ∃ s granted report, Launched T len s granted report tr ∧ refusal report (probeOf s).refused = true

theorem host_the_guest_ok : Runs (host_the_guest T len).run tr (.ret (.ok ())) ↔ AsRequired T len tr := by
  constructor
  · intro h
    obtain ⟨tr₁, _, p, rfl, h₁, g₁⟩ := runs_andThen_ok.1 h
    obtain ⟨package, rfl, hverified⟩ := verify_package_ok.1 h₁
    obtain ⟨tr₂, _, plan, rfl, h₂, g₂⟩ := runs_andThen_ok.1 g₁
    obtain rfl := plan_ok.1 h₂
    cases hplan : plan.declared with
    | none =>
      obtain ⟨detail, hrefused⟩ := @host_plan_refused _ _ T ⟨package.manifest_bytes, package.cwasm_bytes⟩ plan hplan
      rw [hrefused] at g₂
      cases (runs_ret.1 g₂).2
    | some s =>
      rw [host_plan_declared T hplan] at g₂
      obtain ⟨tr₃, _, granted, rfl, h₃, g₃⟩ := runs_andThen_ok.1 g₂
      obtain ⟨tr₄, _, ⟨⟩, rfl, h₄, g₄⟩ := runs_andThen_ok.1 g₃
      rw [run_probe_halves] at g₄
      obtain ⟨tr₅, tr₆, x, rfl, h₅, h₆⟩ := runs_andThen_ok.1 g₄
      rcases second_half_cases h₆ with ⟨f, he, -⟩ | ⟨report, hended, he⟩ | he | ⟨msg, he⟩
      · cases he
      · cases hrefusal : refusal report (probeOf s).refused with
        | true =>
          rw [List.singleton_append]
          refine ⟨s, granted, report, .intro hverified hplan (request_grant_ok.1 h₃) (check_ok.1 h₄)
            ?_ hended, hrefusal⟩
          exact first_half_ok.1 h₅
        | false =>
          rw [hrefusal] at he
          cases he
      · cases he
      · cases he
  · rintro ⟨s, granted, report, h, hrefusal⟩
    have hrun := h.runs
    rw [hrefusal] at hrun
    exact hrun

/-- The request that is open during the revocation was answered. -/
theorem Launched.answered (h : Launched T len s granted report tr) :
    ∃ label, ⟨.call_with_label DEST_CPTR (probeOf s).open_op.toUInt32 [0, 0, 0], .ok label⟩ ∈ tr ∧
      label.toUInt16 = Abi.status_OK := by
  obtain ⟨-, -, -, -, -, ⟨@⟨opening, closing, hopening, -⟩, -⟩⟩ := h
  cases opening with
  | error e => cases hopening
  | ok label => exact ⟨label, by simp [chunk], Option.some.inj hopening⟩

/-! ## No other signal -/

/-- A call that reports nothing. -/
def Quiet (_ : Events) (c : WorldCall) : Prop := c.isReport = false

omit [Abi] in
theorem quietRule : GuestRule T granted Quiet (fun _ => True) (fun _ _ => True) where
  mono := fun _ h => h
  call := by
    rintro tr c - (⟨f, rfl⟩ | ⟨hc, -⟩)
    · rfl
    · cases c <;> first | rfl | cases hc
  guest := fun _ _ => rfl
  work := fun _ h => h
  reply := fun _ _ _ => trivial

omit [Crates] [Abi] in
theorem Quiet.only {α : Type} {P : WorldCall → Prop} {p : StageResult α} (hp : Only P p.run)
    (hP : ∀ c, P c → c.isReport = false) : Ensures Quiet (OnOk fun _ _ => True) p.run tr :=
  hp.ensures (fun _ c hc => hP c hc) fun _ _ _ _ _ => trivial

variable (T len) in
theorem host_the_guest_quiet : Ensures Quiet (OnOk fun _ _ => True) (host_the_guest T len).run [] := by
  unfold host_the_guest
  apply Ensures.andThen (Quiet.only (verify_package_only len) fun c hc => by cases c <;> first | rfl | cases hc)
  intro tr₁ package _ _
  apply Ensures.andThen (M := fun _ _ => True)
  · refine ⟨rfl, fun (ans : Option GrantPlan) => ?_⟩
    cases ans <;> exact fun _ _ => trivial
  intro tr₂ plan _ _
  cases hplan : plan.declared with
  | none =>
    obtain ⟨detail, hrefused⟩ := @host_plan_refused _ _ T package plan hplan
    rw [hrefused]
    exact OnOk.error
  | some s =>
    rw [host_plan_declared T hplan]
    have hask : Only (fun c : WorldCall => c.isReport = false) (request_grant (interfaceNumber s)).run :=
      request_grant_only (fun _ => rfl) rfl rfl rfl
    apply Ensures.andThen (Quiet.only hask fun _ hc => hc)
    intro tr₃ granted _ _
    have hrule : GuestRule T granted Quiet (fun _ => True) (fun _ _ => True) := quietRule
    apply Ensures.andThen (Quiet.only (check_only s granted) fun c hc => (hrule.call trivial hc : Quiet tr₃ c))
    intro tr₄ _ _ _
    have hown : ∀ {tr c}, True → ProbeCall package.cwasm_bytes c → Quiet tr c := by
      intro tr c _ hc
      cases c <;> first | rfl | cases hc
    exact hrule.run_probe hown trivial trivial trivial (attached_state T s _ granted) (probeOf s)

/-! ## Every run -/

/-- In every run: nothing is signalled until `host_the_guest` is done, and then `SUCCESS` exactly if
the launch went as required and the second report is a refusal. Otherwise it is `FAILURE`, unless
the run panicked. A launch without a grant goes so only if a call on the slot that was declined is
answered `OK`. -/
theorem launch_outcome {tr : Events} {o : Outcome Unit} (h : Runs (run_and_report len (host_the_guest T)) tr o) :
    ∃ mid rest, tr = preamble ++ (mid ++ rest) ∧ (∀ e ∈ mid, e.call.isReport = false) ∧
      (AsRequired T len mid → o = .ret () ∧ ∃ top, rest = success top) ∧
      (¬ AsRequired T len mid →
        (o = .ret () ∧ ∃ stage detail, rest = failure stage detail) ∨ (∃ msg, o = .panic msg) ∧ rest = []) ∧
      ∀ s report, Launched T len s false report mid →
        ∃ label, ⟨.call_with_label DEST_CPTR (probeOf s).open_op.toUInt32 [0, 0, 0], .ok label⟩ ∈ mid ∧
          label.toUInt16 = Abi.status_OK := by
  obtain ⟨mid, rest, rfl, hrun⟩ := runs_run_and_report.1 h
  have hquiet : ∀ {o'}, Runs (host_the_guest T len).run mid o' → ∀ e ∈ mid, e.call.isReport = false := by
    intro o' hmid e he
    obtain ⟨pre, post, rfl⟩ := List.append_of_mem he
    exact ((host_the_guest_quiet T len).sound hmid).2 pre e post rfl
  refine ⟨mid, rest, rfl, ?_, ?_, ?_, fun s report hl => hl.answered⟩
  · rcases hrun with ⟨result, hmid, -⟩ | ⟨msg, hmid, -⟩
    · exact hquiet hmid
    · exact hquiet hmid
  · intro hwent
    have hok := host_the_guest_ok.2 hwent
    rcases hrun with ⟨result, hmid, hrest⟩ | ⟨msg, hmid, -⟩
    · cases hmid.det hok
      exact runs_report_result.1 hrest
    · cases hmid.det hok
  · intro hnot
    rcases hrun with ⟨⟨stage, detail⟩ | ⟨⟩, hmid, hrest⟩ | ⟨msg, -, ho, hrest⟩
    · obtain ⟨ho, hfail⟩ := runs_report_result.1 hrest
      exact .inl ⟨ho, stage, detail, hfail⟩
    · exact absurd (host_the_guest_ok.1 hmid) hnot
    · exact .inr ⟨⟨msg, ho⟩, hrest⟩

end Launch

/-! ## Launches of the keystore demo -/

/-- The demo's package, as `verify_package` gets to see it. -/
def demoVerify : Events :=
  ⟨.mapped_package 16, zeros 16⟩ :: ⟨.decode_package_ref (zeros 16), some demoPackage⟩ ::
    (rejections (forge demoPackage) TRUSTED_PUBLISHERS ++
      (rejections demoPackage [] ++ [⟨.package_verify demoPackage (TRUSTED_PUBLISHERS.head (by decide)), true⟩]))

theorem demo_verified : Verified 16 demoPackage demoVerify :=
  .intro (by decide) (by decide) rfl

section Demo
variable [Crates] [Abi]

/-- A launch of the demo: what was asked for the grant, what the program asked of it, and the guest's
second report. -/
def demoLaunch (asked own : Events) (report : String) : Events :=
  demoVerify ++ ⟨.parse_bytes demoPackage.manifest_bytes, some demoPlan⟩ ::
    (asked ++ (own ++ (demoStart ++ demoEnd (probeOf .Keystore).open_op report)))

theorem demo_launched {T : ResourceTable} {granted : Bool} {report : String} {asked own : Events}
    (hasked : Asked (interfaceNumber .Keystore) granted asked) (hown : Attenuated .Keystore granted own) :
    Launched T 16 .Keystore granted report (demoLaunch asked own report) :=
  .intro demo_verified rfl hasked hown (demo_started T granted) (demo_ended _ _ 9999997 report)

/-- It signals what the second report says. -/
theorem demo_launch_run {T : ResourceTable} {granted refused : Bool} {report : String} {asked own : Events}
    (hasked : Asked (interfaceNumber .Keystore) granted asked) (hown : Attenuated .Keystore granted own)
    (hreport : refusal report (probeOf .Keystore).refused = refused) :
    Runs (run_and_report 16 (host_the_guest T)) (preamble ++ (demoLaunch asked own report ++
      if refused then success HEAP_BASE else failure .Revocation 3)) (.ret ()) := by
  refine runs_run_and_report.2 ⟨_, _, rfl, .inl ⟨_, (demo_launched hasked hown).runs, ?_⟩⟩
  rw [hreport]
  cases refused with
  | true => exact runs_report_result.2 ⟨rfl, HEAP_BASE, rfl⟩
  | false => exact runs_report_result.2 ⟨rfl, rfl⟩

/-- A binder that declines the slot. -/
def demoDeclined : Events := [⟨.bind ENDPOINT_CPTR DEST_CPTR (interfaceNumber .Keystore) 0, .ok false⟩]

/-- One that grants it once, and a service that refuses what it must. -/
def demoGranted : Events :=
  [⟨.bind ENDPOINT_CPTR DEST_CPTR (interfaceNumber .Keystore) 0, .ok true⟩,
    ⟨.bind ENDPOINT_CPTR PROBE_CPTR (interfaceNumber .Keystore) 0, .ok false⟩,
    ⟨.request_grant DEST_CPTR PROBE_CPTR 0 0xf, .ok (Abi.status_ACCESS, 0)⟩,
    ⟨.list ENDPOINT_CPTR 0, .ok none⟩, ⟨.revoke ENDPOINT_CPTR 0, .error 1⟩]

omit [Crates] in
theorem demo_granted : Asked (interfaceNumber .Keystore) true demoGranted := .granted nofun

omit [Crates] in
theorem demo_declined : Asked (interfaceNumber .Keystore) false demoDeclined := .declined

/-- It is the only answer of the binder then. -/
theorem demo_declined_binder {report : String} :
    (demoLaunch demoDeclined [] report).filter (fun e => e.call.isBinder) = demoDeclined := rfl

end Demo

/-- A service that refuses the program's own `ENCRYPT`. -/
theorem demo_attenuated : ∃ own, @Attenuated lengthPrefixed .Keystore true own := by
  let _ := lengthPrefixed
  exact ⟨_, .refused (runs_run keystoreWorld own_encrypt false)⟩

/-- The launch with a grant. -/
theorem launch_outcome_keystore :
    letI := lengthPrefixed
    letI := abiNumbers
    ∃ tr mid rest, Runs (run_and_report 16 (host_the_guest demoTable)) tr (.ret ()) ∧
      tr = preamble ++ (mid ++ rest) ∧ (∀ e ∈ mid, e.call.isReport = false) ∧
      (AsRequired demoTable 16 mid → ∃ top, rest = success top) ∧
      (¬ AsRequired demoTable 16 mid → ∃ stage detail, rest = failure stage detail) := by
  let _ := lengthPrefixed
  let _ := abiNumbers
  obtain ⟨own, hown⟩ := demo_attenuated
  have hrefused : refusal "error: keystore denied" (probeOf .Keystore).refused = true := by decide
  have hrun := @demo_launch_run _ _ demoTable _ _ _ _ _ demo_granted hown hrefused
  obtain ⟨mid, rest, htr, hquiet, hsuccess, hfailure, -⟩ := launch_outcome hrun
  refine ⟨_, mid, rest, hrun, htr, hquiet, fun h => (hsuccess h).2, fun h => ?_⟩
  rcases hfailure h with ⟨-, hfail⟩ | ⟨⟨msg, he⟩, -⟩
  · exact hfail
  · cases he

/-- A launch whose slot was declined succeeds, if the open request is answered `OK` all the same. One
that went as required fails, if the second report is another error than the refusal. -/
theorem declined_launch_succeeds :
    letI := lengthPrefixed
    letI := abiNumbers
    (∃ mid, Runs (run_and_report 16 (host_the_guest demoTable))
        (preamble ++ (mid ++ success HEAP_BASE)) (.ret ()) ∧
      Answered mid .Keystore false ∧ ¬ Granted mid) ∧
    (∃ mid, Runs (run_and_report 16 (host_the_guest demoTable))
        (preamble ++ (mid ++ failure .Revocation 3)) (.ret ()) ∧
      Launched demoTable 16 .Keystore true "error: gone" mid ∧
      starts_with "error: gone" "error: ") := by
  let _ := lengthPrefixed
  let _ := abiNumbers
  obtain ⟨own, hown⟩ := demo_attenuated
  refine ⟨⟨demoLaunch demoDeclined [] "error: keystore denied", ?_, ?_, ?_⟩,
    demoLaunch demoGranted own "error: gone", ?_, demo_launched demo_granted hown, by decide⟩
  · exact demo_launch_run demo_declined .declined (by decide : refusal _ _ = true)
  · simp [Answered, demoLaunch, demoDeclined]
  · rintro ⟨s, hs⟩
    have hbinder : _ ∈ List.filter (fun e : Event World => e.call.isBinder) _ := List.mem_filter.2 ⟨hs, rfl⟩
    rw [demo_declined_binder] at hbinder
    cases s <;> cases List.mem_singleton.1 hbinder
  · exact demo_launch_run demo_granted hown (by decide : refusal _ _ = false)

end LanternRuntime.Confined

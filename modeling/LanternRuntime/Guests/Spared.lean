import LanternRuntime.Guests.Honest
import LanternRuntime.Guests.Leases
/-!
# Launches that fail, and the guest

`run_probe` fails with `Instantiate` or `Call` if the guest traps or is out of
fuel. The guests do not trap, whatever they are answered, and are out of fuel only
if they burn it: `launch_spares_guest`. So a launch of theirs that fails otherwise
has failed by something else.
-/
open ProgLib

namespace LanternRuntime.Guests
open Host Confined

/-- The failures of a launch whose guest does not come back. -/
def trapped : Stage × Nat → Bool
  | (.Instantiate, 1) => true
  | (.Call, _) => true
  | _ => false

/-- The guest in `tr` is the one for the interface that its plan declares. -/
structure Matched (debug : ErrorCode → String) (s : ServiceEndpoint) (tr : Confined.Events) : Prop where
  plays : ∃ current, Plays (guestOf debug s) current tr
  declared : ∀ {manifest plan s'}, ⟨.parse_bytes manifest, some plan⟩ ∈ tr → GrantPlan.declared plan = some s' → s' = s

/-- Whatever `p` is answered, it does not fail by its guest as long as that burns at most `b`; and what it returns
is in `Q`, with what may be burnt from then on. -/
structure Spares {α : Type} (debug : ErrorCode → String) (s : ServiceEndpoint) (b : Nat) (Q : α → Nat → Prop)
    (p : StageResult α) : Prop where
  ok : ∀ {tr a}, Matched debug s tr → burnt tr ≤ b → Runs p.run tr (.ret (.ok a)) → Q a (b - burnt tr)
  error : ∀ {tr e}, Matched debug s tr → burnt tr ≤ b → Runs p.run tr (.ret (.error e)) → trapped e = false

section Spares
variable {debug : ErrorCode → String} {s : ServiceEndpoint} {b : Nat} {α β ε : Type} {Q : α → Nat → Prop}

theorem Matched.append {tr₁ tr₂ : Confined.Events} (h : Matched debug s (tr₁ ++ tr₂)) :
    Matched debug s tr₁ ∧ Matched debug s tr₂ := by
  obtain ⟨⟨current, hplays⟩, hdeclared⟩ := h
  exact ⟨⟨⟨current, plays_left hplays⟩, fun hmem => hdeclared (List.mem_append_left _ hmem)⟩,
    ⟨plays_right hplays, fun hmem => hdeclared (List.mem_append_right _ hmem)⟩⟩

theorem Spares.andThen {R : β → Nat → Prop} {p : StageResult α} {f : α → StageResult β} (hp : Spares debug s b Q p)
    (hf : ∀ a b', b' ≤ b → Q a b' → Spares debug s b' R (f a)) : Spares debug s b R (p >>= f) where
  ok hmatched hburnt hr := by
    obtain ⟨tr₁, tr₂, a, rfl, h₁, h₂⟩ := runs_andThen_ok.1 hr
    obtain ⟨hfirst, hsecond⟩ := hmatched.append
    rw [burnt_append] at hburnt ⊢
    have hrest := (hf a _ (Nat.sub_le ..) (hp.ok hfirst (by omega) h₁)).ok hsecond (by omega) h₂
    rwa [Nat.sub_sub] at hrest
  error hmatched hburnt hr := by
    rcases runs_andThen_error.1 hr with ⟨tr₁, tr₂, a, rfl, h₁, h₂⟩ | h₁
    · obtain ⟨hfirst, hsecond⟩ := hmatched.append
      rw [burnt_append] at hburnt
      exact (hf a _ (Nat.sub_le ..) (hp.ok hfirst (by omega) h₁)).error hsecond (by omega) h₂
    · exact hp.error hmatched hburnt h₁

theorem spares_ret {a : α} (hQ : ∀ b', Q a b') : Spares debug s b Q (pure a) where
  ok _ _ hr := by
    cases (runs_ret.1 hr).2
    exact hQ _
  error _ _ hr := by cases (runs_ret.1 hr).2

theorem spares_throw {e : Stage × Nat} (he : trapped e = false) : Spares debug s b Q (throw e) where
  ok _ _ hr := by cases (runs_ret.1 hr).2
  error _ _ hr := by
    cases (runs_ret.1 hr).2
    exact he

theorem spares_orElse {p : Prog World (Except ε α)} {e : Stage × Nat} (he : trapped e = false)
    (hQ : ∀ {tr a b'}, Runs p tr (.ret (.ok a)) → Q a b') : Spares debug s b Q (orElse p e) where
  ok _ _ hr := hQ (runs_orElse_ok.1 hr)
  error _ _ hr := by
    rw [(runs_orElse_error.1 hr).1]
    exact he

theorem spares_orFail {p : Prog World Bool} {e : Stage × Nat} (he : trapped e = false) :
    Spares debug s b (fun _ _ => True) (orFail p e) where
  ok _ _ _ := trivial
  error _ _ hr := by
    rcases runs_orFail.1 hr with ⟨_ | _, -, heq⟩ | ⟨msg, heq, -⟩
    · cases heq
      exact he
    · cases heq
    · cases heq

theorem spares_require {condition : Bool} {e : Stage × Nat} (he : trapped e = false) :
    Spares debug s b (fun _ _ => True) (require condition e) := by
  cases condition with
  | true => exact spares_ret fun _ => trivial
  | false => exact spares_throw he

theorem spares_lift (p : Prog World α) : Spares debug s b (fun _ _ => True) (liftM p : StageResult α) where
  ok _ _ _ := trivial
  error _ _ hr := by
    obtain ⟨a, -, heq⟩ := runs_bind_ret.1 hr
    cases heq

end Spares

/-! ## The program -/

section Program
variable {debug : ErrorCode → String} {s : ServiceEndpoint} {b : Nat}

theorem verify_package_spares (len : Nat) : Spares debug s b (fun _ _ => True) (verify_package len) := by
  refine Spares.andThen (spares_require rfl) fun _ _ _ _ => Spares.andThen (spares_lift _) fun bytes _ _ _ => ?_
  refine Spares.andThen (spares_lift _) fun decoded _ _ _ => ?_
  cases decoded with
  | none => exact spares_throw rfl
  | some package =>
    refine Spares.andThen (spares_lift _) fun forged _ _ _ => Spares.andThen (spares_require rfl) fun _ _ _ _ => ?_
    refine Spares.andThen (spares_lift _) fun genuine _ _ _ => Spares.andThen (spares_require rfl) fun _ _ _ _ => ?_
    exact spares_ret fun _ => trivial

/-- A plan that was read is the one in the trace. -/
theorem plan_spares (package : VerifiedPackage) :
    Spares debug s b (fun plan _ => ∀ s', plan.declared = some s' → s' = s) package.plan where
  ok hmatched _ hr := by
    obtain rfl := plan_ok.1 hr
    exact fun s' hs' => hmatched.declared List.mem_cons_self hs'
  error _ _ hr := by
    obtain ⟨answer, tr, rfl, h⟩ := runs_call.1 hr
    rcases answer with _ | plan
    · cases (runs_ret.1 h).2
      rfl
    · cases (runs_ret.1 h).2

variable [Abi]

theorem request_grant_spares (interface : Nat) : Spares debug s b (fun _ _ => True) (request_grant interface) := by
  refine Spares.andThen (spares_orElse rfl fun _ => trivial) fun granted _ _ _ => ?_
  cases granted with
  | false => exact spares_ret fun _ => trivial
  | true =>
    refine Spares.andThen (spares_orElse rfl fun _ => trivial) fun again _ _ _ => ?_
    refine Spares.andThen (spares_require rfl) fun _ _ _ _ => Spares.andThen (spares_lift _) fun answer _ _ _ => ?_
    refine Spares.andThen (spares_require rfl) fun _ _ _ _ => Spares.andThen (spares_lift _) fun entry _ _ _ => ?_
    refine Spares.andThen (spares_require rfl) fun _ _ _ _ => Spares.andThen (spares_lift _) fun revoked _ _ _ => ?_
    exact Spares.andThen (spares_require rfl) fun _ _ _ _ => spares_ret fun _ => trivial

theorem revoke_spares (op : UInt16) : Spares debug s b (fun _ _ => True) (revoke_during_open_request op) := by
  have hchunk : ∀ {b} flags, Spares debug s b (fun _ _ => True) (send_empty_chunk op flags) := fun flags =>
    Spares.andThen (spares_lift _) fun _ _ _ _ => Spares.andThen (spares_orElse rfl fun _ => trivial) fun _ _ _ _ =>
      spares_ret fun _ => trivial
  refine Spares.andThen (hchunk _) fun status _ _ _ => Spares.andThen (spares_require rfl) fun _ _ _ _ => ?_
  refine Spares.andThen (spares_orElse rfl fun _ => trivial) fun _ _ _ _ => ?_
  refine Spares.andThen (spares_orElse rfl fun _ => trivial) fun _ _ _ _ => ?_
  exact Spares.andThen (hchunk _) fun status _ _ _ => spares_require rfl

omit [Abi] in
theorem check_report_spares (report : String) (required : List String) :
    Spares debug s b (fun _ _ => True) (liftM (check_report report required)) := by
  unfold check_report
  split
  · exact spares_throw rfl
  · split
    · exact spares_throw rfl
    · exact spares_ret fun _ => trivial

variable [Crates] {T : ResourceTable} {granted : Bool}

omit [Abi] in
theorem check_spares (i : ServiceEndpoint) (granted : Bool) : Spares debug s b (fun _ _ => True) (checkOf i granted) := by
  cases i with
  | Filesystem => exact spares_ret fun _ => trivial
  | Keystore =>
    cases granted with
    | false => exact spares_ret fun _ => trivial
    | true =>
      refine Spares.andThen (spares_lift _) ?_
      rintro ⟨buffer, e | tag⟩ _ - -
      · cases e <;> first | exact spares_require rfl | exact spares_throw rfl
      · exact spares_throw rfl

omit [Abi] in
/-- The guest is entered, and comes back. -/
theorem enter_spares {store : Store T} {linker : Linker} {input : GuestInput} {n : Nat} {e : Stage × Nat}
    (hst : Attached granted store.state) (htidy : ∀ current, Tidy linker n [] (entered (guestOf debug s) current input))
    (hfuel : n + b < store.fuel) :
    Spares debug s b (fun x b' => Attached granted x.1.state ∧ store.fuel + b' ≤ x.1.fuel + n + b + 1)
      (store.enter linker input e) := by
  have hback : ∀ {tr store' result}, Matched debug s tr → burnt tr ≤ b →
      Runs (guest_run linker store.state store.fuel input) tr (.ret (store', result)) →
      (∃ report, result = some report) ∧ Attached granted store'.state ∧
        store.fuel + (b - burnt tr) ≤ store'.fuel + n + b + 1 := by
    intro tr store' result hmatched hburnt hr
    obtain ⟨current, hplays⟩ := hmatched.plays
    obtain ⟨hreport, hst', -, hleft⟩ := tidy_run hst rfl (htidy current) lent_nil (by omega) hr hplays
    exact ⟨hreport, hst', by omega⟩
  constructor
  · intro tr a hmatched hburnt hr
    unfold Store.enter at hr
    rw [lift_run_bind] at hr
    obtain ⟨tr₁, tr₂, ⟨store', result⟩, rfl, h₁, h₂⟩ := runs_bind_value.1 hr
    rw [burnt_append] at hburnt
    obtain ⟨⟨report, rfl⟩, hresult⟩ := hback hmatched.append.1 (by omega) h₁
    obtain ⟨rfl, he⟩ := runs_ret.1 h₂
    cases he
    rw [List.append_nil]
    exact hresult
  · intro tr e' hmatched hburnt hr
    unfold Store.enter at hr
    rw [lift_run_bind] at hr
    obtain ⟨tr₁, tr₂, ⟨store', result⟩, rfl, h₁, h₂⟩ := runs_bind_value.1 hr
    rw [burnt_append] at hburnt
    obtain ⟨⟨report, rfl⟩, -⟩ := hback hmatched.append.1 (by omega) h₁
    cases (runs_ret.1 h₂).2

/-- The most moves that the guest makes in a launch: two probes of at most nine calls and a report each, and the
instantiation. -/
def MOST_MOVES : Nat := 21

/-- The fuel is enough for both probes and for what instantiates the guest, besides what is burnt. -/
theorem run_probe_spares {package : VerifiedPackage} {requests : List ResourceRequest} (hne : requests ≠ [])
    {state : RuntimeState T World} (hst : Attached granted state) (hb : b + MOST_MOVES ≤ DEFAULT_FUEL)
    (checks : ProbeChecks) :
    Spares debug s b (fun _ _ => True) (run_probe package (grantsOf s requests granted) state checks) := by
  have hmost : mostCalls s ≤ 9 := by cases s <;> decide
  unfold MOST_MOVES at hb
  refine Spares.andThen (spares_orElse rfl fun _ => trivial) fun component b hle _ => ?_
  refine Spares.andThen (spares_orElse rfl fun h => linker_declared hne h) ?_
  rintro linker b' hle' rfl
  have htidy := guest_tidy (List.mem_singleton.2 (rfl : resourceInterface s = resourceInterface s)) debug
  refine Spares.andThen (spares_orFail rfl) fun _ b₁ h₁ _ => Spares.andThen (spares_orFail rfl) fun _ b₂ h₂ _ => ?_
  refine Spares.andThen (enter_spares (n := 0) hst (fun _ => tidy_ret) (by dsimp only; omega)) ?_
  rintro ⟨store₁, report₁⟩ b₃ h₃ ⟨hst₁, hleft₁⟩
  dsimp only at hst₁ hleft₁ ⊢
  refine Spares.andThen (spares_orFail rfl) fun _ b₄ h₄ _ => ?_
  refine Spares.andThen (enter_spares hst₁ (fun _ => htidy) (by omega)) ?_
  rintro ⟨store₂, report₂⟩ b₅ h₅ ⟨hst₂, hleft₂⟩
  dsimp only at hst₂ hleft₂ ⊢
  refine Spares.andThen (check_report_spares _ _) fun _ b₆ h₆ _ => Spares.andThen (revoke_spares _) fun _ b₇ h₇ _ => ?_
  refine Spares.andThen (enter_spares hst₂ (fun _ => htidy) (by omega)) fun x _ _ _ => ?_
  exact spares_require rfl

variable (T) in
theorem host_the_guest_spares (len : Nat) (hb : b + MOST_MOVES ≤ DEFAULT_FUEL) :
    Spares debug s b (fun _ _ => True) (host_the_guest T len) := by
  refine Spares.andThen (verify_package_spares len) fun package b₁ h₁ _ => Spares.andThen (plan_spares package) ?_
  intro plan b₂ h₂ hplan
  cases hs : plan.declared with
  | none =>
    obtain ⟨detail, hrefused⟩ : ∃ detail, (host_plan T package plan).run = .ret (.error (.Manifest, detail)) :=
      host_plan_refused T hs
    constructor
    · intro tr a _ _ hr
      rw [hrefused] at hr
      cases (runs_ret.1 hr).2
    · intro tr e _ _ hr
      rw [hrefused] at hr
      cases (runs_ret.1 hr).2
      rfl
  | some s' =>
    obtain rfl := hplan s' hs
    rw [host_plan_declared T hs]
    refine Spares.andThen (request_grant_spares _) fun granted b₃ h₃ _ => Spares.andThen (check_spares _ _) ?_
    rintro ⟨⟩ b₄ h₄ -
    exact run_probe_spares (declared_requests hs).1 (attached_state T s' _ granted) (by omega) _

omit [Abi] [Crates] in
theorem code_inj {stage stage' : Stage} (h : stage.code = stage'.code) : stage = stage' := by
  cases stage <;> cases stage' <;> first | rfl | cases h

/-- Whatever a launch is answered, it does not fail by a guest that is the one for its plan, unless that burns its
fuel: the guest does not trap, and what it does not burn is enough for its moves. -/
theorem launch_spares_guest {len : Nat} {tr : Confined.Events} {o : Outcome Unit}
    (h : Runs (run_and_report len (host_the_guest T)) tr o) (hmatched : Matched debug s tr)
    (hburnt : burnt tr + MOST_MOVES ≤ DEFAULT_FUEL) {stage : Stage} {detail : Nat}
    (hsignal : ⟨.signal_with FAILURE_CPTR stage.code detail, ()⟩ ∈ tr) : trapped (stage, detail) = false := by
  obtain ⟨mid, rest, rfl, hhost⟩ := runs_run_and_report.1 h
  have hmid : Matched debug s mid := hmatched.append.2.append.1
  have hless : burnt mid ≤ burnt (preamble ++ (mid ++ rest)) := by
    rw [burnt_append, burnt_append]
    omega
  have hquiet : ∀ {o'}, Runs (host_the_guest T len).run mid o' →
      (⟨.signal_with FAILURE_CPTR stage.code detail, ()⟩ : Event World) ∉ mid := by
    intro o' hrun hmem
    obtain ⟨before, after, rfl⟩ := List.append_of_mem hmem
    cases ((host_the_guest_quiet T len).sound hrun).2 before _ after rfl
  have hpreamble : (⟨.signal_with FAILURE_CPTR stage.code detail, ()⟩ : Event World) ∉ preamble := by
    rw [preamble, List.mem_cons, List.mem_singleton]
    rintro (he | he) <;> cases he
  simp only [List.mem_append, hpreamble, false_or] at hsignal
  rcases hhost with ⟨result, hrun, hrest⟩ | ⟨msg, hrun, -, rfl⟩
  · have hrest := (runs_report_result.1 hrest).2
    have hsignal := hsignal.resolve_left (hquiet hrun)
    rcases result with ⟨stage', detail'⟩ | ⟨⟩
    · obtain rfl := hrest
      injection List.mem_singleton.1 hsignal with hcall
      injection hcall with _ hstage hdetail
      rw [code_inj hstage, hdetail]
      exact (host_the_guest_spares T len hburnt).error hmid hless hrun
    · -- The signals of a success go elsewhere.
      obtain ⟨top, rfl⟩ := hrest
      rcases List.mem_cons.1 hsignal with he | hmem
      · cases he
      · cases List.mem_singleton.1 hmem
  · exact absurd (hsignal.resolve_right List.not_mem_nil) (hquiet hrun)

end Program

/-! ## A launch of the keystore demo without a grant -/

/-- What the guest is in the middle of after one call. -/
def currentAfter (probe current : Prog Wit String) : WorldCall → Prog Wit String
  | .guest input => entered probe current input
  | _ => current

/-- An outside that runs the guest lets it play its program. -/
theorem plays_trace {σ α : Type} {h : Handler World σ} {current : σ → Prog Wit String} {probe : Prog Wit String}
    (hguest : ∀ input w, (h (.guest input) w).1 = move (entered probe (current w) input))
    (hnext : ∀ c w, current (h c w).2 = currentAfter probe (current w) c) (p : Prog World α) (w : σ) :
    Plays probe (current w) (p.trace h w) := by
  induction p generalizing w with
  | ret a => trivial
  | panic msg => trivial
  | call c k ih =>
    have hrest := ih (h c w).1 (h c w).2
    rw [hnext c w] at hrest
    cases c with
    | guest input => exact ⟨.inr (hguest input w), hrest⟩
    | _ => exact hrest

/-- As `demoOutside`, with a binder that declines. -/
def decliningOutside : Handler World Scene
  | .bind .., w => (.ok false, w)
  | c, w => demoOutside c w

theorem launch_spares_guest_declined :
    letI := lengthPrefixed
    letI := abiNumbers
    ∃ tr o, Runs (run_and_report 16 (host_the_guest demoTable)) tr o ∧
      ⟨.signal_with FAILURE_CPTR Stage.Verdict.code 0, ()⟩ ∈ tr ∧ trapped (.Verdict, 0) = false := by
  let _ := lengthPrefixed
  let _ := abiNumbers
  have hplays : Plays (guestOf demoDebug .Keystore) (.ret "")
      ((run_and_report 16 (host_the_guest demoTable)).trace decliningOutside Scene.start) := by
    have hnext : ∀ c w, (decliningOutside c w).2.current =
        currentAfter (guestOf demoDebug .Keystore) w.current c := by
      intro c w
      cases c <;> rfl
    exact plays_trace (fun _ _ => rfl) hnext _ Scene.start
  have hplan : ∀ e ∈ (run_and_report 16 (host_the_guest demoTable)).trace decliningOutside Scene.start,
      ∀ manifest plan, e = ⟨.parse_bytes manifest, some plan⟩ → plan = demoPlan := by
    refine trace_within ?_ _ Scene.start
    rintro c w manifest plan he
    cases c <;> cases he
    rfl
  have hmatched : Matched demoDebug .Keystore
      ((run_and_report 16 (host_the_guest demoTable)).trace decliningOutside Scene.start) := by
    refine ⟨⟨_, hplays⟩, fun hmem hs' => ?_⟩
    rw [hplan _ hmem _ _ rfl] at hs'
    exact (Option.some.inj hs').symm
  have hsignal : ⟨.signal_with FAILURE_CPTR Stage.Verdict.code 0, ()⟩ ∈
      (run_and_report 16 (host_the_guest demoTable)).trace decliningOutside Scene.start :=
    List.mem_of_getLast? rfl
  have hburnt : burnt ((run_and_report 16 (host_the_guest demoTable)).trace decliningOutside Scene.start) = 0 := rfl
  exact ⟨_, _, runs_run decliningOutside _ Scene.start, hsignal,
    launch_spares_guest (runs_run decliningOutside _ Scene.start) hmatched (by rw [hburnt]; decide) hsignal⟩

end LanternRuntime.Guests

import LanternRuntime.Confined.Sequence
/-!
# The two probes

`run_probe` is one half up to the first report, and another that has the grant
revoked and probes again. `Started` and `Ended` are what the two halves were
answered. Where the second half fails, `FailedAt` says at which step.
-/
open ProgLib

namespace LanternRuntime.Confined
open Host

variable [Crates] {T : ResourceTable}

/-! ## Entering the guest -/

section Enter
variable {ε : Type} {store : Store T} {linker : Linker} {input : GuestInput} {e : ε} {tr : Events}

theorem runs_enter_ok {x : Store T × String} : Runs (store.enter linker input e).run tr (.ret (.ok x)) ↔
    Runs (guest_run linker store.state store.fuel input) tr (.ret (x.1, some x.2)) := by
  unfold Store.enter
  rw [lift_run_bind, runs_bind_value]
  constructor
  · rintro ⟨tr₁, tr₂, ⟨store', result⟩, rfl, h₁, h₂⟩
    rcases result with _ | report
    · cases (runs_ret.1 h₂).2
    · obtain ⟨rfl, he⟩ := runs_ret.1 h₂
      cases he
      rw [List.append_nil]
      exact h₁
  · exact fun h => ⟨tr, [], _, (List.append_nil tr).symm, h, .ret _⟩

theorem runs_enter_error {e' : ε} (h : Runs (store.enter linker input e).run tr (.ret (.error e'))) : e' = e := by
  unfold Store.enter at h
  rw [lift_run_bind] at h
  obtain ⟨tr₁, tr₂, ⟨store', result⟩, rfl, -, h₂⟩ := runs_bind_value.1 h
  rcases result with _ | report
  · cases (runs_ret.1 h₂).2
    rfl
  · cases (runs_ret.1 h₂).2

end Enter

omit [Crates] in
theorem runs_check_report {report : String} {required : List String} {tr : Events}
    {o : Outcome (Except (Stage × Nat) Unit)} :
    Runs (liftM (check_report report required) : StageResult Unit).run tr o ↔
      tr = [] ∧ o = .ret (check_report report required) := by
  cases check_report report required <;> exact runs_ret

omit [Crates] in
/-- A report passes if it starts `ok: ` and has every marker. -/
theorem check_report_ok {report : String} {required : List String} : check_report report required = .ok () ↔
    starts_with report "ok: " = true ∧ ∀ marker ∈ required, contains report marker = true := by
  unfold check_report
  cases hok : starts_with report "ok: " with
  | false => simp
  | true =>
    cases hfind : required.findIdx? fun marker => !contains report marker with
    | none => simpa using hfind
    | some i =>
      obtain ⟨hlt, hmissing, -⟩ := List.findIdx?_eq_some_iff_getElem.1 hfind
      have hnot : ¬ ∀ marker ∈ required, contains report marker = true := by
        intro hall
        rw [hall _ (List.getElem_mem hlt)] at hmissing
        cases hmissing
      simpa using hnot

/-- A report of a refusal. -/
def refusal (report refused : String) : Bool := starts_with report "error: " && contains report refused

/-! ## The first half -/

variable [Abi] {package : VerifiedPackage} {manifest : GrantManifest} {state : RuntimeState T World}
  {checks : ProbeChecks}

/-- `run_probe` up to the first report. -/
def first_half (package : VerifiedPackage) (manifest : GrantManifest) (state : RuntimeState T World)
    (required : List String) : StageResult (Linker × Store T) := do
  let component ← orElse (deserialize_trusted_component package.cwasm_bytes).run (.Deserialize, 0)
  let linker ← orElse (build_linker manifest).run (.Link, 0)
  orFail (ask (.define_unknown_imports_as_traps component)) (.Link, 1)
  orFail (ask (.set_fuel DEFAULT_FUEL)) (.Instantiate, 0)
  let (store, _) ← Store.enter ⟨state, DEFAULT_FUEL⟩ linker (.instantiate component) (.Instantiate, 1)
  orFail (ask (.get_typed_func "probe")) (.Lookup, 0)
  let (store, report) ← store.enter linker (.call "probe") (.Call, 0)
  check_report report required
  return (linker, store)

/-- The rest of it. -/
def second_half (linker : Linker) (store : Store T) (checks : ProbeChecks) : StageResult Unit := do
  revoke_during_open_request checks.open_op
  let (_, report) ← store.enter linker (.call "probe") (.Call, 1)
  require (refusal report checks.refused) (.Revocation, 3)

theorem run_probe_halves : run_probe package manifest state checks =
    first_half package manifest state checks.required >>= fun x => second_half x.1 x.2 checks := by
  unfold run_probe first_half
  simp only [bind_assoc, pure_bind]
  rfl

/-- The component was loaded, linked and instantiated, and its first report passed. -/
inductive Started (package : VerifiedPackage) (manifest : GrantManifest) (state : RuntimeState T World)
    (required : List String) : Linker × Store T → Events → Prop
  | intro {component store₁ store₂ report₁ report t₁ t₂} :
      Runs (guest_run (interfacesOf manifest) state DEFAULT_FUEL (.instantiate component)) t₁
        (.ret (store₁, some report₁)) →
      Runs (guest_run (interfacesOf manifest) store₁.state store₁.fuel (.call "probe")) t₂
        (.ret (store₂, some report)) →
      starts_with report "ok: " = true → (∀ marker ∈ required, contains report marker = true) →
      Started package manifest state required (interfacesOf manifest, store₂)
        (⟨.deserialize package.cwasm_bytes, .ok component⟩ :: (additions (interfacesOf manifest) ++
          (⟨.define_unknown_imports_as_traps component, true⟩ :: ⟨.set_fuel DEFAULT_FUEL, true⟩ ::
            (t₁ ++ ⟨.get_typed_func "probe", true⟩ :: t₂))))

omit [Abi] in
theorem first_half_ok {required : List String} {x : Linker × Store T} {tr : Events} :
    Runs (first_half package manifest state required).run tr (.ret (.ok x)) ↔
      Started package manifest state required x tr := by
  unfold first_half
  constructor
  · intro h
    obtain ⟨tr₁, _, component, rfl, h₁, g₁⟩ := runs_andThen_ok.1 h
    obtain rfl := deserialize_ok.1 (runs_orElse_ok.1 h₁)
    obtain ⟨tr₂, _, linker, rfl, h₂, g₂⟩ := runs_andThen_ok.1 g₁
    obtain ⟨rfl, rfl⟩ := build_linker_ok.1 (runs_orElse_ok.1 h₂)
    obtain ⟨tr₃, _, ⟨⟩, rfl, h₃, g₃⟩ := runs_andThen_ok.1 g₂
    obtain rfl := runs_ask.1 (runs_orFail_ok.1 h₃)
    obtain ⟨tr₄, _, ⟨⟩, rfl, h₄, g₄⟩ := runs_andThen_ok.1 g₃
    obtain rfl := runs_ask.1 (runs_orFail_ok.1 h₄)
    obtain ⟨tr₅, _, ⟨store₁, report₁⟩, rfl, h₅, g₅⟩ := runs_andThen_ok.1 g₄
    obtain ⟨tr₆, _, ⟨⟩, rfl, h₆, g₆⟩ := runs_andThen_ok.1 g₅
    obtain rfl := runs_ask.1 (runs_orFail_ok.1 h₆)
    obtain ⟨tr₇, _, ⟨store₂, report⟩, rfl, h₇, g₇⟩ := runs_andThen_ok.1 g₆
    obtain ⟨tr₈, _, ⟨⟩, rfl, h₈, g₈⟩ := runs_andThen_ok.1 g₇
    obtain ⟨rfl, hreport⟩ := runs_check_report.1 h₈
    obtain ⟨rfl, he⟩ := runs_ret.1 g₈
    cases he
    obtain ⟨hok, hall⟩ := check_report_ok.1 (Outcome.ret.inj hreport).symm
    rw [List.append_nil, List.append_nil]
    exact .intro (runs_enter_ok.1 h₅) (runs_enter_ok.1 h₇) hok hall
  · rintro ⟨h₅, h₇, hok, hall⟩
    refine runs_andThen_ok.2 ⟨[_], _, _, rfl, runs_orElse_ok.2 (deserialize_ok.2 rfl), ?_⟩
    refine runs_andThen_ok.2 ⟨_, _, _, rfl, runs_orElse_ok.2 (build_linker_ok.2 ⟨rfl, rfl⟩), ?_⟩
    refine runs_andThen_ok.2 ⟨[_], _, (), rfl, runs_orFail_ok.2 (runs_ask.2 rfl), ?_⟩
    refine runs_andThen_ok.2 ⟨[_], _, (), rfl, runs_orFail_ok.2 (runs_ask.2 rfl), ?_⟩
    refine runs_andThen_ok.2 ⟨_, _, (_, _), rfl, runs_enter_ok.2 h₅, ?_⟩
    refine runs_andThen_ok.2 ⟨[_], _, (), rfl, runs_orFail_ok.2 (runs_ask.2 rfl), ?_⟩
    refine runs_andThen_ok.2 ⟨_, [], (_, _), (List.append_nil _).symm, runs_enter_ok.2 h₇, ?_⟩
    refine runs_andThen_ok.2 ⟨[], [], (), rfl, runs_check_report.2 ⟨rfl, ?_⟩, .ret _⟩
    rw [check_report_ok.2 ⟨hok, hall⟩]

/-- Every error of `p` is of a stage in `P`. -/
def FailsIn {α : Type} (P : Stage → Prop) (p : StageResult α) : Prop :=
  ∀ ⦃tr e⦄, Runs p.run tr (.ret (.error e)) → P e.1

section FailsIn
variable {α β ε : Type} {P : Stage → Prop} {e : Stage × Nat}

omit [Crates] [Abi] in
theorem FailsIn.bind {p : StageResult α} {f : α → StageResult β} (hp : FailsIn P p) (hf : ∀ a, FailsIn P (f a)) :
    FailsIn P (p >>= f) := by
  intro tr e h
  rcases runs_andThen_error.1 h with ⟨tr₁, tr₂, a, -, -, h₂⟩ | h₁
  · exact hf a h₂
  · exact hp h₁

omit [Crates] [Abi] in
theorem failsIn_orElse {p : Prog World (Except ε α)} (he : P e.1) : FailsIn P (orElse p e) := by
  intro tr e' h
  obtain ⟨rfl, -⟩ := runs_orElse_error.1 h
  exact he

omit [Crates] [Abi] in
theorem failsIn_orFail {p : Prog World Bool} (he : P e.1) : FailsIn P (orFail p e) := by
  intro tr e' h
  rcases runs_orFail.1 h with ⟨b, -, ho⟩ | ⟨msg, ho, -⟩
  · cases b <;> cases ho
    exact he
  · cases ho

omit [Abi] in
theorem failsIn_enter {store : Store T} {linker : Linker} {input : GuestInput} (he : P e.1) :
    FailsIn P (store.enter linker input e) := by
  intro tr e' h
  rw [runs_enter_error h]
  exact he

end FailsIn

omit [Abi] in
/-- Nothing has been revoked yet. -/
theorem first_half_fails {required : List String} :
    FailsIn (· ≠ .Revocation) (first_half package manifest state required) := by
  refine (failsIn_orElse nofun).bind fun component => (failsIn_orElse nofun).bind fun linker => ?_
  refine (failsIn_orFail nofun).bind fun _ => (failsIn_orFail nofun).bind fun _ => ?_
  refine (failsIn_enter nofun).bind fun x => (failsIn_orFail nofun).bind fun _ => ?_
  refine (failsIn_enter nofun).bind fun y => FailsIn.bind ?_ fun _ => ?_
  · intro tr e h
    obtain ⟨-, he⟩ := runs_check_report.1 h
    unfold check_report at he
    split at he
    · cases he
      exact nofun
    · split at he
      · cases he
        exact nofun
      · cases he
  · intro tr e h
    cases (runs_ret.1 h).2

/-! ## The second half -/

/-- The grant was revoked, and the second probe reported. -/
inductive Ended (linker : Linker) (store : Store T) (checks : ProbeChecks) : String → Events → Prop
  | intro {report store' tr₁ tr₂} : Revoked checks.open_op tr₁ →
      Runs (guest_run linker store.state store.fuel (.call "probe")) tr₂ (.ret (store', some report)) →
      Ended linker store checks report (tr₁ ++ tr₂)

section SecondHalf
variable {linker : Linker} {store : Store T} {tr : Events}

theorem Ended.runs {report : String} (h : Ended linker store checks report tr) :
    Runs (second_half linker store checks).run tr
      (.ret (if refusal report checks.refused then .ok () else .error (.Revocation, 3))) := by
  obtain ⟨hrevoked, hguest⟩ := h
  refine runs_andThen.2 (.inl ⟨_, _, (), rfl, runs_revoke.2 (.inl ⟨rfl, hrevoked⟩), ?_⟩)
  exact runs_andThen.2 (.inl ⟨_, [], (_, _), (List.append_nil _).symm,
    runs_enter_ok.2 hguest, runs_require.2 ⟨rfl, rfl⟩⟩)

/-- The request was interrupted, or the guest came back or not. -/
theorem second_half_cases {o : Outcome (Except (Stage × Nat) Unit)}
    (h : Runs (second_half linker store checks).run tr o) :
    (∃ f, o = .ret (.error (.Revocation, f.detail)) ∧ Interrupted checks.open_op f tr) ∨
    (∃ report, Ended linker store checks report tr ∧
      o = .ret (if refusal report checks.refused then .ok () else .error (.Revocation, 3))) ∨
    o = .ret (.error (.Call, 1)) ∨ ∃ msg, o = .panic msg := by
  rcases runs_andThen.1 h with ⟨tr₁, tr₂, ⟨⟩, rfl, h₁, h₂⟩ | ⟨e, rfl, h₁⟩ | ⟨msg, rfl, h₁⟩
  · rcases runs_revoke.1 h₁ with ⟨-, hrevoked⟩ | ⟨f, he, -⟩
    · rcases runs_andThen.1 h₂ with ⟨tr₃, tr₄, ⟨store', report⟩, rfl, h₃, h₄⟩ | ⟨e, rfl, h₃⟩ | ⟨msg, rfl, h₃⟩
      · obtain ⟨rfl, rfl⟩ := runs_require.1 h₄
        rw [List.append_nil]
        exact .inr (.inl ⟨report, .intro hrevoked (runs_enter_ok.1 h₃), rfl⟩)
      · rw [runs_enter_error h₃]
        exact .inr (.inr (.inl rfl))
      · exact .inr (.inr (.inr ⟨msg, rfl⟩))
    · cases he
  · rcases runs_revoke.1 h₁ with ⟨he, -⟩ | ⟨f, he, hf⟩
    · cases he
    · cases he
      exact .inl ⟨f, rfl, hf⟩
  · exact .inr (.inr (.inr ⟨msg, rfl⟩))

end SecondHalf

/-! ## The keystore demo -/

abbrev demoTable : ResourceTable := slabTable Entry 4 (by decide)

/-- The first half for a guest that reports at once. -/
def demoStart : Events :=
  [⟨.deserialize demoPackage.cwasm_bytes, .ok ⟨0⟩⟩, ⟨.add_to_linker .keystore, true⟩,
    ⟨.define_unknown_imports_as_traps ⟨0⟩, true⟩, ⟨.set_fuel DEFAULT_FUEL, true⟩,
    ⟨.guest (.instantiate ⟨0⟩), .done ""⟩, ⟨.get_typed_func "probe", true⟩,
    ⟨.guest (.call "probe"), .done "ok: keystore.open(1)=none"⟩]

omit [Abi] in
theorem guest_run_done (linker : Linker) (state : RuntimeState T World) (fuel : Nat)
    (input : GuestInput) (report : String) :
    Runs (guest_run linker state (fuel + 1) input) [⟨.guest input, .done report⟩] (.ret (⟨state, fuel⟩, some report)) :=
  runs_call.2 ⟨.done report, [], rfl, .ret _⟩

omit [Abi] in
theorem demo_started (T : ResourceTable) (granted : Bool) :
    Started ⟨demoPackage.manifest_bytes, demoPackage.cwasm_bytes⟩ (grantsOf .Keystore demoPlan.keystore granted)
      (stateOf T .Keystore demoPlan.keystore granted) (probeOf .Keystore).required
      ([.keystore], ⟨stateOf T .Keystore demoPlan.keystore granted, 9999998⟩) demoStart :=
  .intro (guest_run_done _ _ 9999999 _ "") (guest_run_done _ _ 9999998 _ "ok: keystore.open(1)=none") (by decide)
    (List.forall_mem_singleton.2 (by decide))

/-- The rest for one that does so again, with what the two chunks are answered. -/
def demoEnd (op : UInt16) (report : String) : Events :=
  chunk op Abi.FLAG_MORE (.ok Abi.status_OK.toUInt32) ++ (exchanged ++ chunk op 0 (.ok Abi.status_ACCESS.toUInt32)) ++
    [⟨.guest (.call "probe"), .done report⟩]

theorem demo_ended (linker : Linker) (state : RuntimeState T World) (fuel : Nat) (report : String) :
    Ended linker ⟨state, fuel + 1⟩ checks report (demoEnd checks.open_op report) :=
  .intro (.intro (by simp [chunkStatus]) (by simp [chunkStatus]))
    (guest_run_done linker state fuel (.call "probe") report)

end LanternRuntime.Confined

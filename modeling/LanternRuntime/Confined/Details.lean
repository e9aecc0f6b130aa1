import LanternRuntime.Confined.Probing
/-!
# What the detail of a failed revocation says

`FailedAt` says at which step of the revocation a run of `run_probe` failed, by
what it was answered. The detail that is sent is to name that step.
`revocation_detail` says when it does: one helper sends both chunks and gives a
call that failed the same detail, and the bit that marks a status can be a bit
of it.
-/
open ProgLib

namespace LanternRuntime.Confined
open Host

/-! ## The step that failed -/

section Failed
variable [Crates] [Abi] {T : ResourceTable} {package : VerifiedPackage} {manifest : GrantManifest}
  {state : RuntimeState T World} {checks : ProbeChecks} {f f' : Failure} {tr : Events}

/-- The run came to the revocation, and failed there: at a step of it, or because the second probe
did not report a refusal. -/
inductive FailedAt (package : VerifiedPackage) (manifest : GrantManifest) (state : RuntimeState T World)
    (checks : ProbeChecks) : Failure → Events → Prop
  | interrupted {x pre mid f} : Started package manifest state checks.required x pre →
      Interrupted checks.open_op f mid → FailedAt package manifest state checks f (pre ++ mid)
  | secondProbe {x pre mid report} : Started package manifest state checks.required x pre →
      Ended x.1 x.2 checks report mid → refusal report checks.refused = false →
      FailedAt package manifest state checks .secondProbe (pre ++ mid)

/-- The failures of the revocation, and their details. -/
theorem run_probe_failed {detail : Nat} :
    Runs (run_probe package manifest state checks).run tr (.ret (.error (.Revocation, detail))) ↔
      ∃ f, detail = f.detail ∧ FailedAt package manifest state checks f tr := by
  rw [run_probe_halves, runs_andThen_error]
  constructor
  · rintro (⟨pre, mid, x, rfl, h₁, h₂⟩ | h₁)
    · have hstarted := first_half_ok.1 h₁
      rcases second_half_cases h₂ with ⟨f, he, hf⟩ | ⟨report, hended, he⟩ | he | ⟨msg, he⟩
      · cases he
        exact ⟨f, rfl, .interrupted hstarted hf⟩
      · cases hrefusal : refusal report checks.refused with
        | true =>
          rw [hrefusal] at he
          cases he
        | false =>
          rw [hrefusal] at he
          cases he
          exact ⟨.secondProbe, rfl, .secondProbe hstarted hended hrefusal⟩
      · cases he
      · cases he
    · exact absurd rfl (first_half_fails h₁)
  · rintro ⟨f, rfl, hstarted, hf⟩
    · exact .inl ⟨_, _, _, rfl, first_half_ok.2 hstarted,
        runs_andThen_error.2 (.inr (runs_revoke.2 (.inr ⟨f, rfl, hf⟩)))⟩
    · next hstarted hended hrefusal =>
      refine .inl ⟨_, _, _, rfl, first_half_ok.2 hstarted, ?_⟩
      have h := hended.runs
      rw [hrefusal] at h
      exact h

/-! ## It is the only one -/

/-- What the chunks were answered. -/
def chunkAnswers (tr : Events) : List (Except SysError UInt32) :=
  tr.filterMap fun e => match e with
    | ⟨.call_with_label _ _ _, ans⟩ => some ans
    | _ => none

/-- The failure, by the answers to the first two chunks. -/
def failureOf : List (Except SysError UInt32) → Failure
  | [] => .opening
  | [opening] => if chunkStatus opening = some Abi.status_OK then .exchange else .opening
  | _ :: closing :: _ =>
    match chunkStatus closing with
    | none => .closingCall
    | some status => if status = Abi.status_ACCESS then .secondProbe else .closing status

omit [Crates] in
theorem failureOf_interrupted {op : UInt16} (h : Interrupted op f tr) : failureOf (chunkAnswers tr) = f := by
  cases h with
  | opening hopening => simp [chunkAnswers, chunk, failureOf, hopening]
  | signal hopening => simp [chunkAnswers, chunk, failureOf, hopening]
  | wait hopening => simp [chunkAnswers, chunk, failureOf, hopening]
  | closingCall hopening hclosing => simp [chunkAnswers, chunk, exchanged, failureOf, hclosing]
  | closing hopening hclosing hne => simp [chunkAnswers, chunk, exchanged, failureOf, hclosing, hne]

theorem failureOf_ended {linker : Linker} {store : Store T} {report : String}
    (h : Ended linker store checks report tr) :
    failureOf (chunkAnswers tr) = .secondProbe := by
  obtain ⟨⟨hopening, hclosing⟩, -⟩ := h
  simp [chunkAnswers, chunk, exchanged, failureOf, hclosing]

/-- From where the first half ends. -/
theorem FailedAt.failureOf (h : FailedAt package manifest state checks f tr) :
    ∃ x pre mid, tr = pre ++ mid ∧ Started package manifest state checks.required x pre ∧
      Confined.failureOf (chunkAnswers mid) = f := by
  cases h with
  | interrupted hstarted hf => exact ⟨_, _, _, rfl, hstarted, failureOf_interrupted hf⟩
  | secondProbe hstarted hended => exact ⟨_, _, _, rfl, hstarted, failureOf_ended hended⟩

theorem FailedAt.unique (h : FailedAt package manifest state checks f tr)
    (h' : FailedAt package manifest state checks f' tr) : f = f' := by
  obtain ⟨x, pre, mid, rfl, hstarted, rfl⟩ := h.failureOf
  obtain ⟨x', pre', mid', he, hstarted', rfl⟩ := h'.failureOf
  obtain ⟨-, rfl⟩ := (first_half_ok.2 hstarted).split (first_half_ok.2 hstarted') he
  rfl

theorem FailedAt.only (h : FailedAt package manifest state checks f tr) (f' : Failure) :
    FailedAt package manifest state checks f' tr ↔ f' = f :=
  ⟨fun h' => h'.unique h, fun he => he ▸ h⟩

end Failed

/-! ## Details -/

/-- What a detail promises of the failure `f`. -/
structure Names (detail : Nat) (f : Failure) (status : UInt16) : Prop where
  opening : detail = 1 → f = .opening
  exchange : detail = 2 → f = .exchange
  secondProbe : detail = 3 → f = .secondProbe
  closing : detail = 0x100 ||| status.toNat → f = .closing status

/-- The bit that marks a status hides one of its own. -/
theorem marked_eq_iff {s t : UInt16} : 0x100 ||| s.toNat = 0x100 ||| t.toNat ↔ t = s ∨ t = s ^^^ 0x100 := by
  have h256 : ∀ i, (0x100 : Nat).testBit i = decide (8 = i) := fun i => Nat.testBit_two_pow (n := 8) (m := i)
  constructor
  · intro h
    have hbit : ∀ i, i ≠ 8 → s.toNat.testBit i = t.toNat.testBit i := by
      intro i hi
      have := congrArg (Nat.testBit · i) h
      simpa [Nat.testBit_or, h256, Ne.symm hi] using this
    by_cases h8 : s.toNat.testBit 8 = t.toNat.testBit 8
    · refine .inl (UInt16.toNat_inj.1 (Nat.eq_of_testBit_eq fun i => ?_))
      by_cases hi : i = 8
      · rw [hi, h8]
      · exact (hbit i hi).symm
    · refine .inr (UInt16.toNat_inj.1 (Nat.eq_of_testBit_eq fun i => ?_))
      rw [UInt16.toNat_xor, Nat.testBit_xor]
      change _ = (s.toNat.testBit i ^^ (0x100 : Nat).testBit i)
      rw [h256]
      by_cases hi : i = 8
      · subst hi
        cases hs : s.toNat.testBit 8 <;> cases ht : t.toNat.testBit 8 <;> simp_all
      · simp [hbit i hi, Ne.symm hi]
  · rintro (rfl | rfl)
    · rfl
    · apply Nat.eq_of_testBit_eq
      intro i
      rw [UInt16.toNat_xor, Nat.testBit_or, Nat.testBit_or, Nat.testBit_xor]
      change _ = ((0x100 : Nat).testBit i || (s.toNat.testBit i ^^ (0x100 : Nat).testBit i))
      rw [h256]
      by_cases hi : 8 = i <;> simp [hi]

/-- A marked status is none of the other details. -/
theorem le_marked (s : UInt16) : 0x100 ≤ 0x100 ||| s.toNat := Nat.left_le_or

theorem flip_mark (s : UInt16) : s ^^^ 0x100 ^^^ 0x100 = s := by
  rw [UInt16.xor_assoc, UInt16.xor_self, UInt16.xor_zero]

theorem flip_mark_ne (s : UInt16) : s ^^^ 0x100 ≠ s := by
  intro h
  have hzero : s ^^^ (s ^^^ 0x100) = s ^^^ s := congrArg (s ^^^ ·) h
  rw [← UInt16.xor_assoc, UInt16.xor_self, UInt16.zero_xor] at hzero
  cases hzero

/-- A detail names its failure unless that is a closing chunk whose call failed, or whose status is
the other one but for the mark. -/
theorem names_iff {f : Failure} {status : UInt16} :
    Names f.detail f status ↔ f ≠ .closingCall ∧ f ≠ .closing (status ^^^ 0x100) := by
  constructor
  · intro h
    refine ⟨?_, ?_⟩
    · rintro rfl
      cases h.opening rfl
    · rintro rfl
      have hsame := h.closing (marked_eq_iff.2 (.inr (flip_mark status).symm))
      exact flip_mark_ne status (Failure.closing.inj hsame)
  · rintro ⟨hcall, hclosing⟩
    have hle := le_marked status
    cases f with
    | opening => exact ⟨fun _ => rfl, nofun, nofun, fun h => by change 1 = _ at h; omega⟩
    | exchange => exact ⟨nofun, fun _ => rfl, nofun, fun h => by change 2 = _ at h; omega⟩
    | secondProbe => exact ⟨nofun, nofun, fun _ => rfl, fun h => by change 3 = _ at h; omega⟩
    | closingCall => exact absurd rfl hcall
    | closing s =>
      have hs := le_marked s
      have hnot : ∀ n < 0x100, 0x100 ||| s.toNat ≠ n := fun n hn => by omega
      refine ⟨fun h => absurd h (hnot 1 (by decide)), fun h => absurd h (hnot 2 (by decide)),
        fun h => absurd h (hnot 3 (by decide)), fun h => ?_⟩
      rcases marked_eq_iff.1 h with rfl | rfl
      · rfl
      · rw [flip_mark] at hclosing
        exact absurd rfl hclosing

/-- Two failures with one detail are the same, or one of them is a closing chunk whose call failed,
or they are statuses that differ in the mark. -/
theorem detail_eq {f f' : Failure} (hf : f ≠ .closingCall) (hf' : f' ≠ .closingCall) (h : f.detail = f'.detail) :
    f = f' ∨ ∃ s, f = .closing s ∧ f' = .closing (s ^^^ 0x100) := by
  have hmarked := le_marked
  cases f with
  | closingCall => exact absurd rfl hf
  | closing s =>
    cases f' with
    | closingCall => exact absurd rfl hf'
    | closing t =>
      rcases marked_eq_iff.1 h with rfl | rfl
      · exact .inl rfl
      · exact .inr ⟨s, rfl, rfl⟩
    | _ =>
      have hs := hmarked s
      simp only [Failure.detail] at h
      omega
  | _ =>
    cases f' with
    | closingCall => exact absurd rfl hf'
    | closing t =>
      have ht := hmarked t
      simp only [Failure.detail] at h
      omega
    | _ => first | exact .inl rfl | cases h

/-- Two details name their failures, and tell them apart, exactly if neither is a closing chunk whose call failed
and no two of the statuses at hand differ in the mark alone. -/
theorem details_iff {f₁ f₂ : Failure} {status : UInt16} :
    (Names f₁.detail f₁ status ∧ Names f₂.detail f₂ status ∧ (f₁ ≠ f₂ → f₁.detail ≠ f₂.detail)) ↔
      f₁ ≠ .closingCall ∧ f₂ ≠ .closingCall ∧
      f₁ ≠ .closing (status ^^^ 0x100) ∧ f₂ ≠ .closing (status ^^^ 0x100) ∧
      ∀ s, f₁ = .closing s → f₂ ≠ .closing (s ^^^ 0x100) := by
  rw [names_iff, names_iff]
  constructor
  · rintro ⟨⟨hcall₁, hclosing₁⟩, ⟨hcall₂, hclosing₂⟩, hapart⟩
    refine ⟨hcall₁, hcall₂, hclosing₁, hclosing₂, ?_⟩
    rintro s rfl rfl
    have hne : Failure.closing s ≠ .closing (s ^^^ 0x100) := fun he => flip_mark_ne s (Failure.closing.inj he).symm
    exact hapart hne (marked_eq_iff.2 (.inr rfl))
  · rintro ⟨hcall₁, hcall₂, hclosing₁, hclosing₂, hpair⟩
    refine ⟨⟨hcall₁, hclosing₁⟩, ⟨hcall₂, hclosing₂⟩, fun hne hdetail => ?_⟩
    rcases detail_eq hcall₁ hcall₂ hdetail with he | ⟨s, hs₁, hs₂⟩
    · exact hne he
    · exact hpair s hs₁ hs₂

/-- They do so whatever status is asked about only if neither failure is one of the closing chunk. -/
theorem details_iff_all {f₁ f₂ : Failure} :
    (∀ status, Names f₁.detail f₁ status ∧ Names f₂.detail f₂ status ∧ (f₁ ≠ f₂ → f₁.detail ≠ f₂.detail)) ↔
      f₁ ≠ .closingCall ∧ f₂ ≠ .closingCall ∧ ∀ s, f₁ ≠ .closing s ∧ f₂ ≠ .closing s := by
  constructor
  · intro h
    obtain ⟨hcall₁, hcall₂, -⟩ := details_iff.1 (h 0)
    refine ⟨hcall₁, hcall₂, fun s => ?_⟩
    obtain ⟨-, -, h₁, h₂, -⟩ := details_iff.1 (h (s ^^^ 0x100))
    rw [flip_mark] at h₁ h₂
    exact ⟨h₁, h₂⟩
  · rintro ⟨hcall₁, hcall₂, hclosing⟩ status
    exact details_iff.2 ⟨hcall₁, hcall₂, (hclosing _).1, (hclosing _).2, fun _ _ => (hclosing _).2⟩

/-! ## Two runs -/

/-- In every two runs that fail at the revocation: the details name the failures, and tell them
apart, exactly if neither is a closing chunk whose call failed and no two of the statuses at hand
differ in the mark alone. -/
theorem revocation_detail [Crates] [Abi] {T₁ T₂ : ResourceTable} {package₁ package₂ : VerifiedPackage}
    {manifest₁ manifest₂ : GrantManifest} {state₁ : RuntimeState T₁ World} {state₂ : RuntimeState T₂ World}
    {checks₁ checks₂ : ProbeChecks} {tr₁ tr₂ : Events} {detail₁ detail₂ : Nat}
    (h₁ : Runs (run_probe package₁ manifest₁ state₁ checks₁).run tr₁ (.ret (.error (.Revocation, detail₁))))
    (h₂ : Runs (run_probe package₂ manifest₂ state₂ checks₂).run tr₂ (.ret (.error (.Revocation, detail₂)))) :
    ∃ f₁ f₂, (∀ f, FailedAt package₁ manifest₁ state₁ checks₁ f tr₁ ↔ f = f₁) ∧
      (∀ f, FailedAt package₂ manifest₂ state₂ checks₂ f tr₂ ↔ f = f₂) ∧
      ∀ status, (Names detail₁ f₁ status ∧ Names detail₂ f₂ status ∧ (f₁ ≠ f₂ → detail₁ ≠ detail₂)) ↔
        f₁ ≠ .closingCall ∧ f₂ ≠ .closingCall ∧
        f₁ ≠ .closing (status ^^^ 0x100) ∧ f₂ ≠ .closing (status ^^^ 0x100) ∧
        ∀ s, f₁ = .closing s → f₂ ≠ .closing (s ^^^ 0x100) := by
  obtain ⟨f₁, rfl, hf₁⟩ := run_probe_failed.1 h₁
  obtain ⟨f₂, rfl, hf₂⟩ := run_probe_failed.1 h₂
  exact ⟨f₁, f₂, hf₁.only, hf₂.only, fun _ => details_iff⟩

/-- Whatever status is asked about, they do exactly if neither run failed at its closing chunk. -/
theorem revocation_details [Crates] [Abi] {T₁ T₂ : ResourceTable} {package₁ package₂ : VerifiedPackage}
    {manifest₁ manifest₂ : GrantManifest} {state₁ : RuntimeState T₁ World} {state₂ : RuntimeState T₂ World}
    {checks₁ checks₂ : ProbeChecks} {tr₁ tr₂ : Events} {detail₁ detail₂ : Nat}
    (h₁ : Runs (run_probe package₁ manifest₁ state₁ checks₁).run tr₁ (.ret (.error (.Revocation, detail₁))))
    (h₂ : Runs (run_probe package₂ manifest₂ state₂ checks₂).run tr₂ (.ret (.error (.Revocation, detail₂)))) :
    ∃ f₁ f₂, (∀ f, FailedAt package₁ manifest₁ state₁ checks₁ f tr₁ ↔ f = f₁) ∧
      (∀ f, FailedAt package₂ manifest₂ state₂ checks₂ f tr₂ ↔ f = f₂) ∧
      ((∀ status, Names detail₁ f₁ status ∧ Names detail₂ f₂ status ∧ (f₁ ≠ f₂ → detail₁ ≠ detail₂)) ↔
        f₁ ≠ .closingCall ∧ f₂ ≠ .closingCall ∧ ∀ s, f₁ ≠ .closing s ∧ f₂ ≠ .closing s) := by
  obtain ⟨f₁, rfl, hf₁⟩ := run_probe_failed.1 h₁
  obtain ⟨f₂, rfl, hf₂⟩ := run_probe_failed.1 h₂
  exact ⟨f₁, f₂, hf₁.only, hf₂.only, details_iff_all⟩

/-! ## Runs of the keystore guest -/

/-- A run of the demo that failed at `f`. -/
def DemoFails [Crates] [Abi] (f : Failure) (detail : Nat) : Prop :=
  ∃ tr, Runs (run_probe ⟨demoPackage.manifest_bytes, demoPackage.cwasm_bytes⟩
      (grantsOf .Keystore demoPlan.keystore true)
      (stateOf demoTable .Keystore demoPlan.keystore true) (probeOf .Keystore)).run tr
      (.ret (.error (.Revocation, detail))) ∧
    FailedAt ⟨demoPackage.manifest_bytes, demoPackage.cwasm_bytes⟩ (grantsOf .Keystore demoPlan.keystore true)
      (stateOf demoTable .Keystore demoPlan.keystore true) (probeOf .Keystore) f tr

theorem demo_fails [Crates] [Abi] {f : Failure} {mid : Events} (hf : Interrupted (probeOf .Keystore).open_op f mid) :
    DemoFails f f.detail :=
  ⟨demoStart ++ mid, run_probe_failed.2 ⟨f, rfl, .interrupted (demo_started _ true) hf⟩,
    .interrupted (demo_started _ true) hf⟩

/-- The service does not open the request, or does not end it as it must. -/
theorem revocation_detail_demo :
    letI := lengthPrefixed
    letI := abiNumbers
    ∃ detail₁ detail₂ f₁ f₂, DemoFails f₁ detail₁ ∧ DemoFails f₂ detail₂ ∧
      ∀ status, (Names detail₁ f₁ status ∧ Names detail₂ f₂ status ∧ (f₁ ≠ f₂ → detail₁ ≠ detail₂)) ↔
        f₁ ≠ .closingCall ∧ f₂ ≠ .closingCall ∧
        f₁ ≠ .closing (status ^^^ 0x100) ∧ f₂ ≠ .closing (status ^^^ 0x100) ∧
        ∀ s, f₁ = .closing s → f₂ ≠ .closing (s ^^^ 0x100) := by
  let _ := lengthPrefixed
  let _ := abiNumbers
  obtain ⟨tr₁, hrun₁, hf₁⟩ : DemoFails .opening 1 := demo_fails (.opening (by decide : chunkStatus (.ok 2) ≠ some 0))
  obtain ⟨tr₂, hrun₂, hf₂⟩ : DemoFails (.closing 2) 0x102 :=
    demo_fails (.closing (rfl : chunkStatus (.ok 0) = some 0) (rfl : chunkStatus (.ok 2) = some 2) (by decide))
  obtain ⟨f₁, f₂, h₁, h₂, hiff⟩ := revocation_detail hrun₁ hrun₂
  exact ⟨_, _, f₁, f₂, ⟨tr₁, hrun₁, (h₁ f₁).2 rfl⟩, ⟨tr₂, hrun₂, (h₂ f₂).2 rfl⟩, hiff⟩

/-- A closing chunk whose call failed sends the detail of one that did not open, and the statuses 2
and 0x102 send one detail. -/
theorem revocation_detail_collides :
    letI := lengthPrefixed
    letI := abiNumbers
    (DemoFails .opening 1 ∧ DemoFails .closingCall 1) ∧ DemoFails (.closing 2) 0x102 ∧
      DemoFails (.closing 0x102) 0x102 := by
  let _ := lengthPrefixed
  let _ := abiNumbers
  refine ⟨⟨?_, ?_⟩, ?_, ?_⟩
  · exact demo_fails (.opening (by decide : chunkStatus (.ok 2) ≠ some 0))
  · exact demo_fails (.closingCall (rfl : chunkStatus (.ok 0) = some 0) (rfl : chunkStatus (.error 1) = none))
  · exact demo_fails (.closing (rfl : chunkStatus (.ok 0) = some 0) (rfl : chunkStatus (.ok 2) = some 2) (by decide))
  · exact demo_fails (.closing (rfl : chunkStatus (.ok 0) = some 0)
    (rfl : chunkStatus (.ok 0x102) = some 0x102) (by decide))

end LanternRuntime.Confined

import LanternRuntime.Confined.Reference
import LanternRuntime.ProgLib.Rules
/-!
# Which packages are accepted

`Checks` are a launcher, a decoder and a verifier that answer as functions.
`Checks.verdict` is what `verify_package` is there to decide: the package at
hand is accepted if a trusted key accepts it. The self-check on a tampered copy
comes first, and decides instead where the copy is genuine.
-/
open ProgLib

namespace LanternRuntime.Confined
open Host

/-! ## Stages, one after the other -/

theorem require_bind {α : Type} (condition : Bool) (e : Stage × Nat) (f : Unit → StageResult α) :
    (require condition e >>= f).run = if condition then (f ()).run else .ret (.error e) := by
  cases condition <;> rfl

/-! ## The checks -/

structure Checks where
  /-- The mapped bytes, if the package is this long. -/
  mapped : (len : Nat) → Buf len
  decode : Bytes → Option PackageRef
  verify : PackageRef → PublicKey → Bool

namespace Checks

/-- The answer is the function's. -/
def Answer (env : Checks) : Event World → Prop
  | ⟨.mapped_package len, bytes⟩ => bytes = env.mapped len
  | ⟨.decode_package_ref bytes, package⟩ => package = env.decode bytes
  | ⟨.package_verify package key, accepted⟩ => accepted = env.verify package key
  | _ => True

variable (env : Checks)

/-- Some trusted key accepts the package. -/
def trusts (package : PackageRef) : Bool := TRUSTED_PUBLISHERS.any (env.verify package)

/-- Two packages that are trusted under one signature have the same contents. -/
def Binding : Prop := ∀ p p', p.signature = p'.signature → env.trusts p = true → env.trusts p' = true →
  p.manifest_bytes = p'.manifest_bytes ∧ p.cwasm_bytes = p'.cwasm_bytes

/-- The length is in range and the bytes decode. -/
def Decodes (len : Nat) (package : PackageRef) : Prop :=
  0 < len ∧ len ≤ PACKAGE_MAX_LEN ∧ env.decode (env.mapped len) = some package

/-- What is to be decided: the first condition that fails, or the decoded contents. -/
def verdict (len : Nat) : Except (Stage × Nat) VerifiedPackage :=
  if len = 0 ∨ len > PACKAGE_MAX_LEN then .error (.Package, 1)
  else match env.decode (env.mapped len) with
    | none => .error (.Package, 2)
    | some package =>
      if env.trusts package then .ok ⟨package.manifest_bytes, package.cwasm_bytes⟩ else .error (.Package, 4)

/-- The package is a trusted one but for the lowest bit of its last cwasm byte, or is a trusted one
that has no such byte. -/
def OneBitOff (package : PackageRef) : Prop :=
  ∃ genuine, env.trusts genuine = true ∧ genuine.manifest_bytes = package.manifest_bytes ∧
    genuine.signature = package.signature ∧
    ((genuine.cwasm_bytes = [] ∧ package.cwasm_bytes = []) ∨
      ∃ init b, genuine.cwasm_bytes = init ++ [b] ∧ package.cwasm_bytes = init ++ [b ^^^ 1])

end Checks

/-! ## The tampered copy -/

/-- The copy that must be rejected. -/
def forge (package : PackageRef) : PackageRef := { package with cwasm_bytes := tamper package.cwasm_bytes }

@[simp] theorem tamper_nil : tamper [] = [] := rfl

@[simp] theorem tamper_concat (init : Bytes) (b : UInt8) : tamper (init ++ [b]) = init ++ [b ^^^ 1] := by
  simp [tamper]

/-- Flipping the bit again restores it. -/
theorem flip_flip (b : UInt8) : b ^^^ 1 ^^^ 1 = b := by
  rw [UInt8.xor_assoc, UInt8.xor_self, UInt8.xor_zero]

section Checks
variable {env : Checks} {len : Nat} {package : PackageRef}

/-- The tampered copy is trusted exactly where the package is one bit off a trusted one. -/
theorem forge_trusted_iff : env.trusts (forge package) = true ↔ env.OneBitOff package := by
  constructor
  · intro h
    refine ⟨forge package, h, rfl, rfl, ?_⟩
    rcases List.eq_nil_or_concat package.cwasm_bytes with hnil | ⟨init, b, hb⟩
    · exact .inl ⟨by simp [forge, hnil], hnil⟩
    · rw [List.concat_eq_append] at hb
      exact .inr ⟨init, b ^^^ 1, by simp [forge, hb], by rw [hb, flip_flip]⟩
  · rintro ⟨genuine, htrust, hman, hsig, hcwasm⟩
    have hforge : forge package = genuine := by
      obtain ⟨manifest, cwasm, signature⟩ := genuine
      obtain ⟨manifest', cwasm', signature'⟩ := package
      simp only at hman hsig hcwasm
      subst hman hsig
      rcases hcwasm with ⟨rfl, rfl⟩ | ⟨init, b, rfl, rfl⟩
      · rfl
      · simp only [forge, tamper_concat, flip_flip]
    rwa [hforge]

/-- A trusted package with a byte to flip has no trusted copy. -/
theorem Checks.Binding.not_oneBitOff (hbind : env.Binding) (htrust : env.trusts package = true)
    (hne : package.cwasm_bytes ≠ []) : ¬ env.OneBitOff package := by
  rintro ⟨genuine, htrust', -, hsig, ⟨-, hnil⟩ | ⟨init, b, hb, hb'⟩⟩
  · exact hne hnil
  · obtain ⟨-, hcwasm⟩ := hbind _ _ hsig htrust' htrust
    rw [hb, hb'] at hcwasm
    have hbit : b = b ^^^ 1 := by simpa using hcwasm
    have hzero : b ^^^ b = b ^^^ (b ^^^ 1) := congrArg (b ^^^ ·) hbit
    rw [UInt8.xor_self, ← UInt8.xor_assoc, UInt8.xor_self, UInt8.zero_xor] at hzero
    cases hzero

end Checks

/-! ## What `verify_package` computes -/

/-- The two checks of a decoded package. -/
def judge (package : PackageRef) : Prog World (Except (Stage × Nat) VerifiedPackage) := do
  if ← any_trusted (forge package) then return .error (.Package, 3)
  else if ← any_trusted package then return .ok ⟨package.manifest_bytes, package.cwasm_bytes⟩
  else return .error (.Package, 4)

theorem verify_package_eq (len : Nat) : (verify_package len).run =
    if len ≠ 0 ∧ len ≤ PACKAGE_MAX_LEN then
      .call (.mapped_package len) fun bytes : Buf len => .call (.decode_package_ref bytes) fun
        | none => .ret (.error (.Package, 2))
        | some package => judge package
    else .ret (.error (.Package, 1)) := by
  unfold verify_package
  rw [require_bind]
  by_cases hlen : len ≠ 0 ∧ len ≤ PACKAGE_MAX_LEN
  · rw [if_pos (decide_eq_true hlen), if_pos hlen]
    refine congrArg (Prog.call (E := World) (.mapped_package len)) (funext fun bytes => ?_)
    refine congrArg (Prog.call (E := World) (.decode_package_ref _)) (funext fun answer => ?_)
    rcases answer with _ | package
    · rfl
    · refine (lift_run_bind (any_trusted (forge package)) _).trans (congrArg (any_trusted (forge package) >>= ·) ?_)
      funext forged
      rw [require_bind]
      cases forged with
      | true => rfl
      | false =>
        refine (lift_run_bind (any_trusted package) _).trans (congrArg (any_trusted package >>= ·) ?_)
        funext genuine
        cases genuine <;> rfl
  · rw [if_neg (by simpa using hlen), if_neg hlen]

section Checks
variable {env : Checks} {len : Nat} {package : PackageRef}

theorem any_returns (package : PackageRef) (keys : List PublicKey) :
    Returns env.Answer (· = keys.any (env.verify package))
      (any (fun key => ask (.package_verify package key)) keys) := by
  induction keys with
  | nil => rfl
  | cons key keys ih =>
    intro accepted (hans : accepted = env.verify package key)
    rw [List.any_cons, ← hans]
    cases accepted with
    | true => rfl
    | false => exact ih

/-- The self-check decides first. -/
def Checks.computed (env : Checks) (len : Nat) : Except (Stage × Nat) VerifiedPackage :=
  if len ≠ 0 ∧ len ≤ PACKAGE_MAX_LEN then
    match env.decode (env.mapped len) with
    | none => .error (.Package, 2)
    | some package =>
      if env.trusts (forge package) then .error (.Package, 3)
      else if env.trusts package then .ok ⟨package.manifest_bytes, package.cwasm_bytes⟩
      else .error (.Package, 4)
  else .error (.Package, 1)

theorem verify_package_returns (len : Nat) : Returns env.Answer (· = env.computed len) (verify_package len).run := by
  rw [verify_package_eq]
  unfold Checks.computed
  by_cases hlen : len ≠ 0 ∧ len ≤ PACKAGE_MAX_LEN
  · simp only [if_pos hlen]
    rintro _ rfl answer (hanswer : answer = env.decode (env.mapped len))
    rw [← hanswer]
    cases answer with
    | none => rfl
    | some package =>
      refine (any_returns (forge package) TRUSTED_PUBLISHERS).bind ?_
      rintro _ rfl
      change Returns _ _ (if env.trusts (forge package) = true then _ else _)
      cases hforge : env.trusts (forge package) with
      | true => simp [hforge]
      | false =>
        refine (any_returns package TRUSTED_PUBLISHERS).bind ?_
        rintro _ rfl
        change Returns _ _ (if env.trusts package = true then _ else _)
        cases htrust : env.trusts package <;> simp [hforge, htrust]
  · simp [hlen]

/-- The two differ where the tampered copy is trusted, and there the verdict is never 3. -/
theorem computed_eq_verdict_iff :
    env.computed len = env.verdict len ↔ ¬ ∃ package, env.Decodes len package ∧ env.OneBitOff package := by
  unfold Checks.computed Checks.verdict Checks.Decodes
  by_cases hlen : len ≠ 0 ∧ len ≤ PACKAGE_MAX_LEN
  · have hpos : 0 < len := by omega
    have hin : ¬ (len = 0 ∨ len > PACKAGE_MAX_LEN) := by omega
    rw [if_pos hlen, if_neg hin]
    cases hdec : env.decode (env.mapped len) with
    | none => simp
    | some package =>
      have hoff : (∃ p, (0 < len ∧ len ≤ PACKAGE_MAX_LEN ∧ some package = some p) ∧ env.OneBitOff p) ↔
          env.trusts (forge package) = true := by
        rw [forge_trusted_iff]
        constructor
        · rintro ⟨p, ⟨-, -, ⟨⟩⟩, hp⟩
          exact hp
        · intro hp
          exact ⟨package, ⟨hpos, hlen.2, rfl⟩, hp⟩
      rw [hoff]
      by_cases hforge : env.trusts (forge package) = true <;> by_cases htrust : env.trusts package = true <;>
        simp [hforge, htrust]
  · have hout : len = 0 ∨ len > PACKAGE_MAX_LEN := by omega
    rw [if_neg hlen, if_pos hout]
    simp only [true_iff]
    rintro ⟨p, ⟨hpos, hle, -⟩, -⟩
    omega

end Checks

/-- In every run, `verify_package` decides what it is there to decide, unless the package is one bit
off a trusted one. With a binding verifier it accepts every trusted package that has a byte to flip. -/
theorem verify_package_verdict (env : Checks) {len : Nat} {tr : List (Event World)}
    {o : Outcome (Except (Stage × Nat) VerifiedPackage)} (h : Runs (verify_package len).run tr o)
    (hA : ∀ e ∈ tr, env.Answer e) :
    (o = .ret (env.verdict len) ↔ ¬ ∃ package, env.Decodes len package ∧ env.OneBitOff package) ∧
    (env.Binding → ∀ package, env.Decodes len package → env.trusts package = true → package.cwasm_bytes ≠ [] →
      o = .ret (.ok ⟨package.manifest_bytes, package.cwasm_bytes⟩)) := by
  obtain ⟨_, rfl, rfl⟩ := (verify_package_returns len).runs h hA
  rw [Outcome.ret.injEq, computed_eq_verdict_iff]
  refine ⟨Iff.rfl, fun hbind package hdec htrust hne => ?_⟩
  obtain ⟨hpos, hle, hsome⟩ := hdec
  have hlen : len ≠ 0 ∧ len ≤ PACKAGE_MAX_LEN := ⟨by omega, hle⟩
  have hforge : ¬ env.trusts (forge package) = true := mt forge_trusted_iff.1 (hbind.not_oneBitOff htrust hne)
  unfold Checks.computed
  simp only [if_pos hlen, hsome, if_neg hforge, if_pos htrust]

/-! ## A publisher's package -/

/-- Every length maps zeros and decodes to `found`; the one package that verifies is `genuine`. -/
def publisher (genuine found : PackageRef) : Checks where
  mapped := zeros
  decode _ := some found
  verify package _ := package = genuine

theorem publisher_trusts (genuine found package : PackageRef) :
    (publisher genuine found).trusts package = true ↔ package = genuine := by
  simp [Checks.trusts, publisher, TRUSTED_PUBLISHERS]

theorem publisher_binding (genuine found : PackageRef) : (publisher genuine found).Binding := by
  intro p p' _ hp hp'
  rw [publisher_trusts] at hp hp'
  rw [hp, hp']
  exact ⟨rfl, rfl⟩

/-- A world that answers as `env` where `env` says something. -/
def Checks.world (env : Checks) : Handler World Bool
  | .mapped_package len, s => (env.mapped len, s)
  | .decode_package_ref bytes, s => (env.decode bytes, s)
  | .package_verify package key, s => (env.verify package key, s)
  | c, s => keystoreWorld c s

theorem Checks.world_answers (env : Checks) (c : WorldCall) (s : Bool) : env.Answer ⟨c, (env.world c s).1⟩ := by
  cases c <;> trivial

theorem Checks.world_trace (env : Checks) {α : Type} (p : Prog World α) (s : Bool) :
    ∀ e ∈ p.trace env.world s, env.Answer e := by
  induction p generalizing s with
  | ret a => exact nofun
  | panic msg => exact nofun
  | call c k ih =>
    intro e he
    rcases List.mem_cons.1 he with rfl | he
    · exact env.world_answers c s
    · exact ih _ _ e he

/-- The runtime demo's package, as published. -/
theorem verify_package_verdict_demo :
    ∃ tr o, Runs (verify_package 16).run tr o ∧
      (o = .ret ((publisher demoPackage demoPackage).verdict 16) ↔
        ¬ ∃ package, (publisher demoPackage demoPackage).Decodes 16 package ∧
          (publisher demoPackage demoPackage).OneBitOff package) ∧
      o = .ret (.ok ⟨demoPackage.manifest_bytes, demoPackage.cwasm_bytes⟩) := by
  have hrun := runs_run (publisher demoPackage demoPackage).world (verify_package 16).run false
  obtain ⟨hiff, haccept⟩ := verify_package_verdict (publisher demoPackage demoPackage) hrun (Checks.world_trace _ _ _)
  refine ⟨_, _, hrun, hiff, haccept (publisher_binding _ _) demoPackage ⟨by decide, by decide, rfl⟩ ?_ (by decide)⟩
  rw [publisher_trusts]

/-- Genuine packages with and without code, and an altered one: both the empty one, which is
trusted, and the altered one, which is not, are reported as a broken check. -/
theorem verify_package_reports_broken_check :
    let codeless : PackageRef := ⟨[0x6b], [], zeros SIGNATURE_LEN⟩
    let altered : PackageRef := ⟨[0x6b], [0x77, 0x60], zeros SIGNATURE_LEN⟩
    (∃ tr, Runs (verify_package 16).run tr (.ret (.error (.Package, 3))) ∧
      (∀ e ∈ tr, (publisher codeless codeless).Answer e) ∧ (publisher codeless codeless).Binding ∧
      (publisher codeless codeless).verdict 16 = .ok ⟨[0x6b], []⟩) ∧
    ∃ tr, Runs (verify_package 16).run tr (.ret (.error (.Package, 3))) ∧
      (∀ e ∈ tr, (publisher demoPackage altered).Answer e) ∧ (publisher demoPackage altered).Binding ∧
      (publisher demoPackage altered).verdict 16 = .error (.Package, 4) := by
  intro codeless altered
  constructor
  · exact ⟨_, runs_run (publisher codeless codeless).world (verify_package 16).run false, Checks.world_trace _ _ _,
      publisher_binding _ _, rfl⟩
  · exact ⟨_, runs_run (publisher demoPackage altered).world (verify_package 16).run false, Checks.world_trace _ _ _,
      publisher_binding _ _, rfl⟩

end LanternRuntime.Confined

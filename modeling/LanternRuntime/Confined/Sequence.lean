import LanternRuntime.Confined.Effects
import LanternRuntime.Confined.Package
/-!
# The launch-and-revoke sequence

What each part of the program was answered in a run in which it succeeded, as
the list of its events. Each lemma is an equivalence: a part that was answered
so does succeed.
-/
open ProgLib

namespace LanternRuntime.Confined
open Host

/-! ## One step -/

section Steps
variable {ε ε' α : Type} {tr : Events}

theorem runs_ask {c : WorldCall} {ans : c.Ans} : Runs (ask c) tr (.ret ans) ↔ tr = [⟨c, ans⟩] := by
  constructor
  · intro h
    obtain ⟨ans', rfl, rfl⟩ := runs_call_ret (f := id) h
    rfl
  · rintro rfl
    exact Runs.call (E := World) c .ret ans (.ret ans)

/-- A call whose answer the rest is given. -/
theorem runs_ask_bind {c : WorldCall} {f : c.Ans → ExceptT ε (Prog World) α} {o : Outcome (Except ε α)} :
    Runs ((liftM (ask c) : ExceptT ε (Prog World) c.Ans) >>= f).run tr o ↔
      ∃ ans tr', tr = ⟨c, ans⟩ :: tr' ∧ Runs (f ans).run tr' o := by
  rw [lift_run_bind]
  exact runs_call

theorem runs_require {condition : Bool} {e : Stage × Nat} {o : Outcome (Except (Stage × Nat) Unit)} :
    Runs (require condition e).run tr o ↔ tr = [] ∧ o = .ret (if condition then .ok () else .error e) := by
  cases condition <;> exact runs_ret

/-- A call, and then a check of its answer. -/
theorem runs_checked {c : WorldCall} {check : c.Ans → Bool} {e : Stage × Nat} {f : Unit → StageResult α}
    {a : α} :
    Runs ((liftM (ask c) : StageResult c.Ans) >>= fun ans => require (check ans) e >>= f).run tr (.ret (.ok a)) ↔
      ∃ ans tr', tr = ⟨c, ans⟩ :: tr' ∧ check ans = true ∧ Runs (f ()).run tr' (.ret (.ok a)) := by
  rw [runs_ask_bind]
  constructor
  · rintro ⟨ans, tr', rfl, h⟩
    rw [require_bind] at h
    cases hcheck : check ans with
    | false =>
      rw [hcheck] at h
      cases (runs_ret.1 h).2
    | true =>
      rw [hcheck] at h
      exact ⟨ans, tr', rfl, hcheck, h⟩
  · rintro ⟨ans, tr', rfl, hcheck, h⟩
    refine ⟨ans, tr', rfl, ?_⟩
    rw [require_bind, hcheck]
    exact h

theorem runs_orElse {p : Prog World (Except ε α)} {e : ε'} {o : Outcome (Except ε' α)} :
    Runs (orElse p e).run tr o ↔ (∃ result, Runs p tr (.ret result) ∧ o = .ret (result.mapError fun _ => e)) ∨
      ∃ msg, o = .panic msg ∧ Runs p tr (.panic msg) := by
  unfold orElse
  rw [lift_run_bind, runs_bind]
  have hmap : ∀ (result : Except ε α) {tr : Events} {o : Outcome (Except ε' α)},
      Runs (liftM (result.mapError fun _ => e) : ExceptT ε' (Prog World) α).run tr o ↔
        tr = [] ∧ o = .ret (result.mapError fun _ => e) := by
    rintro (x | a) tr o <;> exact runs_ret
  constructor
  · rintro (⟨tr₁, tr₂, result, rfl, hp, h⟩ | h)
    · obtain ⟨rfl, rfl⟩ := (hmap result).1 h
      rw [List.append_nil]
      exact .inl ⟨result, hp, rfl⟩
    · exact .inr h
  · rintro (⟨result, hp, rfl⟩ | h)
    · exact .inl ⟨tr, [], result, (List.append_nil tr).symm, hp, (hmap result).2 ⟨rfl, rfl⟩⟩
    · exact .inr h

theorem runs_orElse_ok {p : Prog World (Except ε α)} {e : ε'} {a : α} :
    Runs (orElse p e).run tr (.ret (.ok a)) ↔ Runs p tr (.ret (.ok a)) := by
  rw [runs_orElse]
  constructor
  · rintro (⟨x | b, hp, he⟩ | ⟨msg, he, -⟩)
    · cases he
    · cases he
      exact hp
    · cases he
  · exact fun hp => .inl ⟨.ok a, hp, rfl⟩

theorem runs_orElse_error {p : Prog World (Except ε α)} {e e' : ε'} :
    Runs (orElse p e).run tr (.ret (.error e')) ↔ e' = e ∧ ∃ x, Runs p tr (.ret (.error x)) := by
  rw [runs_orElse]
  constructor
  · rintro (⟨x | b, hp, he⟩ | ⟨msg, he, -⟩)
    · cases he
      exact ⟨rfl, x, hp⟩
    · cases he
    · cases he
  · rintro ⟨rfl, x, hp⟩
    exact .inl ⟨.error x, hp, rfl⟩

/-- Where only success is reported. -/
theorem runs_orFail {p : Prog World Bool} {e : ε'} {o : Outcome (Except ε' Unit)} :
    Runs (orFail p e).run tr o ↔ (∃ b, Runs p tr (.ret b) ∧ o = .ret (if b then .ok () else .error e)) ∨
      ∃ msg, o = .panic msg ∧ Runs p tr (.panic msg) := by
  unfold orFail
  rw [lift_run_bind, runs_bind]
  have hret : ∀ (b : Bool) {tr : Events} {o : Outcome (Except ε' Unit)},
      Runs (if b then return () else throw e : ExceptT ε' (Prog World) Unit).run tr o ↔
        tr = [] ∧ o = .ret (if b then .ok () else .error e) := by
    intro b tr o
    cases b <;> exact runs_ret
  constructor
  · rintro (⟨tr₁, tr₂, b, rfl, hp, h⟩ | h)
    · obtain ⟨rfl, rfl⟩ := (hret b).1 h
      rw [List.append_nil]
      exact .inl ⟨b, hp, rfl⟩
    · exact .inr h
  · rintro (⟨b, hp, rfl⟩ | h)
    · exact .inl ⟨tr, [], b, (List.append_nil tr).symm, hp, (hret b).2 ⟨rfl, rfl⟩⟩
    · exact .inr h

theorem runs_orFail_ok {p : Prog World Bool} {e : ε'} :
    Runs (orFail p e).run tr (.ret (.ok ())) ↔ Runs p tr (.ret true) := by
  rw [runs_orFail]
  constructor
  · rintro (⟨b, hp, he⟩ | ⟨msg, he, -⟩)
    · cases b with
      | false => cases he
      | true => exact hp
    · cases he
  · exact fun hp => .inl ⟨true, hp, rfl⟩

end Steps

/-! ## The package -/

/-- Every one of `keys` rejects the package. -/
def rejections (package : PackageRef) (keys : List PublicKey) : Events :=
  keys.map fun key => ⟨.package_verify package key, false⟩

theorem runs_any_true {package : PackageRef} {keys : List PublicKey} {tr : Events} :
    Runs (any (fun key => ask (.package_verify package key)) keys) tr (.ret true) ↔
      ∃ pre key post, keys = pre ++ key :: post ∧
        tr = rejections package pre ++ [⟨.package_verify package key, true⟩] := by
  induction keys generalizing tr with
  | nil =>
    constructor
    · intro h
      cases (runs_ret.1 h).2
    · rintro ⟨pre, key, post, he, -⟩
      simp at he
  | cons key keys ih =>
    constructor
    · intro h
      obtain ⟨accepted, tr', rfl, h'⟩ := runs_call.1 h
      cases accepted with
      | true =>
        obtain ⟨rfl, -⟩ := runs_ret.1 h'
        exact ⟨[], key, keys, rfl, rfl⟩
      | false =>
        obtain ⟨pre, key', post, rfl, rfl⟩ := ih.1 h'
        exact ⟨key :: pre, key', post, rfl, rfl⟩
    · rintro ⟨pre, key', post, he, rfl⟩
      cases pre with
      | nil =>
        cases he
        exact runs_call.2 ⟨true, [], rfl, .ret true⟩
      | cons key'' pre =>
        cases he
        exact runs_call.2 ⟨false, _, rfl, ih.2 ⟨pre, key', post, rfl, rfl⟩⟩

theorem runs_any_false {package : PackageRef} {keys : List PublicKey} {tr : Events} :
    Runs (any (fun key => ask (.package_verify package key)) keys) tr (.ret false) ↔ tr = rejections package keys := by
  induction keys generalizing tr with
  | nil =>
    constructor
    · exact fun h => (runs_ret.1 h).1
    · rintro rfl
      exact .ret false
  | cons key keys ih =>
    constructor
    · intro h
      obtain ⟨accepted, tr', rfl, h'⟩ := runs_call.1 h
      cases accepted with
      | true => cases (runs_ret.1 h').2
      | false => exact congrArg (⟨.package_verify package key, false⟩ :: ·) (ih.1 h')
    · rintro rfl
      exact runs_call.2 ⟨false, _, rfl, ih.2 rfl⟩

/-- The copy was rejected under every key, and the package accepted under one. -/
theorem judge_ok {package : PackageRef} {tr : Events} {p : VerifiedPackage} :
    Runs (judge package) tr (.ret (.ok p)) ↔ p = ⟨package.manifest_bytes, package.cwasm_bytes⟩ ∧
      ∃ pre key post, TRUSTED_PUBLISHERS = pre ++ key :: post ∧ tr = rejections (forge package) TRUSTED_PUBLISHERS ++
        (rejections package pre ++ [⟨.package_verify package key, true⟩]) := by
  constructor
  · intro h
    obtain ⟨tr₁, tr₂, forged, rfl, hforged, h₂⟩ := runs_bind_value.1 h
    cases forged with
    | true => cases (runs_ret.1 h₂).2
    | false =>
      obtain ⟨tr₃, tr₄, genuine, rfl, hgenuine, h₄⟩ := runs_bind_value.1 h₂
      cases genuine with
      | false => cases (runs_ret.1 h₄).2
      | true =>
        obtain ⟨rfl, he⟩ := runs_ret.1 h₄
        cases he
        obtain ⟨pre, key, post, hkeys, rfl⟩ := runs_any_true.1 hgenuine
        rw [runs_any_false.1 hforged, List.append_nil]
        exact ⟨rfl, pre, key, post, hkeys, rfl⟩
  · rintro ⟨rfl, pre, key, post, hkeys, rfl⟩
    refine runs_bind_value.2 ⟨_, _, false, rfl, runs_any_false.2 rfl, ?_⟩
    refine runs_bind_value.2 ⟨_, [], true, (List.append_nil _).symm, ?_, .ret _⟩
    exact runs_any_true.2 ⟨pre, key, post, hkeys, rfl⟩

/-- The package verified, and its tampered copy did not. -/
inductive Verified (len : Nat) : PackageRef → Events → Prop
  | intro {bytes : Buf len} {package pre key post} : 0 < len → len ≤ PACKAGE_MAX_LEN →
      TRUSTED_PUBLISHERS = pre ++ key :: post →
      Verified len package (⟨.mapped_package len, bytes⟩ :: ⟨.decode_package_ref bytes, some package⟩ ::
        (rejections (forge package) TRUSTED_PUBLISHERS ++
          (rejections package pre ++ [⟨.package_verify package key, true⟩])))

theorem verify_package_ok {len : Nat} {tr : Events} {p : VerifiedPackage} :
    Runs (verify_package len).run tr (.ret (.ok p)) ↔
      ∃ package, p = ⟨package.manifest_bytes, package.cwasm_bytes⟩ ∧ Verified len package tr := by
  rw [verify_package_eq]
  by_cases hlen : len ≠ 0 ∧ len ≤ PACKAGE_MAX_LEN
  · rw [if_pos hlen]
    constructor
    · intro h
      obtain ⟨bytes, tr₁, rfl, h₁⟩ := runs_call.1 h
      obtain ⟨answer, tr₂, rfl, h₂⟩ := runs_call.1 h₁
      rcases answer with _ | package
      · cases (runs_ret.1 h₂).2
      · obtain ⟨rfl, pre, key, post, hkeys, rfl⟩ := judge_ok.1 h₂
        exact ⟨package, rfl, .intro (Nat.pos_of_ne_zero hlen.1) hlen.2 hkeys⟩
    · rintro ⟨package, rfl, ⟨hpos, hle, hkeys⟩⟩
      refine runs_call.2 ⟨_, _, rfl, runs_call.2 ⟨some package, _, rfl, ?_⟩⟩
      exact judge_ok.2 ⟨rfl, _, _, _, hkeys, rfl⟩
  · rw [if_neg hlen]
    constructor
    · intro h
      cases (runs_ret.1 h).2
    · rintro ⟨package, -, ⟨hpos, hle, -⟩⟩
      exact absurd ⟨by omega, hle⟩ hlen

theorem plan_ok {p : VerifiedPackage} {tr : Events} {plan : GrantPlan} :
    Runs p.plan.run tr (.ret (.ok plan)) ↔ tr = [⟨.parse_bytes p.manifest_bytes, some plan⟩] := by
  constructor
  · intro h
    obtain ⟨answer, tr', rfl, h₁⟩ := runs_call.1 h
    rcases answer with _ | plan'
    · cases (runs_ret.1 h₁).2
    · obtain ⟨rfl, he⟩ := runs_ret.1 h₁
      cases he
      rfl
  · rintro rfl
    exact runs_call.2 ⟨some plan, [], rfl, .ret _⟩

/-! ## The grant -/

section Grant
variable [Abi]

/-- What the binder and the service answered: the slot is declined, or granted and all that must be
refused is. -/
inductive Asked (interface : Nat) : Bool → Events → Prop
  | declined : Asked interface false [⟨.bind ENDPOINT_CPTR DEST_CPTR interface 0, .ok false⟩]
  | granted {badge : Nat} {revoked : Except SysError UInt16} : revoked ≠ .ok Abi.status_OK →
      Asked interface true [⟨.bind ENDPOINT_CPTR DEST_CPTR interface 0, .ok true⟩,
        ⟨.bind ENDPOINT_CPTR PROBE_CPTR interface 0, .ok false⟩,
        ⟨.request_grant DEST_CPTR PROBE_CPTR 0 0xf, .ok (Abi.status_ACCESS, badge)⟩,
        ⟨.list ENDPOINT_CPTR 0, .ok none⟩, ⟨.revoke ENDPOINT_CPTR 0, revoked⟩]

theorem self_checks_ok {interface : Nat} {tr : Events} {granted : Bool} :
    Runs (self_checks interface).run tr (.ret (.ok granted)) ↔ granted = true ∧
      ∃ (badge : Nat) (revoked : Except SysError UInt16), revoked ≠ .ok Abi.status_OK ∧
        tr = [⟨.bind ENDPOINT_CPTR PROBE_CPTR interface 0, .ok false⟩,
          ⟨.request_grant DEST_CPTR PROBE_CPTR 0 0xf, .ok (Abi.status_ACCESS, badge)⟩,
          ⟨.list ENDPOINT_CPTR 0, .ok none⟩, ⟨.revoke ENDPOINT_CPTR 0, revoked⟩] := by
  constructor
  · intro h
    obtain ⟨tr₁, tr₂, again, rfl, h₁, h₂⟩ := runs_andThen_ok.1 h
    obtain rfl := runs_ask.1 (runs_orElse_ok.1 h₁)
    obtain ⟨tr₃, tr₄, ⟨⟩, rfl, h₃, h₄⟩ := runs_andThen_ok.1 h₂
    obtain ⟨rfl, hagain⟩ := runs_require.1 h₃
    obtain ⟨answer, tr₅, rfl, hanswer, h₅⟩ := runs_checked.1 h₄
    obtain ⟨entry, tr₆, rfl, hentry, h₆⟩ := runs_checked.1 h₅
    obtain ⟨revoked, tr₇, rfl, hrevoked, h₇⟩ := runs_checked.1 h₆
    obtain ⟨rfl, he⟩ := runs_ret.1 h₇
    cases he
    cases again with
    | true => cases hagain
    | false =>
      rcases answer with e | ⟨status, badge⟩
      · cases hanswer
      · obtain rfl := of_decide_eq_true hanswer
        rcases entry with e | _ | entry
        · cases hentry
        · refine ⟨rfl, badge, revoked, ?_, rfl⟩
          rintro rfl
          exact of_decide_eq_true hrevoked rfl
        · cases hentry
  · rintro ⟨rfl, badge, revoked, hrevoked, rfl⟩
    refine runs_andThen_ok.2 ⟨[_], _, false, rfl, runs_orElse_ok.2 (runs_ask.2 rfl), ?_⟩
    refine runs_andThen_ok.2 ⟨[], _, (), rfl, runs_require.2 ⟨rfl, rfl⟩, ?_⟩
    refine runs_checked.2 ⟨_, _, rfl, decide_eq_true rfl, ?_⟩
    refine runs_checked.2 ⟨_, _, rfl, rfl, ?_⟩
    refine runs_checked.2 ⟨revoked, [], rfl, ?_, .ret _⟩
    cases revoked with
    | error e => rfl
    | ok status => exact decide_eq_true fun he => hrevoked (congrArg Except.ok he)

theorem request_grant_ok {interface : Nat} {tr : Events} {granted : Bool} :
    Runs (request_grant interface).run tr (.ret (.ok granted)) ↔ Asked interface granted tr := by
  unfold request_grant
  constructor
  · intro h
    obtain ⟨tr₁, tr₂, answer, rfl, h₁, h₂⟩ := runs_andThen_ok.1 h
    obtain rfl := runs_ask.1 (runs_orElse_ok.1 h₁)
    cases answer with
    | false =>
      obtain ⟨rfl, he⟩ := runs_ret.1 h₂
      cases he
      exact .declined
    | true =>
      obtain ⟨rfl, badge, revoked, hrevoked, rfl⟩ := self_checks_ok.1 h₂
      exact .granted hrevoked
  · intro h
    cases h with
    | declined => exact runs_andThen_ok.2 ⟨_, [], false, rfl, runs_orElse_ok.2 (runs_ask.2 rfl), .ret _⟩
    | granted hrevoked =>
      refine runs_andThen_ok.2 ⟨[_], _, true, rfl, runs_orElse_ok.2 (runs_ask.2 rfl), ?_⟩
      exact self_checks_ok.2 ⟨rfl, _, _, hrevoked, rfl⟩

variable [Crates]

/-- What the program itself asks of its grant to sign. -/
def own_encrypt : Prog World (Buf ("not granted".toList.map Char.toUInt8).length × Except KeystoreError Tag) :=
  (IpcKeystore.service (channelTo DEST_CPTR)).encrypt 0 (.from_raw 0) (zeros NONCE_LEN) []
    ("not granted".toList.map Char.toUInt8)

/-- And what it makes of the answer. -/
def attenuation : Except KeystoreError Tag → Except (Stage × Nat) Unit
  | .error (.RemoteDenied status) =>
      if status = Crates.crypto_ACCESS then .ok () else .error (.Attenuation, status.toNat)
  | .error _ => .error (.Attenuation, 0x100)
  | .ok _ => .error (.Attenuation, 0x200)

omit [Abi] in
theorem attenuation_ok {result : Except KeystoreError Tag} :
    attenuation result = .ok () ↔ result = .error (.RemoteDenied Crates.crypto_ACCESS) := by
  constructor
  · intro h
    unfold attenuation at h
    split at h
    · split at h
      · next hstatus => rw [hstatus]
      · cases h
    · cases h
    · cases h
  · rintro rfl
    exact if_pos rfl

omit [Abi] in
theorem check_granted : (checkOf .Keystore true).run = own_encrypt >>= fun x => .ret (attenuation x.2) := by
  refine (lift_run_bind own_encrypt _).trans (congrArg (own_encrypt >>= ·) (funext fun x => ?_))
  obtain ⟨buffer, result⟩ := x
  rcases result with e | tag
  · cases e with
    | RemoteDenied status =>
      by_cases hstatus : status = Crates.crypto_ACCESS <;> simp [attenuation, require, hstatus]
    | _ => rfl
  · rfl

/-- `keystore.encrypt` on the grant was refused with `ACCESS`. Only the keystore is asked, and only
if there is a grant. -/
inductive Attenuated : ServiceEndpoint → Bool → Events → Prop
  | filesystem {granted} : Attenuated .Filesystem granted []
  | declined : Attenuated .Keystore false []
  | refused {tr buffer} : Runs own_encrypt tr (.ret (buffer, .error (.RemoteDenied Crates.crypto_ACCESS))) →
      Attenuated .Keystore true tr

omit [Abi] in
theorem check_ok {s : ServiceEndpoint} {granted : Bool} {tr : Events} :
    Runs (checkOf s granted).run tr (.ret (.ok ())) ↔ Attenuated s granted tr := by
  constructor
  · intro h
    cases s with
    | Filesystem =>
      obtain ⟨rfl, -⟩ := runs_ret.1 h
      exact .filesystem
    | Keystore =>
      cases granted with
      | false =>
        obtain ⟨rfl, -⟩ := runs_ret.1 h
        exact .declined
      | true =>
        rw [check_granted] at h
        obtain ⟨⟨buffer, result⟩, henc, he⟩ := runs_bind_ret.1 h
        obtain rfl := attenuation_ok.1 he.symm
        exact .refused henc
  · intro h
    cases h with
    | filesystem => exact .ret _
    | declined => exact .ret _
    | refused henc =>
      rw [check_granted]
      exact runs_bind_ret.2 ⟨_, henc, (attenuation_ok.2 rfl).symm⟩

end Grant

/-! ## Linking -/

/-- The interfaces of a manifest, in the order in which they are linked. -/
def interfacesOf (manifest : GrantManifest) : Linker :=
  (if manifest.monotonic_clock.isSome then [.monotonic_clock] else []) ++
    (if manifest.keystore_keys.isEmpty then [] else [.keystore]) ++
    (if manifest.filesystem_files.isEmpty then [] else [.filesystem])

/-- Each of them was added. -/
def additions (linker : Linker) : Events := linker.map fun interface => ⟨.add_to_linker interface, true⟩

@[simp] theorem additions_append (l l' : Linker) : additions (l ++ l') = additions l ++ additions l' := List.map_append

theorem link_if_ok {condition : Bool} {interface : Interface} {linker linker' : Linker} {tr : Events} :
    Runs (link_if condition interface linker).run tr (.ret (.ok linker')) ↔
      linker' = linker ++ (if condition then [interface] else []) ∧
      tr = additions (if condition then [interface] else []) := by
  constructor
  · intro h
    cases condition with
    | false =>
      obtain ⟨rfl, he⟩ := runs_ret.1 h
      cases he
      exact ⟨(List.append_nil linker).symm, rfl⟩
    | true =>
      obtain ⟨tr₁, tr₂, ⟨⟩, rfl, h₁, h₂⟩ := runs_andThen_ok.1 h
      obtain ⟨rfl, he⟩ := runs_ret.1 h₂
      cases he
      obtain rfl := runs_ask.1 (runs_orFail_ok.1 h₁)
      exact ⟨rfl, rfl⟩
  · rintro ⟨rfl, rfl⟩
    cases condition with
    | false =>
      rw [if_neg Bool.false_ne_true, List.append_nil]
      exact .ret _
    | true =>
      exact runs_andThen_ok.2 ⟨_, [], (), (List.append_nil _).symm, runs_orFail_ok.2 (runs_ask.2 rfl), .ret _⟩

theorem build_linker_ok {manifest : GrantManifest} {linker : Linker} {tr : Events} :
    Runs (build_linker manifest).run tr (.ret (.ok linker)) ↔
      linker = interfacesOf manifest ∧ tr = additions (interfacesOf manifest) := by
  have hnot : ∀ (b : Bool) (i : Interface), (if !b then [i] else []) = if b then [] else [i] := by
    intro b i
    cases b <;> rfl
  constructor
  · intro h
    obtain ⟨tr₁, tr', linker₁, rfl, h₁, h'⟩ := runs_andThen_ok.1 h
    obtain ⟨tr₂, tr₃, linker₂, rfl, h₂, h₃⟩ := runs_andThen_ok.1 h'
    obtain ⟨rfl, rfl⟩ := link_if_ok.1 h₁
    obtain ⟨rfl, rfl⟩ := link_if_ok.1 h₂
    obtain ⟨rfl, rfl⟩ := link_if_ok.1 h₃
    simp [interfacesOf]
  · rintro ⟨rfl, rfl⟩
    unfold interfacesOf
    rw [additions_append, additions_append, List.append_assoc]
    refine runs_andThen_ok.2 ⟨_, _, _, rfl, link_if_ok.2 ⟨rfl, rfl⟩, ?_⟩
    refine runs_andThen_ok.2 ⟨_, _, _, rfl, link_if_ok.2 ⟨rfl, by rw [hnot]⟩, ?_⟩
    exact link_if_ok.2 ⟨by rw [hnot, hnot, List.nil_append], by rw [hnot]⟩

theorem deserialize_ok {cwasm : Bytes} {component : Component} {tr : Events} :
    Runs (deserialize_trusted_component cwasm).run tr (.ret (.ok component)) ↔
      tr = [⟨.deserialize cwasm, .ok component⟩] := by
  constructor
  · intro h
    obtain ⟨answer, tr', rfl, h₁⟩ := runs_call.1 h
    rcases answer with e | component'
    · cases (runs_ret.1 h₁).2
    · obtain ⟨rfl, he⟩ := runs_ret.1 h₁
      cases he
      rfl
  · rintro rfl
    exact runs_call.2 ⟨.ok component, [], rfl, .ret _⟩

/-! ## The revocation -/

/-- One chunk with no payload, and what the kernel made of the call. -/
def chunk (op flags : UInt16) (ans : Except SysError UInt32) : Events :=
  [⟨.write_frame ⟨op, flags, 0, 0⟩, ()⟩, ⟨.call_with_label DEST_CPTR op.toUInt32 [0, 0, 0], ans⟩]

/-- The status of a chunk. A call that failed has none. -/
def chunkStatus : Except SysError UInt32 → Option UInt16
  | .ok label => some label.toUInt16
  | .error _ => none

/-- A chunk, and what follows if it has a status. -/
theorem runs_chunk {α : Type} {op flags : UInt16} {f : UInt16 → StageResult α} {tr : Events}
    {o : Outcome (Except (Stage × Nat) α)} :
    Runs (send_empty_chunk op flags >>= f).run tr o ↔ ∃ ans tr', tr = chunk op flags ans ++ tr' ∧
      match chunkStatus ans with
      | some status => Runs (f status).run tr' o
      | none => tr' = [] ∧ o = .ret (.error (.Revocation, 1)) := by
  constructor
  · intro h
    obtain ⟨⟨⟩, tr₁, rfl, h₁⟩ := runs_call.1 h
    obtain ⟨ans, tr₂, rfl, h₂⟩ := runs_call.1 h₁
    refine ⟨ans, tr₂, rfl, ?_⟩
    rcases ans with e | label
    · exact runs_ret.1 h₂
    · exact h₂
  · rintro ⟨ans, tr', rfl, h⟩
    refine runs_call.2 ⟨(), _, rfl, runs_call.2 ⟨ans, tr', rfl, ?_⟩⟩
    rcases ans with e | label
    · exact runs_ret.2 h
    · exact h

/-- Where the sequence fails: at the chunk that opens the request, at the exchange with
`grant-control`, at the call of the closing chunk or by its status, or at the second probe. -/
inductive Failure where
  | opening
  | exchange
  | closingCall
  | closing (status : UInt16)
  | secondProbe
  deriving DecidableEq

/-- The detail that is sent. -/
def Failure.detail : Failure → Nat
  | .opening => 1
  | .exchange => 2
  | .closingCall => 1
  | .closing status => 0x100 ||| status.toNat
  | .secondProbe => 3

section Revocation
variable [Abi]

def exchanged : Events := [⟨.signal REVOKE_REQUEST_CPTR, .ok ()⟩, ⟨.wait REVOKE_DONE_CPTR, .ok ()⟩]

/-- The request was opened, the grant revoked, and the request then ended `ACCESS`. -/
inductive Revoked (op : UInt16) : Events → Prop
  | intro {opening closing} : chunkStatus opening = some Abi.status_OK → chunkStatus closing = some Abi.status_ACCESS →
      Revoked op (chunk op Abi.FLAG_MORE opening ++ (exchanged ++ chunk op 0 closing))

/-- Or it failed on the way. -/
inductive Interrupted (op : UInt16) : Failure → Events → Prop
  | opening {ans} : chunkStatus ans ≠ some Abi.status_OK → Interrupted op .opening (chunk op Abi.FLAG_MORE ans)
  | signal {opening e} : chunkStatus opening = some Abi.status_OK →
      Interrupted op .exchange (chunk op Abi.FLAG_MORE opening ++ [⟨.signal REVOKE_REQUEST_CPTR, .error e⟩])
  | wait {opening e} : chunkStatus opening = some Abi.status_OK →
      Interrupted op .exchange (chunk op Abi.FLAG_MORE opening ++
        [⟨.signal REVOKE_REQUEST_CPTR, .ok ()⟩, ⟨.wait REVOKE_DONE_CPTR, .error e⟩])
  | closingCall {opening closing} : chunkStatus opening = some Abi.status_OK → chunkStatus closing = none →
      Interrupted op .closingCall (chunk op Abi.FLAG_MORE opening ++ (exchanged ++ chunk op 0 closing))
  | closing {opening closing status} : chunkStatus opening = some Abi.status_OK → chunkStatus closing = some status →
      status ≠ Abi.status_ACCESS →
      Interrupted op (.closing status) (chunk op Abi.FLAG_MORE opening ++ (exchanged ++ chunk op 0 closing))

/-- The program with the request open. -/
def exchange_and_close (op : UInt16) : StageResult Unit := do
  orElse (ask (.signal REVOKE_REQUEST_CPTR)) (.Revocation, 2)
  orElse (ask (.wait REVOKE_DONE_CPTR)) (.Revocation, 2)
  let status ← send_empty_chunk op 0
  require (status = Abi.status_ACCESS) (.Revocation, 0x100 ||| status.toNat)

/-- What the answer to the closing chunk makes of it. -/
def closed (closing : Except SysError UInt32) : Except (Stage × Nat) Unit :=
  match chunkStatus closing with
  | some status => if status = Abi.status_ACCESS then .ok () else .error (.Revocation, 0x100 ||| status.toNat)
  | none => .error (.Revocation, 1)

variable {op : UInt16} {tr : Events} {o : Outcome (Except (Stage × Nat) Unit)}

theorem runs_close : Runs (send_empty_chunk op 0 >>= fun status =>
      require (status = Abi.status_ACCESS) (.Revocation, 0x100 ||| status.toNat)).run tr o ↔
    ∃ closing, tr = chunk op 0 closing ∧ o = .ret (closed closing) := by
  rw [runs_chunk]
  unfold closed
  constructor
  · rintro ⟨closing, tr', rfl, h⟩
    refine ⟨closing, ?_⟩
    cases hstatus : chunkStatus closing with
    | none =>
      rw [hstatus] at h
      obtain ⟨rfl, rfl⟩ := h
      exact ⟨List.append_nil _, rfl⟩
    | some status =>
      rw [hstatus] at h
      obtain ⟨rfl, rfl⟩ := runs_require.1 h
      exact ⟨List.append_nil _, by simp⟩
  · rintro ⟨closing, rfl, rfl⟩
    refine ⟨closing, [], (List.append_nil _).symm, ?_⟩
    cases chunkStatus closing with
    | none => exact ⟨rfl, rfl⟩
    | some status => exact runs_require.2 ⟨rfl, by simp⟩

theorem runs_exchange_and_close : Runs (exchange_and_close op).run tr o ↔
    (∃ e, tr = [⟨.signal REVOKE_REQUEST_CPTR, .error e⟩] ∧ o = .ret (.error (.Revocation, 2))) ∨
    (∃ e, tr = [⟨.signal REVOKE_REQUEST_CPTR, .ok ()⟩, ⟨.wait REVOKE_DONE_CPTR, .error e⟩] ∧
      o = .ret (.error (.Revocation, 2))) ∨
    ∃ closing, tr = exchanged ++ chunk op 0 closing ∧ o = .ret (closed closing) := by
  constructor
  · intro h
    obtain ⟨signalled, tr₁, rfl, h₁⟩ := runs_call.1 h
    rcases signalled with e | ⟨⟩
    · obtain ⟨rfl, rfl⟩ := runs_ret.1 h₁
      exact .inl ⟨e, rfl, rfl⟩
    · obtain ⟨woken, tr₂, rfl, h₂⟩ := runs_call.1 h₁
      rcases woken with e | ⟨⟩
      · obtain ⟨rfl, rfl⟩ := runs_ret.1 h₂
        exact .inr (.inl ⟨e, rfl, rfl⟩)
      · obtain ⟨closing, rfl, rfl⟩ := runs_close.1 h₂
        exact .inr (.inr ⟨closing, rfl, rfl⟩)
  · rintro (⟨e, rfl, rfl⟩ | ⟨e, rfl, rfl⟩ | ⟨closing, rfl, rfl⟩)
    · exact runs_call.2 ⟨.error e, [], rfl, .ret _⟩
    · exact runs_call.2 ⟨.ok (), _, rfl, runs_call.2 ⟨.error e, [], rfl, .ret _⟩⟩
    · exact runs_call.2 ⟨.ok (), _, rfl, runs_call.2 ⟨.ok (), _, rfl, runs_close.2 ⟨closing, rfl, rfl⟩⟩⟩

/-- First a chunk, and the rest only if it was answered `OK`. -/
theorem runs_open : Runs (revoke_during_open_request op).run tr o ↔
    ∃ opening tr', tr = chunk op Abi.FLAG_MORE opening ++ tr' ∧
      ((chunkStatus opening = some Abi.status_OK ∧ Runs (exchange_and_close op).run tr' o) ∨
        (chunkStatus opening ≠ some Abi.status_OK ∧ tr' = [] ∧ o = .ret (.error (.Revocation, 1)))) := by
  unfold revoke_during_open_request
  rw [runs_chunk]
  constructor
  · rintro ⟨opening, tr', rfl, h⟩
    refine ⟨opening, tr', rfl, ?_⟩
    cases hopening : chunkStatus opening with
    | none =>
      rw [hopening] at h
      exact .inr ⟨nofun, h⟩
    | some status =>
      rw [hopening] at h
      change Runs (require _ _ >>= fun _ => exchange_and_close op).run tr' o at h
      rw [require_bind] at h
      by_cases hstatus : status = Abi.status_OK
      · rw [if_pos (decide_eq_true hstatus)] at h
        exact .inl ⟨congrArg some hstatus, h⟩
      · rw [if_neg (by simpa using hstatus)] at h
        exact .inr ⟨fun he => hstatus (Option.some.inj he), runs_ret.1 h⟩
  · rintro ⟨opening, tr', rfl, h⟩
    refine ⟨opening, tr', rfl, ?_⟩
    rcases h with ⟨hopening, h⟩ | ⟨hopening, rfl, rfl⟩
    · rw [hopening]
      change Runs (require _ _ >>= fun _ => exchange_and_close op).run tr' o
      rw [require_bind, if_pos (decide_eq_true rfl)]
      exact h
    · cases hstatus : chunkStatus opening with
      | none => exact ⟨rfl, rfl⟩
      | some status =>
        change Runs (require _ _ >>= fun _ => exchange_and_close op).run [] _
        rw [require_bind, if_neg (by simpa [hstatus] using hopening)]
        exact .ret _

theorem runs_revoke : Runs (revoke_during_open_request op).run tr o ↔ (o = .ret (.ok ()) ∧ Revoked op tr) ∨
    ∃ f, o = .ret (.error (.Revocation, f.detail)) ∧ Interrupted op f tr := by
  rw [runs_open]
  constructor
  · rintro ⟨opening, tr', rfl, ⟨hopening, h⟩ | ⟨hopening, rfl, rfl⟩⟩
    · rcases runs_exchange_and_close.1 h with ⟨e, rfl, rfl⟩ | ⟨e, rfl, rfl⟩ | ⟨closing, rfl, rfl⟩
      · exact .inr ⟨.exchange, rfl, .signal hopening⟩
      · exact .inr ⟨.exchange, rfl, .wait hopening⟩
      · cases hclosing : chunkStatus closing with
        | none => exact .inr ⟨.closingCall, by simp [closed, hclosing, Failure.detail], .closingCall hopening hclosing⟩
        | some status =>
          by_cases haccess : status = Abi.status_ACCESS
          · subst haccess
            exact .inl ⟨by simp [closed, hclosing], .intro hopening hclosing⟩
          · refine .inr ⟨.closing status, ?_, .closing hopening hclosing haccess⟩
            simp [closed, hclosing, haccess, Failure.detail]
    · rw [List.append_nil]
      exact .inr ⟨.opening, rfl, .opening hopening⟩
  · rintro (⟨rfl, ⟨hopening, hclosing⟩⟩ | ⟨f, rfl, h⟩)
    · refine ⟨_, _, rfl, .inl ⟨hopening, runs_exchange_and_close.2 (.inr (.inr ⟨_, rfl, ?_⟩))⟩⟩
      simp [closed, hclosing]
    · cases h with
      | opening hopening => exact ⟨_, [], (List.append_nil _).symm, .inr ⟨hopening, rfl, rfl⟩⟩
      | signal hopening => exact ⟨_, _, rfl, .inl ⟨hopening, runs_exchange_and_close.2 (.inl ⟨_, rfl, rfl⟩)⟩⟩
      | wait hopening => exact ⟨_, _, rfl, .inl ⟨hopening, runs_exchange_and_close.2 (.inr (.inl ⟨_, rfl, rfl⟩))⟩⟩
      | closingCall hopening hclosing =>
        refine ⟨_, _, rfl, .inl ⟨hopening, runs_exchange_and_close.2 (.inr (.inr ⟨_, rfl, ?_⟩))⟩⟩
        simp [closed, hclosing, Failure.detail]
      | closing hopening hclosing hne =>
        refine ⟨_, _, rfl, .inl ⟨hopening, runs_exchange_and_close.2 (.inr (.inr ⟨_, rfl, ?_⟩))⟩⟩
        simp [closed, hclosing, hne, Failure.detail]

end Revocation

end LanternRuntime.Confined

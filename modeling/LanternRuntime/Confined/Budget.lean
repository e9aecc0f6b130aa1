import LanternRuntime.ProgLib.Credits
import LanternRuntime.Confined.Outcome
import LanternRuntime.Confined.Package
import LanternRuntime.Host.Remote
/-!
# What a launch can cost

The store is given `DEFAULT_FUEL` once, and both probes live on it. Every move
of the guest takes some of it, and every host call is one request at most. So
there is a bound on everything that a launch does, whoever the guest is and
whatever it is answered: `launch_bounded`.
-/
open ProgLib

namespace LanternRuntime.Confined
open Host

/-- Prices for moves of the guest, for calls of the service, and for all others. -/
def price (guest service other : Nat) : WorldCall → Nat
  | .guest _ => guest
  | .channel .. | .call_with_label .. | .now_ns _ => service
  | _ => other

section Prices
variable {g r x : Nat}

/-! ## One call of the service -/

section Ipc
variable {channel : Channel World}

theorem expect_costs {α : Type} (msg : String) (a : Option α) :
    Costs (price g r x) 0 (expect msg a : Prog World α) := by
  cases a with
  | none => exact costs_panic _
  | some a => exact costs_ret a

theorem slice_to_costs (b : Bytes) (n : Nat) : Costs (price g r x) 0 (slice_to b n : Prog World Bytes) := by
  unfold slice_to
  split
  · exact costs_ret _
  · exact costs_panic _

theorem copy_from_slice_costs (dst src : Bytes) :
    Costs (price g r x) 0 (copy_from_slice dst src : Prog World (Buf dst.length)) := by
  unfold copy_from_slice
  split
  · exact costs_ret _
  · exact costs_panic _

theorem channel_costs (op : UInt16) (request reply : Bytes) :
    Costs (price g r x) r ((channelTo DEST_CPTR).call op request reply) :=
  costs_ask (E := World) (.channel DEST_CPTR op request reply)

variable [Crates]

theorem exchange_costs (op : UInt16) (request reply : Bytes) :
    Costs (price g r x) r (IpcKeystore.exchange (channelTo DEST_CPTR) op request reply).run := by
  rw [exchange_run]
  refine (channel_costs op request reply).last fun y => ?_
  obtain ⟨b, e | ⟨status, len⟩⟩ := y
  · exact costs_ret _
  · dsimp only
    split
    · exact costs_ret _
    · exact (slice_to_costs _ _).last fun _ => costs_ret _

theorem ipc_encrypt_costs (badge : UInt64) (key : KeyId) (nonce : Nonce) (aad buffer : Bytes) :
    Costs (price g r x) r ((IpcKeystore.service (channelTo DEST_CPTR)).encrypt badge key nonce aad buffer) := by
  refine (expect_costs _ _).first fun len => (slice_to_costs _ _).first fun request => ?_
  refine (exchange_costs ..).last fun ans => ?_
  rcases ans with e | reply
  · exact costs_ret _
  · dsimp only
    split
    · exact costs_ret _
    · split
      · exact costs_ret _
      · exact (copy_from_slice_costs _ _).last fun _ => costs_ret _

theorem ipc_decrypt_costs (badge : UInt64) (key : KeyId) (nonce : Nonce) (aad buffer : Bytes) (tag : Tag) :
    Costs (price g r x) r ((IpcKeystore.service (channelTo DEST_CPTR)).decrypt badge key nonce aad buffer tag) := by
  refine (expect_costs _ _).first fun len => (slice_to_costs _ _).first fun request => ?_
  refine (exchange_costs ..).last fun ans => ?_
  rcases ans with e | reply
  · exact costs_ret _
  · dsimp only
    split
    · exact costs_ret _
    · exact (copy_from_slice_costs _ _).last fun _ => costs_ret _

theorem ipc_sign_costs (badge : UInt64) (key : KeyId) (message : Bytes) :
    Costs (price g r x) r ((IpcKeystore.service (channelTo DEST_CPTR)).sign badge key message) := by
  refine (exchange_costs ..).last fun ans => ?_
  cases ans <;> exact costs_ret _

theorem ipc_read_costs (badge : UInt64) (file : FileId) (buffer : Bytes) :
    Costs (price g r x) r ((IpcFilesystem.service (channelTo DEST_CPTR)).read badge file buffer) := by
  refine (channel_costs ..).last ?_
  rintro ⟨buffer, e | ⟨status, len⟩⟩
  · exact costs_ret _
  · dsimp only
    split <;> exact costs_ret _

theorem ipc_write_costs (badge : UInt64) (file : FileId) (data : Bytes) :
    Costs (price g r x) r ((IpcFilesystem.service (channelTo DEST_CPTR)).write badge file data) := by
  refine (channel_costs ..).last ?_
  rintro ⟨_, e | ⟨status, len⟩⟩
  · exact costs_ret _
  · dsimp only
    split <;> exact costs_ret _

end Ipc

/-! ## The guest -/

section Guest
variable [Crates] {T : ResourceTable} {granted : Bool} {st : RuntimeState T World}

/-- A host call is one request at most. -/
theorem Attached.call_costs (h : Attached granted st) (c : GuestCall) : Costs (price g r x) r (call st c) := by
  by_cases hc : c.isOperation = true
  · obtain ⟨p, hserves, hcall⟩ := serves_of st hc
    rw [hcall]
    refine Costs.last ?_ fun _ => costs_ret _
    cases hserves with
    | dead | malformed | unattached | resolution => exact (costs_ret _).mono (Nat.zero_le r)
    | unclocked => exact (costs_panic _).mono (Nat.zero_le r)
    | now hclock => exact (costs_ask (E := World) (.now_ns _)).last fun _ => costs_ret _
    | encrypt hget _ hks =>
      obtain rfl := h.keystore hks
      exact (ipc_encrypt_costs ..).last fun _ => costs_ret _
    | decrypt hget _ _ hks =>
      obtain rfl := h.keystore hks
      exact (ipc_decrypt_costs ..).last fun _ => costs_ret _
    | sign hget hks =>
      obtain rfl := h.keystore hks
      exact (ipc_sign_costs ..).last fun _ => costs_ret _
    | read hget hfs =>
      obtain rfl := h.filesystem hfs
      exact (ipc_read_costs ..).last fun _ => costs_ret _
    | write hget _ hfs =>
      obtain rfl := h.filesystem hfs
      exact (ipc_write_costs ..).last fun _ => costs_ret _
  · cases c with
    | keystoreOpen | filesystemOpen | keyDrop | fileDrop => exact (costs_ret _).mono (Nat.zero_le r)
    | _ => exact absurd rfl hc

/-- What is left after the guest ran is worth the fuel that is left. -/
def Worth (granted : Bool) (g r k : Nat) (store : Store T) (left : Nat) : Prop :=
  Attached granted store.state ∧ store.fuel * (g + r) + k ≤ left

theorem guest_run_pays (h : Attached granted st) (linker : Linker) (fuel : Nat) (input : GuestInput) (k : Nat) :
    Pays (price g r x) (fun y left => Worth granted g r k y.1 left) (guest_run linker st fuel input)
      (fuel * (g + r) + k) := by
  -- By induction on the fuel: one unit is worth a move of the guest and the call that it makes.
  induction fuel generalizing st input with
  | zero => exact ⟨h, Nat.le_refl _⟩
  | succ fuel ih =>
    have hunit : (fuel + 1) * (g + r) + k - g = r + (fuel * (g + r) + k) := by
      rw [Nat.succ_mul]
      omega
    have hspent : ∀ {result : Option String}, Worth granted g r k (⟨st, fuel⟩, result).1
        ((fuel + 1) * (g + r) + k - g) := ⟨h, by rw [hunit]; exact Nat.le_add_left _ _⟩
    have hmove : g ≤ (fuel + 1) * (g + r) + k := by
      rw [Nat.succ_mul]
      omega
    refine ⟨hmove, fun move => ?_⟩
    cases move with
    | work =>
      have hle : fuel * (g + r) + k ≤ (fuel + 1) * (g + r) + k - g := by
        rw [hunit]
        exact Nat.le_add_left _ _
      exact (ih h .proceed).mono hle fun _ _ _ hle hw => ⟨hw.1, Nat.le_trans hw.2 hle⟩
    | done report => exact hspent
    | trap => exact hspent
    | host c =>
      change Pays _ _ (if interfaceOf c ∈ linker then _ else _) ((fuel + 1) * (g + r) + k - g)
      by_cases hlinked : interfaceOf c ∈ linker
      · rw [if_pos hlinked, hunit]
        refine (((h.call_costs c).afford (fuel * (g + r) + k)).runs (R := fun y => Attached granted y.1) ?_).bind ?_
        · intro tr y hrun
          obtain ⟨table, hy, hmoves⟩ := moves_of hrun
          rw [hy]
          exact h.step hmoves
        · rintro ⟨st', reply⟩ left ⟨hst', hleft⟩
          dsimp only
          split
          · exact ⟨hst', hleft⟩
          · exact (ih hst' _).mono hleft fun _ _ _ hle hw => ⟨hw.1, Nat.le_trans hw.2 hle⟩
      · rw [if_neg hlinked]
        exact hspent

theorem Store.enter_pays {ε : Type} {store : Store T} {k left : Nat} (h : Worth granted g r k store left)
    (linker : Linker) (input : GuestInput) (e : ε) :
    Pays (price g r x) (OnSuccess fun y => Worth granted g r k y.1) (store.enter linker input e).run left := by
  obtain ⟨hst, hleft⟩ := h
  unfold Store.enter
  rw [lift_run_bind]
  have hmono : ∀ (y : Store T × Option String) {n n'}, n ≤ n' → Worth granted g r k y.1 n → Worth granted g r k y.1 n' :=
    fun _ _ _ hle hw => ⟨hw.1, Nat.le_trans hw.2 hle⟩
  refine ((guest_run_pays hst linker store.fuel input k).mono hleft hmono).bind ?_
  rintro ⟨store', result⟩ n hw
  cases result with
  | none => exact nofun
  | some report => exact OnSuccess.intro hw

end Guest

/-! ## The program's own calls -/

section Own
variable {ε ε' α : Type}

theorem ask_costs (c : WorldCall) : Costs (price g r x) (price g r x c) (ask c) := costs_ask (E := World) c

theorem orElse_costs {p : Prog World (Except ε α)} {k : Nat} (hp : Costs (price g r x) k p) (e : ε') :
    Costs (price g r x) k (orElse p e).run := by
  refine (Costs.andThen hp.lift fun result => ?_).mono (Nat.le_refl (k + 0))
  cases result <;> exact costs_ret _

theorem orFail_costs {p : Prog World Bool} {k : Nat} (hp : Costs (price g r x) k p) (e : ε') :
    Costs (price g r x) k (orFail p e).run := by
  refine (Costs.andThen hp.lift fun ok => ?_).mono (Nat.le_refl (k + 0))
  cases ok <;> exact costs_ret _

theorem require_costs (condition : Bool) (e : Stage × Nat) : Costs (price g r x) 0 (require condition e).run := by
  cases condition <;> exact costs_ret _

end Own

theorem any_trusted_costs (package : PackageRef) : Costs (price g r x) (2 * x) (any_trusted package) := by
  have hany : ∀ keys : List PublicKey, Costs (price g r x) (keys.length * x)
      (any (fun key => ask (.package_verify package key)) keys) := by
    intro keys
    induction keys with
    | nil => exact (costs_ret _).mono (Nat.zero_le _)
    | cons key keys ih =>
      rw [List.length_cons, Nat.succ_mul, Nat.add_comm]
      refine costs_call (E := World) (c := .package_verify package key) fun (genuine : Bool) => ?_
      cases genuine with
      | true => exact (costs_ret _).mono (Nat.zero_le _)
      | false => exact ih
  exact hany TRUSTED_PUBLISHERS

theorem verify_package_costs (len : Nat) : Costs (price g r x) (6 * x) (verify_package len).run := by
  have hjudge : ∀ package, Costs (price g r x) (2 * x + 2 * x) (judge package) := by
    intro package
    refine (any_trusted_costs _).bind fun forged => ?_
    cases forged with
    | true => exact (costs_ret _).mono (Nat.zero_le _)
    | false =>
      refine (any_trusted_costs _).last fun genuine => ?_
      cases genuine <;> exact costs_ret _
  rw [verify_package_eq]
  split
  · refine Costs.mono (k := x + (x + (2 * x + 2 * x))) ?_ (by omega)
    refine costs_call (E := World) (c := .mapped_package len) fun bytes : Buf len => ?_
    refine costs_call (E := World) (c := .decode_package_ref bytes) fun ans : Option PackageRef => ?_
    cases ans with
    | none => exact (costs_ret _).mono (Nat.zero_le _)
    | some package => exact hjudge package
  · exact (costs_ret _).mono (Nat.zero_le _)

theorem plan_costs (package : VerifiedPackage) : Costs (price g r x) x package.plan.run := by
  refine costs_call (E := World) (k := 0) (c := .parse_bytes package.manifest_bytes) fun (ans : Option GrantPlan) => ?_
  cases ans <;> exact costs_ret _

section Abi
variable [Abi]

theorem request_grant_costs (interface : Nat) : Costs (price g r x) (5 * x) (request_grant interface).run := by
  have hbind : ∀ dest, Costs (price g r x) x
      (orElse (ask (.bind ENDPOINT_CPTR dest interface 0)) (Stage.Grant, 1) : StageResult Bool).run :=
    fun dest => orElse_costs (ask_costs (.bind ENDPOINT_CPTR dest interface 0)) _
  have hchecks : Costs (price g r x) (4 * x) (self_checks interface).run := by
    refine ((hbind _).andThen fun again => (require_costs _ _).andThen fun _ => Costs.andThen
      (ask_costs (.request_grant DEST_CPTR PROBE_CPTR 0 0xf)).lift fun answer => (require_costs _ _).andThen fun _ =>
      Costs.andThen (ask_costs (.list ENDPOINT_CPTR 0)).lift fun entry => (require_costs _ _).andThen fun _ =>
      Costs.andThen (ask_costs (.revoke ENDPOINT_CPTR 0)).lift fun revoked => (require_costs _ _).andThen fun _ =>
      costs_ret _).mono ?_
    change x + (0 + (x + (0 + (x + (0 + (x + (0 + 0))))))) ≤ 4 * x
    omega
  refine ((hbind _).andThen fun granted => ?_).mono (by omega : x + 4 * x ≤ 5 * x)
  cases granted with
  | false => exact (costs_ret _).mono (Nat.zero_le _)
  | true => exact hchecks

variable [Crates]

omit [Abi] in
theorem check_costs (s : ServiceEndpoint) (granted : Bool) : Costs (price g r x) r (checkOf s granted).run := by
  cases s with
  | Filesystem => exact (costs_ret _).mono (Nat.zero_le r)
  | Keystore =>
    cases granted with
    | false => exact (costs_ret _).mono (Nat.zero_le r)
    | true =>
      refine (Costs.andThen (ipc_encrypt_costs ..).lift ?_ : Costs _ (r + 0) _)
      rintro ⟨buffer, e | tag⟩
      · cases e <;> first | exact require_costs _ _ | exact costs_ret _
      · exact costs_ret _

omit [Abi] [Crates] in
theorem build_linker_costs (manifest : GrantManifest) : Costs (price g r x) (3 * x) (build_linker manifest).run := by
  have hlink : ∀ condition interface linker, Costs (price g r x) x (link_if condition interface linker).run := by
    intro condition interface linker
    cases condition with
    | false => exact (costs_ret _).mono (Nat.zero_le x)
    | true => exact (orFail_costs (ask_costs (.add_to_linker interface)) _).andThen fun _ => costs_ret _
  exact ((hlink _ _ _).andThen fun _ => (hlink _ _ _).andThen fun _ => hlink _ _ _).mono (by omega)

omit [Crates] in
theorem revoke_costs (op : UInt16) : Costs (price g r x) (4 * x + 2 * r) (revoke_during_open_request op).run := by
  have hchunk : ∀ flags, Costs (price g r x) (x + r) (send_empty_chunk op flags).run := fun flags =>
    Costs.andThen (ask_costs (.write_frame ⟨op, flags, 0, 0⟩)).lift fun _ =>
      (orElse_costs (ask_costs (.call_with_label DEST_CPTR op.toUInt32 [0, 0, 0])) _).andThen fun _ => costs_ret _
  refine ((hchunk _).andThen fun status => (require_costs _ _).andThen fun _ =>
    (orElse_costs (ask_costs (.signal REVOKE_REQUEST_CPTR)) _).andThen fun _ =>
    (orElse_costs (ask_costs (.wait REVOKE_DONE_CPTR)) _).andThen fun _ =>
    (hchunk _).andThen fun status => require_costs _ _).mono ?_
  change x + r + (0 + (x + (x + (x + r + 0)))) ≤ 4 * x + 2 * r
  omega

/-- The guest is entered three times, on one store that is not given fuel again. -/
theorem run_probe_pays {T : ResourceTable} {granted : Bool} {state : RuntimeState T World}
    (hst : Attached granted state) (package : VerifiedPackage) (manifest : GrantManifest) (checks : ProbeChecks) :
    Pays (price g r x) (OnSuccess fun _ _ => True) (run_probe package manifest state checks).run
      (DEFAULT_FUEL * (g + r) + (11 * x + 2 * r)) := by
  have hdeserialize : Costs (price g r x) x (ExceptT.run (deserialize_trusted_component package.cwasm_bytes)) := by
    refine costs_call (E := World) (k := 0) (c := .deserialize package.cwasm_bytes)
      fun ans : Except WasmError Component => ?_
    cases ans <;> exact costs_ret _
  have hdefine (component : Component) : Costs (price g r x) x
      (ExceptT.run (orFail (ask (.define_unknown_imports_as_traps component)) (Stage.Link, 1))) :=
    orFail_costs (ask_costs (.define_unknown_imports_as_traps component)) _
  have hfuel : Costs (price g r x) x (ExceptT.run (orFail (ask (.set_fuel DEFAULT_FUEL)) (Stage.Instantiate, 0))) :=
    orFail_costs (ask_costs (.set_fuel DEFAULT_FUEL)) _
  have hlookup : Costs (price g r x) x (ExceptT.run (orFail (ask (.get_typed_func "probe")) (Stage.Lookup, 0))) :=
    orFail_costs (ask_costs (.get_typed_func "probe")) _
  have hreport (report : String) : Costs (price g r x) 0
      (liftM (check_report report checks.required) : StageResult Unit).run := by
    cases check_report report checks.required <;> exact costs_ret _
  unfold run_probe
  refine ((orElse_costs hdeserialize _).pays (by omega)).andThen fun component n₁ h₁ => ?_
  refine ((orElse_costs (build_linker_costs manifest) _).pays (by omega)).andThen fun linker n₂ h₂ => ?_
  refine ((hdefine component).pays (by omega)).andThen fun _ n₃ h₃ => ?_
  refine (hfuel.pays (by omega)).andThen fun _ n₄ h₄ => ?_
  have hworth : Worth granted g r (5 * x + 2 * r) (⟨state, DEFAULT_FUEL⟩ : Store T) n₄ := by
    refine ⟨hst, ?_⟩
    dsimp only
    omega
  refine (Store.enter_pays hworth linker _ _).andThen ?_
  rintro ⟨⟨state₁, fuel₁⟩, report₁⟩ n₅ ⟨hst₁, h₅⟩
  dsimp only at hst₁ h₅ ⊢
  refine (hlookup.pays (by omega)).andThen fun _ n₆ h₆ => ?_
  have hworth : Worth granted g r (4 * x + 2 * r) (⟨state₁, fuel₁⟩ : Store T) n₆ := by
    refine ⟨hst₁, ?_⟩
    dsimp only
    omega
  refine (Store.enter_pays hworth linker _ _).andThen ?_
  rintro ⟨⟨state₂, fuel₂⟩, report₂⟩ n₇ ⟨hst₂, h₇⟩
  dsimp only at hst₂ h₇ ⊢
  refine ((hreport report₂).pays (by omega)).andThen fun _ n₈ h₈ => ?_
  refine ((revoke_costs checks.open_op).pays (by omega)).andThen fun _ n₉ h₉ => ?_
  have hworth : Worth granted g r 0 (⟨state₂, fuel₂⟩ : Store T) n₉ := by
    refine ⟨hst₂, ?_⟩
    dsimp only
    omega
  refine (Store.enter_pays hworth linker _ _).andThen ?_
  rintro ⟨store₃, report₃⟩ n₁₀ -
  exact ((require_costs _ _).pays (Nat.zero_le _)).mono (Nat.le_refl _) fun _ _ _ _ _ _ _ => trivial

variable (T : ResourceTable)

theorem host_plan_pays (package : VerifiedPackage) (plan : GrantPlan) :
    Pays (price g r x) (OnSuccess fun _ _ => True) (host_plan T package plan).run
      (DEFAULT_FUEL * (g + r) + (16 * x + 3 * r)) := by
  cases hs : plan.declared with
  | none =>
    obtain ⟨detail, hrefused⟩ : ∃ detail, (host_plan T package plan).run = .ret (.error (.Manifest, detail)) :=
      host_plan_refused T hs
    rw [hrefused]
    exact fun _ _ => trivial
  | some s =>
    rw [host_plan_declared T hs]
    unfold host_interface
    refine ((request_grant_costs _).pays (by omega)).andThen fun granted n₁ h₁ => ?_
    refine ((check_costs s granted).pays (by omega)).andThen fun _ n₂ h₂ => ?_
    exact (run_probe_pays (attached_state T s _ granted) package _ _).mono (by omega) fun _ _ _ _ _ _ _ => trivial

theorem launch_costs (len : Nat) :
    Costs (price g r x) (DEFAULT_FUEL * (g + r) + (27 * x + 3 * r)) (run_and_report len (host_the_guest T)) := by
  have hhost : Pays (price g r x) (OnSuccess fun _ _ => True) (host_the_guest T len).run
      (DEFAULT_FUEL * (g + r) + (23 * x + 3 * r)) := by
    unfold host_the_guest
    refine ((verify_package_costs len).pays (by omega)).andThen fun package n₁ h₁ => ?_
    refine ((plan_costs package).pays (by omega)).andThen fun plan n₂ h₂ => ?_
    exact (host_plan_pays T package plan).mono (by omega) fun _ _ _ _ _ _ _ => trivial
  have hreport (result : Except (Stage × Nat) Unit) : Costs (price g r x) (x + (x + 0)) (report_result result) := by
    rcases result with ⟨stage, detail⟩ | ⟨⟩
    · exact (costs_ask (E := World) (.signal_with FAILURE_CPTR stage.code detail)).mono (Nat.le_add_right x x)
    · refine costs_call (E := World) (c := .heap_stats) fun top : Nat => ?_
      exact costs_ask (E := World) (.signal_with SUCCESS_CPTR Stage.Done.code (top - HEAP_BASE))
  rw [run_and_report_eq]
  refine Costs.mono (k := x + (x + ((DEFAULT_FUEL * (g + r) + (23 * x + 3 * r)) + (x + (x + 0))))) ?_ (by omega)
  refine costs_call (E := World) (c := .init_heap HEAP_BASE HEAP_LEN) fun _ => ?_
  refine costs_call (E := World) (c := .report_panics_via FAILURE_CPTR) fun _ => ?_
  exact hhost.costs.bind hreport

end Abi

end Prices

/-! ## A whole launch -/

def WorldCall.isGuest : WorldCall → Bool
  | .guest _ => true
  | _ => false

/-- The calls that the service behind the endpoint or the clock answers. -/
def WorldCall.isService : WorldCall → Bool
  | .channel .. | .call_with_label .. | .now_ns _ => true
  | _ => false

/-- Whatever the package, the guest and the answers are: the guest moves `DEFAULT_FUEL` times at most,
over the three times that it is entered. The service gets `DEFAULT_FUEL` requests at most, besides
three of the program's own. All else that is called, is called 27 times at most. -/
theorem launch_bounded [Crates] [Abi] {T : ResourceTable} {len : Nat} {tr : Events} {o : Outcome Unit}
    (h : Runs (run_and_report len (host_the_guest T)) tr o) :
    (tr.countP fun e => e.call.isGuest) ≤ DEFAULT_FUEL ∧
      (tr.countP fun e => e.call.isService) ≤ DEFAULT_FUEL + 3 ∧
      (tr.countP fun e => !(e.call.isGuest || e.call.isService)) ≤ 27 := by
  have hcount (g r x : Nat) {f : WorldCall → Bool} (hf : ∀ c, f c = true → 1 ≤ price g r x c) :
      (tr.countP fun e => f e.call) ≤ DEFAULT_FUEL * (g + r) + (27 * x + 3 * r) :=
    Nat.le_trans (countP_le_cost (E := World) hf tr) (((launch_costs T len).afford 0).sound h).1
  refine ⟨hcount 1 0 0 ?_, hcount 0 1 0 ?_, hcount 0 0 1 (f := fun c => !(c.isGuest || c.isService)) ?_⟩
  all_goals
    intro c hc
    cases c <;> first | exact Nat.le_refl 1 | cases hc

/-- The launch of the demo without a grant. -/
theorem launch_bounded_declined :
    letI := lengthPrefixed
    letI := abiNumbers
    ∃ tr, Runs (run_and_report 16 (host_the_guest demoTable)) tr (.ret ()) ∧
      (tr.countP fun e => e.call.isGuest) ≤ DEFAULT_FUEL ∧
      (tr.countP fun e => e.call.isService) ≤ DEFAULT_FUEL + 3 ∧
      (tr.countP fun e => !(e.call.isGuest || e.call.isService)) ≤ 27 := by
  let _ := lengthPrefixed
  let _ := abiNumbers
  have hrefused : refusal "error: keystore denied" (probeOf .Keystore).refused = true := by decide
  have hrun := @demo_launch_run _ _ demoTable _ _ _ _ _ demo_declined .declined hrefused
  exact ⟨_, hrun, launch_bounded hrun⟩

end LanternRuntime.Confined

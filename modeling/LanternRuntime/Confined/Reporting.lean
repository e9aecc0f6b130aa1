import LanternRuntime.Host.Shapes
import LanternRuntime.Confined.Outcome
import LanternRuntime.Confined.Package
import LanternRuntime.Confined.Linked
/-!
# Every launch is reported

What can panic while the program runs are calls of the service: a request that
is not encoded, a reply that is longer than its buffer. The encoders and
`Channel::call` promise the opposite. So every launch comes back, and its last
call is its only signal: `launch_reports`.
-/
open ProgLib

namespace LanternRuntime.Confined
open Host

/-- `Channel::call` keeps to the reply buffer. -/
def KeepsFrame (e : Event World) : Prop :=
  match e with
  | ⟨.channel _ _ _ reply, x⟩ => Reply.Within (n := reply.length) x
  | _ => True

/-- Answered so, `p` does not panic. -/
def Calm {α : Type} (p : Prog World α) : Prop := Returns KeepsFrame (fun _ => True) p

/-! ## The program's own calls -/

section Own
variable {α β ε ε' : Type}

theorem Calm.bind {p : Prog World α} {f : α → Prog World β} (hp : Calm p) (hf : ∀ a, Calm (f a)) : Calm (p >>= f) :=
  Returns.bind hp fun a _ => hf a

theorem Calm.after {Q : α → Prop} {p : ExceptT ε (Prog World) α} {f : α → ExceptT ε (Prog World) β}
    (hp : Returns KeepsFrame (fun x => ∀ a, x = .ok a → Q a) p.run) (hf : ∀ a, Q a → Calm (f a).run) :
    Calm (p >>= f).run := by
  rw [except_run_bind]
  refine Returns.bind hp ?_
  rintro (e | a) hQ
  · trivial
  · exact hf a (hQ a rfl)

theorem Calm.andThen {p : ExceptT ε (Prog World) α} {f : α → ExceptT ε (Prog World) β} (hp : Calm p.run)
    (hf : ∀ a, Calm (f a).run) : Calm (p >>= f).run := by
  rw [except_run_bind]
  refine hp.bind ?_
  rintro (e | a)
  · trivial
  · exact hf a

theorem calm_ask (c : WorldCall) : Calm (ask c) := fun _ _ => trivial

theorem Calm.lift {p : Prog World α} (hp : Calm p) : Calm (liftM p : ExceptT ε (Prog World) α).run :=
  hp.bind fun _ => trivial

theorem orElse_calm {p : Prog World (Except ε α)} (hp : Calm p) (e : ε') : Calm (orElse p e).run :=
  hp.lift.andThen fun result => by cases result <;> trivial

theorem orFail_calm {p : Prog World Bool} (hp : Calm p) (e : ε') : Calm (orFail p e).run :=
  hp.lift.andThen fun ok => by cases ok <;> trivial

theorem require_calm (condition : Bool) (e : Stage × Nat) : Calm (require condition e).run := by
  cases condition <;> trivial

end Own

theorem any_trusted_calm (package : PackageRef) : Calm (any_trusted package) := by
  have hany : ∀ keys : List PublicKey, Calm (any (fun key => ask (.package_verify package key)) keys) := by
    intro keys
    induction keys with
    | nil => trivial
    | cons key keys ih =>
      rintro (_ | _) -
      · exact ih
      · trivial
  exact hany TRUSTED_PUBLISHERS

theorem verify_package_calm (len : Nat) : Calm (verify_package len).run := by
  rw [verify_package_eq]
  split
  · rintro bytes - (_ | package) -
    · trivial
    · refine (any_trusted_calm _).bind fun forged => ?_
      cases forged with
      | true => trivial
      | false =>
        refine (any_trusted_calm _).bind fun genuine => ?_
        cases genuine <;> trivial
  · trivial

theorem plan_calm (package : VerifiedPackage) : Calm package.plan.run := by
  rintro (_ | plan) - <;> trivial

section Launch
variable [Abi]

theorem request_grant_calm (interface : Nat) : Calm (request_grant interface).run := by
  unfold request_grant
  refine (orElse_calm (calm_ask _) _).andThen fun granted => ?_
  cases granted with
  | false => trivial
  | true =>
    exact (orElse_calm (calm_ask _) _).andThen fun _ => (require_calm _ _).andThen fun _ =>
      (calm_ask _).lift.andThen fun _ => (require_calm _ _).andThen fun _ =>
      (calm_ask _).lift.andThen fun _ => (require_calm _ _).andThen fun _ =>
      (calm_ask _).lift.andThen fun _ => (require_calm _ _).andThen fun _ => trivial

omit [Abi] in
theorem build_linker_calm (manifest : GrantManifest) : Calm (build_linker manifest).run := by
  have hlink : ∀ condition interface linker, Calm (link_if condition interface linker).run := by
    intro condition interface linker
    cases condition with
    | false => trivial
    | true => exact (orFail_calm (calm_ask _) _).andThen fun _ => trivial
  exact (hlink _ _ _).andThen fun _ => (hlink _ _ _).andThen fun _ => hlink _ _ _

theorem revoke_calm (op : UInt16) : Calm (revoke_during_open_request op).run := by
  have hchunk : ∀ flags, Calm (send_empty_chunk op flags).run := fun flags =>
    (calm_ask _).lift.andThen fun _ => (orElse_calm (calm_ask _) _).andThen fun _ => trivial
  exact (hchunk _).andThen fun _ => (require_calm _ _).andThen fun _ => (orElse_calm (calm_ask _) _).andThen fun _ =>
    (orElse_calm (calm_ask _) _).andThen fun _ => (hchunk _).andThen fun _ => require_calm _ _

/-! ## The service -/

variable [Crates] (hw : SizedEncoders) {T : ResourceTable} {granted : Bool} {st : RuntimeState T World}

omit [Abi] [Crates] in
theorem calm_channel {α : Type} {op : UInt16} {request reply : Bytes} {f : Reply reply.length → Prog World α}
    (h : ∀ x : Reply reply.length, x.Within → Calm (f x)) : Calm ((channelTo DEST_CPTR).call op request reply >>= f) :=
  h

omit [Abi] in
include hw in
theorem ipc_keystore_calm : (IpcKeystore.service (channelTo DEST_CPTR)).Total KeepsFrame where
  encrypt badge key nonce aad buffer := by
    obtain ⟨request, heq⟩ := encrypt_eq hw (channelTo DEST_CPTR) badge key nonce aad buffer
    dsimp only [IpcKeystore.service]
    rw [heq]
    refine calm_channel fun x hx => ?_
    obtain ⟨y, -, hy⟩ := replied_settles (E := World) Crates.decode_encrypt_reply buffer hx
    rw [hy]
    trivial
  decrypt badge key nonce aad buffer tag := by
    obtain ⟨request, heq⟩ := decrypt_eq hw (channelTo DEST_CPTR) badge key nonce aad buffer tag
    dsimp only [IpcKeystore.service]
    rw [heq]
    refine calm_channel fun x hx => ?_
    obtain ⟨y, -, hy⟩ := replied_settles (E := World) decode_plaintext buffer hx
    rw [hy]
    trivial
  sign badge key message := by
    dsimp only [IpcKeystore.service]
    rw [sign_eq]
    refine calm_channel fun x hx => ?_
    rcases replied_cases (E := World) hx with ⟨len, -, heq⟩ | ⟨e, heq, -⟩ <;> rw [heq] <;> trivial

omit [Abi] in
theorem ipc_filesystem_calm : (IpcFilesystem.service (channelTo DEST_CPTR)).Total KeepsFrame where
  read badge file buffer := by
    dsimp only [IpcFilesystem.service]
    rw [read_eq]
    exact calm_channel fun _ _ => trivial
  write badge file data := by
    dsimp only [IpcFilesystem.service]
    rw [write_eq]
    exact calm_channel fun _ _ => trivial

omit [Abi] in
include hw in
theorem Attached.total (h : Attached granted st) : st.Total KeepsFrame where
  keystore hb := h.keystore hb ▸ ipc_keystore_calm hw
  filesystem hb := h.filesystem hb ▸ ipc_filesystem_calm

/-! ## The guest -/

/-- A state that a linked guest can be run against. -/
structure Hostable (granted : Bool) (linker : Linker) (st : RuntimeState T World) : Prop where
  attached : Attached granted st
  clocked : .monotonic_clock ∈ linker → st.clock ≠ none

omit [Abi] in
include hw in
theorem guest_run_calm {linker : Linker} (fuel : Nat) (input : GuestInput) (h : Hostable granted linker st) :
    Returns KeepsFrame (fun y => Hostable granted linker y.1.state) (guest_run linker st fuel input) := by
  -- By induction on the fuel. A call that is served leaves a state that is as good as before.
  induction fuel generalizing st input with
  | zero => exact h
  | succ fuel ih =>
    rintro (- | c | report | -) -
    · exact ih _ h
    · change Returns _ _ (if interfaceOf c ∈ linker then _ else _)
      by_cases hlinked : interfaceOf c ∈ linker
      · rw [if_pos hlinked]
        have hclock : c = .now ∨ c = .resolution → st.clock ≠ none := by
          rintro (rfl | rfl) <;> exact h.clocked hlinked
        have hcall := (call_returns (h.attached.total hw) (fun f => calm_ask (.now_ns f)) hclock).known
          (R := fun y => Hostable granted linker y.1) ?_
        · refine hcall.bind ?_
          rintro ⟨st', reply⟩ ⟨-, hst'⟩
          dsimp only
          split
          · exact hst'
          · exact ih _ hst'
        · intro tr y hrun
          obtain ⟨table, hy, hmoves⟩ := moves_of hrun
          rw [hy]
          exact ⟨h.attached.step hmoves, h.clocked⟩
      · rw [if_neg hlinked]
        exact h
    · exact h
    · exact h

omit [Abi] in
include hw in
theorem Store.enter_calm {ε : Type} {linker : Linker} {store : Store T} (h : Hostable granted linker store.state)
    (input : GuestInput) (e : ε) : Returns KeepsFrame
      (fun x => ∀ y, x = .ok y → Hostable granted linker y.1.state) (store.enter linker input e).run := by
  unfold Store.enter
  rw [lift_run_bind]
  refine (guest_run_calm hw store.fuel input h).bind ?_
  rintro ⟨store', _ | report⟩ h'
  · exact nofun
  · rintro _ ⟨⟩
    exact h'

include hw in
theorem run_probe_calm (package : VerifiedPackage) {manifest : GrantManifest} (checks : ProbeChecks)
    (hst : Attached granted st) (hclock : manifest.monotonic_clock = none) :
    Calm (run_probe package manifest st checks).run := by
  have hdeserialize : Calm (ExceptT.run (deserialize_trusted_component package.cwasm_bytes)) := by
    rintro (e | component) - <;> trivial
  unfold run_probe
  refine (orElse_calm hdeserialize _).andThen fun component => ?_
  have hlinker := (orElse_calm (build_linker_calm manifest) (Stage.Link, 0)).known
    (R := fun x => ∀ linker, x = .ok linker → .monotonic_clock ∉ linker) ?_
  · refine Calm.after (hlinker.mono fun _ h => h.2) fun linker hno => ?_
    refine (orFail_calm (calm_ask _) _).andThen fun _ => (orFail_calm (calm_ask _) _).andThen fun _ => ?_
    have hstart : Hostable granted linker (⟨st, DEFAULT_FUEL⟩ : Store T).state := ⟨hst, fun h => absurd h hno⟩
    refine Calm.after (Store.enter_calm hw hstart _ _) ?_
    rintro ⟨store₁, report₁⟩ h₁
    refine (orFail_calm (calm_ask _) _).andThen fun _ => Calm.after (Store.enter_calm hw h₁ _ _) ?_
    rintro ⟨store₂, report₂⟩ h₂
    dsimp only
    refine Calm.andThen (by cases check_report report₂ checks.required <;> trivial) fun _ => ?_
    refine (revoke_calm _).andThen fun _ => Calm.after (Store.enter_calm hw h₂ _ _) ?_
    rintro ⟨store₃, report₃⟩ -
    exact require_calm _ _
  · rintro tr _ hrun linker rfl
    have hl := runs_orElse_ok.1 hrun
    exact fun hmem => clock_of_linked hl hmem hclock

omit [Abi] in
include hw in
theorem check_calm (s : ServiceEndpoint) (granted : Bool) : Calm (checkOf s granted).run := by
  cases s with
  | Filesystem => trivial
  | Keystore =>
    cases granted with
    | false => trivial
    | true =>
      refine Calm.andThen (Calm.lift ((ipc_keystore_calm hw).encrypt ..)) ?_
      rintro ⟨buffer, e | tag⟩
      · cases e <;> first | exact require_calm _ _ | trivial
      · trivial

variable (T)

include hw in
theorem host_the_guest_calm (len : Nat) : Calm (host_the_guest T len).run := by
  unfold host_the_guest
  refine (verify_package_calm len).andThen fun package => (plan_calm package).andThen fun plan => ?_
  cases hs : plan.declared with
  | none =>
    obtain ⟨detail, hrefused⟩ : ∃ detail, (host_plan T package plan).run = .ret (.error (.Manifest, detail)) :=
      host_plan_refused T hs
    rw [hrefused]
    trivial
  | some s =>
    rw [host_plan_declared T hs]
    refine (request_grant_calm _).andThen fun granted => (check_calm hw s granted).andThen fun _ => ?_
    refine run_probe_calm hw package (probeOf s) (attached_state T s _ granted) ?_
    cases s <;> rfl

variable {T} {len : Nat} {tr : Events} {o : Outcome Unit}

/-- Whatever the package, the guest and the answers are, as long as the encoders and `Channel::call` keep to their
buffers: the launch comes back. Its last call is its one signal, and says what `host_the_guest` returned. -/
theorem launch_reports (hw : SizedEncoders) (hA : ∀ e ∈ tr, KeepsFrame e)
    (h : Runs (run_and_report len (host_the_guest T)) tr o) : o = .ret () ∧
    ∃ mid result rest, tr = preamble ++ (mid ++ rest) ∧ Runs (host_the_guest T len).run mid (.ret result) ∧
      (∀ e ∈ mid, e.call.isReport = false) ∧
      ((result = .ok () ∧ ∃ top, rest = success top) ∨
        ∃ stage detail, result = .error (stage, detail) ∧ rest = failure stage detail) := by
  obtain ⟨mid, rest, rfl, hrun⟩ := runs_run_and_report.1 h
  have hmid : ∀ e ∈ mid, KeepsFrame e := fun e he =>
    hA e (List.mem_append_right _ (List.mem_append_left _ he))
  rcases hrun with ⟨result, hhost, hrest⟩ | ⟨msg, hhost, -, -⟩
  · have hquiet : ∀ e ∈ mid, e.call.isReport = false := by
      intro e he
      obtain ⟨pre, post, rfl⟩ := List.append_of_mem he
      exact ((host_the_guest_quiet T len).sound hhost).2 pre e post rfl
    obtain ⟨ho, hsignal⟩ := runs_report_result.1 hrest
    refine ⟨ho, mid, result, rest, rfl, hhost, hquiet, ?_⟩
    rcases result with ⟨stage, detail⟩ | ⟨⟩
    · exact .inr ⟨stage, detail, rfl, hsignal⟩
    · exact .inl ⟨rfl, hsignal⟩
  · obtain ⟨result, ⟨⟩, -⟩ := (host_the_guest_calm hw T len).runs hhost hmid

end Launch

/-- The launch of the demo against a world that plays along. -/
theorem launch_reports_demo :
    letI := lengthPrefixed
    letI := abiNumbers
    ∃ tr o, Runs (run_and_report 16 (host_the_guest demoTable)) tr o ∧ o = .ret () ∧
      ∃ mid result rest, tr = preamble ++ (mid ++ rest) ∧ Runs (host_the_guest demoTable 16).run mid (.ret result) ∧
        (∀ e ∈ mid, e.call.isReport = false) ∧
        ((result = .ok () ∧ ∃ top, rest = success top) ∨
          ∃ stage detail, result = .error (stage, detail) ∧ rest = failure stage detail) := by
  let _ := lengthPrefixed
  let _ := abiNumbers
  have hworld : ∀ c s, KeepsFrame ⟨c, (keystoreWorld c s).1⟩ := by
    intro c s
    cases c <;> first | trivial | (rintro _ _ ⟨⟩; exact Nat.le_refl _)
  exact ⟨_, _, runs_run keystoreWorld _ false,
    launch_reports lengthPrefixed_sized (trace_within hworld _ false) (runs_run keystoreWorld _ false)⟩

end LanternRuntime.Confined

import LanternRuntime.ProgLib.Protocols
import LanternRuntime.Confined.Outcome
/-!
# The dialogue over the endpoint

The guest's requests, the program's own and the chunks of the request that is
left open during the revocation all go over one endpoint and one frame. `Turn`
is the protocol they keep: a header in the frame is followed by its call, and
while a request is open the guest does not run and nothing else is sent. It is
what lets `send_empty_chunk` write to the shared frame by hand.
`launch_dialogue` is that every launch keeps it, whoever the guest is and
whatever is answered.
-/
open ProgLib

namespace LanternRuntime.Confined
open Host

/-! ## The protocol -/

inductive Phase where
  /-- No request is open. -/
  | idle
  /-- The header that opens a request is in the frame. -/
  | opening (op : UInt16)
  | opened (op : UInt16)
  /-- `grant-control` was asked to revoke the grant. -/
  | asked (op : UInt16)
  /-- And it did. -/
  | revoked (op : UInt16)
  /-- The header that ends the request is in the frame. -/
  | closing (op : UInt16)
  /-- The request was refused. -/
  | refused
  /-- A step did not go as it must. -/
  | failed
  | over
  deriving DecidableEq

/-- The guest may run. -/
def Phase.hosts : Phase → Bool
  | .idle | .refused => true
  | _ => false

/-- The launch may fail. -/
def Phase.fails : Phase → Bool
  | .idle | .refused | .failed => true
  | _ => false

/-- Calls that come before any request is open. The binder's grant is told apart. -/
def WorldCall.prepares : WorldCall → Bool
  | .init_heap .. | .report_panics_via _ | .mapped_package _ | .decode_package_ref _ | .package_verify ..
  | .parse_bytes _ | .request_grant .. | .list .. | .revoke .. | .deserialize _ | .add_to_linker _
  | .define_unknown_imports_as_traps _ | .set_fuel _ | .get_typed_func _ => true
  | _ => false

structure Dialogue where
  granted : Bool
  phase : Phase
  deriving DecidableEq

variable [Abi]

/-- One event, and the phase that comes after it. -/
inductive Turn : Dialogue → Event World → Dialogue → Prop
  | prepared {g c ans} : c.prepares = true → Turn ⟨g, .idle⟩ ⟨c, ans⟩ ⟨g, .idle⟩
  | declined {g dest interface answer} : answer ≠ .ok true →
      Turn ⟨g, .idle⟩ ⟨.bind ENDPOINT_CPTR dest interface 0, answer⟩ ⟨g, .idle⟩
  | granted {g interface} : Turn ⟨g, .idle⟩ ⟨.bind ENDPOINT_CPTR DEST_CPTR interface 0, .ok true⟩ ⟨true, .idle⟩
  /-- The repeated bind, which must not be granted. -/
  | repeated {g interface} : Turn ⟨g, .idle⟩ ⟨.bind ENDPOINT_CPTR PROBE_CPTR interface 0, .ok true⟩ ⟨g, .failed⟩
  | hosted {g phase input move} : phase.hosts = true → Turn ⟨g, phase⟩ ⟨.guest input, move⟩ ⟨g, phase⟩
  | clocked {g phase f t} : phase.hosts = true → Turn ⟨g, phase⟩ ⟨.now_ns f, t⟩ ⟨g, phase⟩
  /-- A request of the guest's, or the program's own: it needs the grant. -/
  | requested {phase c ans} : phase.hosts = true → c.isChannel = true → Turn ⟨true, phase⟩ ⟨c, ans⟩ ⟨true, phase⟩
  | opening {g op} : Turn ⟨g, .idle⟩ ⟨.write_frame ⟨op, Abi.FLAG_MORE, 0, 0⟩, ()⟩ ⟨g, .opening op⟩
  | opened {g op ans} : chunkStatus ans = some Abi.status_OK →
      Turn ⟨g, .opening op⟩ ⟨.call_with_label DEST_CPTR op.toUInt32 [0, 0, 0], ans⟩ ⟨g, .opened op⟩
  | unopened {g op ans} : chunkStatus ans ≠ some Abi.status_OK →
      Turn ⟨g, .opening op⟩ ⟨.call_with_label DEST_CPTR op.toUInt32 [0, 0, 0], ans⟩ ⟨g, .failed⟩
  | asked {g op} : Turn ⟨g, .opened op⟩ ⟨.signal REVOKE_REQUEST_CPTR, .ok ()⟩ ⟨g, .asked op⟩
  | unasked {g op e} : Turn ⟨g, .opened op⟩ ⟨.signal REVOKE_REQUEST_CPTR, .error e⟩ ⟨g, .failed⟩
  | revoked {g op} : Turn ⟨g, .asked op⟩ ⟨.wait REVOKE_DONE_CPTR, .ok ()⟩ ⟨g, .revoked op⟩
  | unrevoked {g op e} : Turn ⟨g, .asked op⟩ ⟨.wait REVOKE_DONE_CPTR, .error e⟩ ⟨g, .failed⟩
  | closing {g op} : Turn ⟨g, .revoked op⟩ ⟨.write_frame ⟨op, 0, 0, 0⟩, ()⟩ ⟨g, .closing op⟩
  | refused {g op ans} : chunkStatus ans = some Abi.status_ACCESS →
      Turn ⟨g, .closing op⟩ ⟨.call_with_label DEST_CPTR op.toUInt32 [0, 0, 0], ans⟩ ⟨g, .refused⟩
  | unrefused {g op ans} : chunkStatus ans ≠ some Abi.status_ACCESS →
      Turn ⟨g, .closing op⟩ ⟨.call_with_label DEST_CPTR op.toUInt32 [0, 0, 0], ans⟩ ⟨g, .failed⟩
  | measured {g top} : Turn ⟨g, .refused⟩ ⟨.heap_stats, top⟩ ⟨g, .refused⟩
  | succeeded {g stage detail} : Turn ⟨g, .refused⟩ ⟨.signal_with SUCCESS_CPTR stage detail, ()⟩ ⟨g, .over⟩
  | gaveUp {g phase stage detail} : phase.fails = true →
      Turn ⟨g, phase⟩ ⟨.signal_with FAILURE_CPTR stage detail, ()⟩ ⟨g, .over⟩

/-! ## Parts that open nothing -/

/-- Where a launch may fail. -/
def Fails (d : Dialogue) : Prop := d.phase.fails = true

section Parts
variable {ε ε' α : Type} {g : Bool} {phase : Phase} {d : Dialogue} {M : α → Dialogue → Prop}

theorem orElse_follows {p : Prog World (Except ε α)} (hp : Follows Turn (Ends M Fails) p d) (e : ε') :
    Follows Turn (Ends M Fails) (orElse p e).run d := by
  unfold orElse
  rw [lift_run_bind]
  refine hp.bind ?_
  rintro (x | a) d' h
  · exact h
  · exact h

theorem require_follows {condition : Bool} {e : Stage × Nat} (hfails : condition = false → Fails d) :
    Follows Turn (Ends (fun _ d' => d' = d ∧ condition = true) Fails) (require condition e).run d := by
  cases condition with
  | false => exact hfails rfl
  | true => exact ⟨rfl, rfl⟩

/-- One call, and where each answer leads. -/
theorem ask_follows {c : WorldCall} {Q : c.Ans → Dialogue → Prop} (h : ∀ ans, ∃ d', Turn d ⟨c, ans⟩ d' ∧ Q ans d') :
    Follows Turn Q (ask c) d := h

/-- Calls of `P` leave the dialogue as it is. -/
theorem stays {p : ExceptT ε (Prog World) α} {P : WorldCall → Prop} (hp : Only P p.run)
    (hP : ∀ c, P c → ∀ ans, Turn d ⟨c, ans⟩ d) (hd : Fails d) :
    Follows Turn (Ends (fun _ d' => d' = d) Fails) p.run d := by
  refine (hp.follows hP).mono ?_
  rintro (e | a) d' rfl
  · exact hd
  · rfl

omit [Abi] in
theorem ask_prepares {c : WorldCall} (hc : c.prepares = true) : Only (fun c : WorldCall => c.prepares = true) (ask c) :=
  only_ask.2 hc

theorem prepares {p : ExceptT ε (Prog World) α} (hp : Only (fun c : WorldCall => c.prepares = true) p.run) :
    Follows Turn (Ends (fun _ d' => d' = ⟨g, .idle⟩) Fails) p.run ⟨g, .idle⟩ :=
  stays hp (fun _ hc _ => .prepared hc) rfl

end Parts

/-! ## The guest -/

section Guest
variable [Crates] {T : ResourceTable} {g : Bool} {phase : Phase} {tr : Events}

/-- The guest's moves, and what its host functions call. -/
def Hosts (g : Bool) (_ : Events) (c : WorldCall) : Prop := Reaches g c ∨ ∃ input, c = .guest input

omit [Abi] in
theorem hostsRule : GuestRule T g (Hosts g) (fun _ => True) (fun _ _ => True) where
  mono := fun _ h => h
  call := fun _ h => .inl h
  guest := fun _ _ => .inr ⟨_, rfl⟩
  work := fun _ h => h
  reply := fun _ _ _ => trivial

omit [Crates] in
theorem Reaches.turn {c : WorldCall} (h : Reaches g c) (hphase : phase.hosts = true) (ans : c.Ans) :
    Turn ⟨g, phase⟩ ⟨c, ans⟩ ⟨g, phase⟩ := by
  rcases h with ⟨f, rfl⟩ | ⟨hc, rfl⟩
  · exact .clocked hphase
  · exact .requested hphase hc

omit [Crates] [Abi] in
theorem Phase.fails_of_hosts (h : phase.hosts = true) : phase.fails = true := by
  cases phase <;> first | rfl | cases h

variable (phase) in
theorem Store.enter_follows {ε : Type} {store : Store T} (hst : Attached g store.state) (hphase : phase.hosts = true)
    (linker : Linker) (input : GuestInput) (e : ε) :
    Follows Turn (Ends (fun x d => d = ⟨g, phase⟩ ∧ Attached g x.1.state) Fails) (store.enter linker input e).run
      ⟨g, phase⟩ := by
  have hrun : Ensures (Hosts g) (fun _ o => ∀ x, o = .ret x → Attached g x.1.state)
      (guest_run linker store.state store.fuel input) [] := hst.guest_run hostsRule linker store.fuel trivial trivial
  unfold Store.enter
  rw [lift_run_bind]
  refine Follows.bind (hrun.follows ?_ : Follows Turn _ _ ⟨g, phase⟩) ?_
  · rintro tr c (hc | ⟨input, rfl⟩) ans
    · exact hc.turn hphase ans
    · exact .hosted hphase
  · rintro ⟨store', result⟩ d ⟨rfl, tr', hst'⟩
    cases result with
    | none => exact Phase.fails_of_hosts hphase
    | some report => exact ⟨rfl, hst' _ rfl⟩

end Guest

/-! ## The program -/

section Program
variable {g : Bool} {interface : Nat}

/-- A call before any request is open, and a check of its answer. -/
theorem checked_follows {α : Type} {M : α → Dialogue → Prop} {c : WorldCall} {check : c.Ans → Bool} {e : Stage × Nat}
    {f : Unit → StageResult α} (hc : c.prepares = true) (hf : Follows Turn (Ends M Fails) (f ()).run ⟨g, .idle⟩) :
    Follows Turn (Ends M Fails)
      ((liftM (ask c) : StageResult c.Ans) >>= fun ans => require (check ans) e >>= f).run ⟨g, .idle⟩ := by
  refine (prepares (ask_prepares hc).lift).andThen ?_
  rintro ans d rfl
  have hidle : Fails ⟨g, .idle⟩ := rfl
  refine (require_follows fun _ => hidle).andThen ?_
  rintro ⟨⟩ d ⟨rfl, -⟩
  exact hf

/-- What is granted is what the binder answered. -/
theorem request_grant_follows :
    Follows Turn (Ends (fun granted d => d = ⟨granted, .idle⟩) Fails) (request_grant interface).run ⟨false, .idle⟩ := by
  refine Follows.andThen (M := fun granted d => d = ⟨granted, .idle⟩) (orElse_follows (ask_follows ?_) _) ?_
  · rintro (e | granted)
    · exact ⟨_, .declined nofun, rfl⟩
    · cases granted with
      | false => exact ⟨_, .declined nofun, rfl⟩
      | true => exact ⟨_, .granted, rfl⟩
  · rintro granted d rfl
    cases granted with
    | false => rfl
    | true =>
      refine Follows.andThen (M := fun again d => d = ⟨true, if again then .failed else .idle⟩)
        (orElse_follows (ask_follows ?_) _) ?_
      · rintro (e | again)
        · exact ⟨_, .declined nofun, rfl⟩
        · cases again with
          | false => exact ⟨_, .declined nofun, rfl⟩
          | true => exact ⟨_, .repeated, rfl⟩
      · rintro again d rfl
        cases again with
        | true => rfl
        | false => exact checked_follows rfl (checked_follows rfl (checked_follows rfl rfl))

/-- A header, and the call that it is for. -/
theorem chunk_follows {op flags : UInt16} {before during : Phase} {M : UInt16 → Dialogue → Prop}
    (hheader : Turn ⟨g, before⟩ ⟨.write_frame ⟨op, flags, 0, 0⟩, ()⟩ ⟨g, during⟩)
    (hcall : ∀ ans : Except SysError UInt32, ∃ d, Turn ⟨g, during⟩
      ⟨.call_with_label DEST_CPTR op.toUInt32 [0, 0, 0], ans⟩ d ∧ Ends (fun label => M label.toUInt16) Fails ans d) :
    Follows Turn (Ends M Fails) (send_empty_chunk op flags).run ⟨g, before⟩ := by
  have hsent : Follows Turn (Ends (fun label => M label.toUInt16) Fails)
      (ask (.call_with_label DEST_CPTR op.toUInt32 [0, 0, 0])) ⟨g, during⟩ := ask_follows hcall
  exact fun _ => ⟨_, hheader, (orElse_follows hsent _).andThen fun label d h => h⟩

/-- A request is opened and ended, and the grant is revoked in between. -/
theorem revoke_follows (op : UInt16) :
    Follows Turn (Ends (fun _ d => d = ⟨g, .refused⟩) Fails) (revoke_during_open_request op).run ⟨g, .idle⟩ := by
  refine (chunk_follows (M := fun status d => d = ⟨g, if status = Abi.status_OK then .opened op else .failed⟩)
    .opening ?_).andThen ?_
  · rintro (e | label)
    · exact ⟨_, .unopened nofun, rfl⟩
    · by_cases hstatus : label.toUInt16 = Abi.status_OK
      · exact ⟨_, .opened (congrArg some hstatus), by rw [Ends, if_pos hstatus]⟩
      · exact ⟨_, .unopened fun h => hstatus (Option.some.inj h), by rw [Ends, if_neg hstatus]⟩
  rintro status d rfl
  refine (require_follows ?_).andThen ?_
  · intro h
    rw [if_neg (of_decide_eq_false h)]
    rfl
  rintro ⟨⟩ d ⟨rfl, hstatus⟩
  rw [if_pos (of_decide_eq_true hstatus)]
  refine Follows.andThen (M := fun _ d => d = ⟨g, .asked op⟩) (orElse_follows (ask_follows ?_) _) ?_
  · rintro (e | ⟨⟩)
    · exact ⟨_, .unasked, rfl⟩
    · exact ⟨_, .asked, rfl⟩
  rintro ⟨⟩ d rfl
  refine Follows.andThen (M := fun _ d => d = ⟨g, .revoked op⟩) (orElse_follows (ask_follows ?_) _) ?_
  · rintro (e | ⟨⟩)
    · exact ⟨_, .unrevoked, rfl⟩
    · exact ⟨_, .revoked, rfl⟩
  rintro ⟨⟩ d rfl
  refine (chunk_follows (M := fun status d => d = ⟨g, if status = Abi.status_ACCESS then .refused else .failed⟩)
    .closing ?_).andThen ?_
  · rintro (e | label)
    · exact ⟨_, .unrefused nofun, rfl⟩
    · by_cases hstatus : label.toUInt16 = Abi.status_ACCESS
      · exact ⟨_, .refused (congrArg some hstatus), by rw [Ends, if_pos hstatus]⟩
      · exact ⟨_, .unrefused fun h => hstatus (Option.some.inj h), by rw [Ends, if_neg hstatus]⟩
  rintro status d rfl
  refine (require_follows ?_).mono ?_
  · intro h
    rw [if_neg (of_decide_eq_false h)]
    rfl
  · rintro (e | ⟨⟩) d h
    · exact h
    · obtain ⟨rfl, hstatus⟩ := h
      rw [Ends, if_pos (of_decide_eq_true hstatus)]

variable [Crates] {T : ResourceTable}

theorem run_probe_follows {package : VerifiedPackage} {manifest : GrantManifest} {state : RuntimeState T World}
    (hst : Attached g state) (checks : ProbeChecks) :
    Follows Turn (Ends (fun _ d => d = ⟨g, .refused⟩) Fails) (run_probe package manifest state checks).run
      ⟨g, .idle⟩ := by
  have hlink : Only (fun c : WorldCall => c.prepares = true) (build_linker manifest).run := by
    have hlink : ∀ condition i linker, Only (fun c : WorldCall => c.prepares = true)
        (link_if condition i linker).run := by
      intro condition i linker
      cases condition with
      | true => exact Only.andThen (orFail_only (ask_prepares rfl) _) fun _ => trivial
      | false => trivial
    exact Only.andThen (hlink _ _ _) fun linker => Only.andThen (hlink _ _ _) fun linker => hlink _ _ _
  unfold run_probe
  refine (prepares (orElse_only ?_ _)).andThen ?_
  · refine ⟨rfl, fun (ans : Except WasmError Component) => ?_⟩
    cases ans <;> trivial
  rintro component d rfl
  refine (prepares (orElse_only hlink _)).andThen ?_
  rintro linker d rfl
  refine (prepares (orFail_only (ask_prepares rfl) _)).andThen ?_
  rintro ⟨⟩ d rfl
  refine (prepares (orFail_only (ask_prepares rfl) _)).andThen ?_
  rintro ⟨⟩ d rfl
  refine (Store.enter_follows .idle hst rfl linker _ _).andThen ?_
  rintro ⟨store₁, report₁⟩ d ⟨rfl, hst₁⟩
  refine (prepares (orFail_only (ask_prepares rfl) _)).andThen ?_
  rintro ⟨⟩ d rfl
  refine (Store.enter_follows .idle hst₁ rfl linker _ _).andThen ?_
  rintro ⟨store₂, report₂⟩ d ⟨rfl, hst₂⟩
  refine (prepares (p := liftM (check_report report₂ checks.required)) ?_).andThen ?_
  · cases check_report report₂ checks.required <;> trivial
  rintro ⟨⟩ d rfl
  refine (revoke_follows checks.open_op).andThen ?_
  rintro ⟨⟩ d rfl
  refine (Store.enter_follows .refused hst₂ rfl linker _ _).andThen ?_
  rintro ⟨store₃, report₃⟩ d ⟨rfl, -⟩
  have hrefused : Fails ⟨g, .refused⟩ := rfl
  refine (require_follows fun _ => hrefused).mono ?_
  rintro (e | ⟨⟩) d h
  · exact h
  · exact h.1

variable (T)

theorem host_the_guest_follows (len : Nat) :
    Follows Turn (Ends (fun _ d => d.phase = .refused) Fails) (host_the_guest T len).run ⟨false, .idle⟩ := by
  unfold host_the_guest
  have hidle : Fails ⟨false, .idle⟩ := rfl
  refine (stays (verify_package_only len) (fun c hc _ => .prepared ?_) hidle).andThen ?_
  · cases c <;> first | rfl | cases hc
  rintro package d rfl
  refine (prepares (p := package.plan) ?_).andThen ?_
  · refine ⟨rfl, fun (ans : Option GrantPlan) => ?_⟩
    cases ans <;> trivial
  rintro plan d rfl
  cases hs : plan.declared with
  | none =>
    obtain ⟨detail, hrefused⟩ : ∃ detail, (host_plan T package plan).run = .ret (.error (.Manifest, detail)) :=
      host_plan_refused T hs
    rw [hrefused]
    rfl
  | some s =>
    rw [host_plan_declared T hs]
    refine request_grant_follows.andThen ?_
    rintro granted d rfl
    have hidle : Fails ⟨granted, .idle⟩ := rfl
    refine (stays (check_only s granted) (fun c hc ans => hc.turn rfl ans) hidle).andThen ?_
    rintro ⟨⟩ d rfl
    refine (run_probe_follows (attached_state T s _ granted) (probeOf s)).mono ?_
    rintro (e | ⟨⟩) d h
    · exact h
    · exact congrArg Dialogue.phase h

theorem launch_follows (len : Nat) :
    Follows Turn (fun _ d => d.phase = .over) (run_and_report len (host_the_guest T)) ⟨false, .idle⟩ := by
  rw [run_and_report_eq]
  refine fun _ => ⟨_, .prepared rfl, fun _ => ⟨_, .prepared rfl, (host_the_guest_follows T len).bind ?_⟩⟩
  rintro (⟨stage, detail⟩ | ⟨⟩) ⟨g, phase⟩ h
  · exact fun _ => ⟨_, .gaveUp h, rfl⟩
  · obtain rfl : phase = .refused := h
    exact fun top => ⟨_, .measured, fun _ => ⟨_, .succeeded, rfl⟩⟩

end Program

/-! ## Every launch -/

/-- What happened right before a phase in which a request is open. -/
def Since : Phase → Events → Prop
  | .opening op, tr => [⟨.write_frame ⟨op, Abi.FLAG_MORE, 0, 0⟩, ()⟩] <:+ tr
  | .opened op, tr => ∃ ans, chunkStatus ans = some Abi.status_OK ∧ chunk op Abi.FLAG_MORE ans <:+ tr
  | .asked op, tr => ∃ ans, chunkStatus ans = some Abi.status_OK ∧
      chunk op Abi.FLAG_MORE ans ++ [⟨.signal REVOKE_REQUEST_CPTR, .ok ()⟩] <:+ tr
  | .revoked op, tr => ∃ ans, chunkStatus ans = some Abi.status_OK ∧ chunk op Abi.FLAG_MORE ans ++ exchanged <:+ tr
  | .closing op, tr => ∃ ans, chunkStatus ans = some Abi.status_OK ∧
      chunk op Abi.FLAG_MORE ans ++ exchanged ++ [⟨.write_frame ⟨op, 0, 0, 0⟩, ()⟩] <:+ tr
  | _, _ => True

omit [Abi] in
theorem suffix_snoc {l tr : Events} {e : Event World} (h : l <:+ tr) : l ++ [e] <:+ tr ++ [e] := by
  obtain ⟨pre, rfl⟩ := h
  exact ⟨pre, (List.append_assoc ..).symm⟩

theorem since {d : Dialogue} {tr : Events} (h : Leads Turn ⟨false, .idle⟩ tr d) : Since d.phase tr := by
  have hstart : Since (⟨false, .idle⟩ : Dialogue).phase [] := trivial
  refine h.inv (I := fun tr d => Since d.phase tr) hstart ?_
  rintro tr ⟨g, phase⟩ e d' hI hturn
  cases hturn with
  | opening => exact List.suffix_append tr _
  | opened hstatus => exact ⟨_, hstatus, suffix_snoc hI⟩
  | asked =>
    obtain ⟨ans, hstatus, hsuf⟩ := hI
    exact ⟨ans, hstatus, suffix_snoc hsuf⟩
  | revoked =>
    obtain ⟨ans, hstatus, hsuf⟩ := hI
    exact ⟨ans, hstatus, by simpa [exchanged] using suffix_snoc hsuf⟩
  | closing =>
    obtain ⟨ans, hstatus, hsuf⟩ := hI
    exact ⟨ans, hstatus, suffix_snoc hsuf⟩
  | hosted hphase | clocked hphase | requested hphase => cases phase <;> trivial
  | _ => trivial

section Launch
variable [Crates] {T : ResourceTable} {len : Nat} {tr : Events} {o : Outcome Unit}

/-- Whatever the package, the guest and the answers are, the events of a launch are in the protocol;
a launch that came back has come to its end. -/
theorem launch_dialogue (h : Runs (run_and_report len (host_the_guest T)) tr o) :
    ∃ d, Leads Turn ⟨false, .idle⟩ tr d ∧ (o = .ret () → d.phase = .over) := by
  obtain ⟨d, hleads, hover⟩ := (launch_follows T len).sound h
  exact ⟨d, hleads, hover ()⟩

omit [Abi] [Crates] in
/-- The launch of the demo without a grant. -/
theorem launch_dialogue_declined :
    letI := lengthPrefixed
    letI := abiNumbers
    ∃ tr d, Runs (run_and_report 16 (host_the_guest demoTable)) tr (.ret ()) ∧
      Leads Turn ⟨false, .idle⟩ tr d ∧ d.phase = .over := by
  let _ := lengthPrefixed
  let _ := abiNumbers
  have hrefused : refusal "error: keystore denied" (probeOf .Keystore).refused = true := by decide
  have hrun := @demo_launch_run _ _ demoTable _ _ _ _ _ demo_declined .declined hrefused
  obtain ⟨d, hleads, hover⟩ := launch_dialogue hrun
  exact ⟨_, d, hrun, hleads, hover rfl⟩

/-- Each call by label is for the header right before it, and what ends a request is right behind the
exchange, and that behind the chunk that opened it. -/
theorem request_undisturbed {pre post : Events} {endpoint : Nat} {label : UInt32} {args : List Nat} {ans}
    (h : Runs (run_and_report len (host_the_guest T)) (pre ++ ⟨.call_with_label endpoint label args, ans⟩ :: post) o) :
    ∃ op : UInt16, label = op.toUInt32 ∧ endpoint = DEST_CPTR ∧ (Since (.opening op) pre ∨ Since (.closing op) pre) := by
  obtain ⟨d, hleads, -⟩ := launch_dialogue h
  obtain ⟨d₁, d₂, hpre, hturn, -⟩ := hleads.at
  have hsince := since hpre
  cases hturn with
  | @opened g op ans hstatus => exact ⟨op, rfl, rfl, .inl hsince⟩
  | @unopened g op ans hstatus => exact ⟨op, rfl, rfl, .inl hsince⟩
  | @refused g op ans hstatus => exact ⟨op, rfl, rfl, .inr hsince⟩
  | @unrefused g op ans hstatus => exact ⟨op, rfl, rfl, .inr hsince⟩
  | prepared hc => cases hc
  | requested _ hc => cases hc

end Launch

end LanternRuntime.Confined

import LanternRuntime.Host.Remote
import LanternRuntime.Guests.Hosted
import LanternRuntime.Confined.Budget
/-!
# Where the service is

A guest of the confined runtime reaches its service over the channel. `played`
is a guest next to the service itself, in one process. If the endpoint stands
for that service, no guest can tell where it is: `confined_as_in_process`.
-/
open ProgLib

namespace LanternRuntime.Guests
open Host Confined

variable [Crates] {T : ResourceTable} {E E' : Sig} {σ σ' τ : Type}

/-! ## Programs with the host functions -/

/-- `guest_run`, of a guest whose program is known, with the services anywhere. `works` are the units of fuel
that it burns besides its moves, by what is left then. -/
def played [Clocked E] (works : Nat → Bool) (linker : Linker) (st : RuntimeState T E) :
    Nat → Prog Wit String → Prog E (RuntimeState T E × Nat × Option String)
  | 0, _ => return (st, 0, none)
  | fuel + 1, p =>
    if works fuel then played works linker st fuel p
    else match p with
      | .ret report => return (st, fuel, some report)
      | .panic _ => return (st, fuel, none)
      | .call c k =>
        if interfaceOf c ∈ linker then do
          let (st, reply) ← call st c
          match answer c reply with
          | some ans => played works linker st fuel (k ans)
          | none => return (st, fuel, none)
        else return (st, fuel, none)

section Sim
variable [Clocked E] [Clocked E'] {h : Handler E σ} {h' : Handler E' σ'} {R : σ → σ' → Prop}
  {V : RuntimeState T E → RuntimeState T E' → Prop} {P : GuestCall → Prop}

/-- Where every call is served alike, every program plays alike. -/
theorem played_sim (works : Nat → Bool) (hs : StepSim P h h' R V call call) {linker : Linker}
    (hlinker : ∀ c, interfaceOf c ∈ linker → P c) (fuel : Nat) (p : Prog Wit String) {st : RuntimeState T E}
    {st' : RuntimeState T E'} (hv : V st st') :
    Sim h h' R (fun x y => V x.1 y.1 ∧ x.2 = y.2) (played works linker st fuel p) (played works linker st' fuel p) := by
  induction fuel generalizing p st st' with
  | zero => exact .ret ⟨hv, rfl⟩
  | succ fuel ih =>
    unfold played
    by_cases hworks : works fuel = true
    · rw [if_pos hworks, if_pos hworks]
      exact ih p hv
    rw [if_neg hworks, if_neg hworks]
    cases p with
    | ret report => exact .ret ⟨hv, rfl⟩
    | panic msg => exact .ret ⟨hv, rfl⟩
    | call c k =>
      dsimp only
      by_cases hc : interfaceOf c ∈ linker
      · rw [if_pos hc, if_pos hc]
        refine (hs c (hlinker c hc) st st' hv).bind ?_
        rintro ⟨st₁, reply⟩ ⟨st₁', reply'⟩ ⟨hv₁, rfl⟩
        dsimp only at hv₁ ⊢
        cases answer c reply with
        | some ans => exact ih (k ans) hv₁
        | none => exact .ret ⟨hv₁, rfl⟩
      · rw [if_neg hc, if_neg hc]
        exact .ret ⟨hv, rfl⟩

end Sim

/-! ## The confined runtime -/

/-- The outside, with a guest that plays `probe` and burns `works`. -/
def playing (probe : Prog Wit String) (works : Nat → Bool) (g : Handler World τ) :
    Handler World (τ × Prog Wit String × Nat)
  | .guest input, (t, current, fuel) =>
    (if works (fuel - 1) then .work else move (entered probe current input),
      (t, entered probe current input, fuel - 1))
  | c, (t, own) => ((g c t).1, ((g c t).2, own))

variable {probe current : Prog Wit String} {works : Nat → Bool} {g : Handler World τ} {t : τ}
  {own : Prog Wit String × Nat} {granted : Bool} {st : RuntimeState T World}

omit [Crates] in
theorem playing_other {c : WorldCall} (hc : ∀ input, c ≠ .guest input) :
    playing probe works g c (t, own) = ((g c t).1, ((g c t).2, own)) := by
  cases c <;> first | rfl | exact absurd rfl (hc _)

omit [Crates] in
/-- What makes no move of the guest does not see it. -/
theorem run_playing {α : Type} {p : Prog World α} (hp : Only (fun c : WorldCall => ∀ input, c ≠ .guest input) p) (t : τ) :
    p.run (playing probe works g) (t, own) = ((p.run g t).1, ((p.run g t).2, own)) := by
  induction p generalizing t with
  | ret a => rfl
  | panic msg => rfl
  | call c k ih =>
    change (k (playing probe works g c (t, own)).1).run (playing probe works g) (playing probe works g c (t, own)).2 = _
    rw [playing_other hp.1]
    exact ih _ (hp.2 _) _

theorem quiet_call (hst : Attached granted st) (c : GuestCall) :
    Only (fun c : WorldCall => ∀ input, c ≠ .guest input) (call st c) :=
  (hst.call_only c).mono fun _ h => reaches_not_guest h

omit [Crates] in
theorem answer_dropped (c : GuestCall) : answer c (.dropped false) = none := by
  cases c <;> rfl

variable (works) in
/-- The guest of the confined runtime runs as its program does. -/
theorem guest_run_played (hst : Attached granted st) (linker : Linker) (fuel : Nat) (input : GuestInput) (t : τ)
    (current : Prog Wit String) :
    let x := (guest_run linker st fuel input).run (playing probe works g) (t, current, fuel)
    let y := (played works linker st fuel (entered probe current input)).run g t
    OutcomeRel (fun x y => x.1.state = y.1 ∧ x.1.fuel = y.2.1 ∧ x.2 = y.2.2) x.1 y.1 ∧ x.2.1 = y.2 ∧
      ∀ v, x.1 = .ret v → x.2.2.2 = v.1.fuel := by
  induction fuel generalizing st input t current with
  | zero =>
    refine ⟨⟨rfl, rfl, rfl⟩, rfl, ?_⟩
    rintro v ⟨⟩
    rfl
  | succ fuel ih =>
    have hmove : (guest_run linker st (fuel + 1) input).run (playing probe works g) (t, current, fuel + 1) =
        (moved linker st fuel (if works fuel then .work else move (entered probe current input))).run
          (playing probe works g) (t, entered probe current input, fuel) := by
      rw [guest_run_moved]
      rfl
    rw [hmove]
    unfold played
    generalize entered probe current input = p
    by_cases hworks : works fuel = true
    · rw [if_pos hworks, if_pos hworks]
      exact ih hst .proceed t p
    rw [if_neg hworks, if_neg hworks]
    have hend : ∀ {st : RuntimeState T World} {result : Option String} (v : Store T × Option String),
        Outcome.ret ((⟨st, fuel⟩ : Store T), result) = .ret v → fuel = v.1.fuel := by
      rintro st result v ⟨⟩
      rfl
    cases p with
    | ret report => exact ⟨⟨rfl, rfl, rfl⟩, rfl, hend⟩
    | panic msg => exact ⟨⟨rfl, rfl, rfl⟩, rfl, hend⟩
    | call c k =>
      dsimp only [move, moved]
      by_cases hc : interfaceOf c ∈ linker
      · rw [if_pos hc, if_pos hc, Prog.run_bind, Prog.run_bind,
          run_playing (quiet_call hst c) t]
        have hcall := runs_run g (call st c) t
        generalize (call st c).run g t = y at hcall
        obtain ⟨⟨st', reply⟩ | msg, t'⟩ := y
        · dsimp only
          by_cases hdropped : reply = .dropped false
          · subst hdropped
            rw [if_pos rfl, answer_dropped]
            exact ⟨⟨rfl, rfl, rfl⟩, rfl, hend⟩
          · obtain ⟨ans, hans⟩ := answer_of hcall hdropped
            obtain ⟨table, rfl, hmoves⟩ := moves_of hcall
            rw [if_neg hdropped, hans]
            have hnext := ih (hst.step hmoves) (.resume reply) t' (.call c k)
            rwa [entered_resume hans] at hnext
        · exact ⟨rfl, rfl, nofun⟩
      · rw [if_neg hc, if_neg hc]
        exact ⟨⟨rfl, rfl, rfl⟩, rfl, hend⟩

/-! ## Called again and again -/

/-- The guest is called `n` times on one store. -/
def calls (linker : Linker) : Nat → Store T → Prog World (Store T × List (Option String))
  | 0, store => return (store, [])
  | n + 1, store => do
    let (store, result) ← guest_run linker store.state store.fuel (.call "probe")
    let (store, results) ← calls linker n store
    return (store, result :: results)

/-- Its program is, next to the service. -/
def calls_inside [Clocked E] (works : Nat → Bool) (linker : Linker) (probe : Prog Wit String) :
    Nat → RuntimeState T E → Nat → Prog E (RuntimeState T E × Nat × List (Option String))
  | 0, st, fuel => return (st, fuel, [])
  | n + 1, st, fuel => do
    let (st, fuel, result) ← played works linker st fuel probe
    let (st, fuel, results) ← calls_inside works linker probe n st fuel
    return (st, fuel, result :: results)

/-- What is seen of the guest: its handles, its fuel and its reports. -/
def SeenAlike {α : Type} (x : Store T × α) (y : RuntimeState T E × Nat × α) : Prop :=
  x.1.state.table = y.1.table ∧ x.1.fuel = y.2.1 ∧ x.2 = y.2.2

variable {h : Handler Services σ} {view : τ → σ} {ok : Entry → Prop} {here : RuntimeState T Services}

variable (probe works) in
/-- One call. -/
theorem call_alike (hv : Twins h g (fun s t => view t = s) ok here st) (hst : Attached granted st) {linker : Linker}
    (hclock : .monotonic_clock ∉ linker) (fuel : Nat) (t : τ) (current : Prog Wit String) :
    let x := (guest_run linker st fuel (.call "probe")).run (playing probe works g) (t, current, fuel)
    let y := (played works linker here fuel probe).run h (view t)
    OutcomeRel (fun x y => Twins h g (fun s t => view t = s) ok y.1 x.1.state ∧ Attached granted x.1.state ∧
      SeenAlike x y) x.1 y.1 ∧ view x.2.1 = y.2 ∧ ∀ v, x.1 = .ret v → x.2.2.2 = v.1.fuel := by
  have hlinker : ∀ c, interfaceOf c ∈ linker → c = .now → ∀ f, Sim h g (fun s t => view t = s) Eq
      (Clocked.callFn (E := Services) f) (Clocked.callFn (E := World) f) := by
    rintro c hc rfl
    exact absurd hc hclock
  obtain ⟨hsim, hview⟩ := played_sim works (call_sim T h g _ ok) hlinker fuel probe hv (view t) t rfl
  obtain ⟨hplayed, hstate, hleft⟩ := guest_run_played works (g := g) hst linker fuel (.call "probe") t current
  have hrun := runs_run (playing probe works g) (guest_run linker st fuel (.call "probe")) (t, current, fuel)
  change OutcomeRel _ _ ((played works linker st fuel probe).run g t).1 at hplayed
  change _ = ((played works linker st fuel probe).run g t).2 at hstate
  dsimp only
  generalize (guest_run linker st fuel (.call "probe")).run (playing probe works g) (t, current, fuel) = x
    at hplayed hstate hleft hrun ⊢
  generalize (played works linker st fuel probe).run g t = y at hplayed hstate hsim hview
  generalize (played works linker here fuel probe).run h (view t) = z at hsim hview ⊢
  refine ⟨?_, hstate ▸ hview, hleft⟩
  obtain ⟨⟨store, result⟩ | msg, t₁, own⟩ := x <;> obtain ⟨⟨st', fuel', result'⟩ | msg', t₂⟩ := y <;>
    obtain ⟨⟨here', fuel'', result''⟩ | msg'', t₃⟩ := z <;> simp only [OutcomeRel] at hplayed hsim ⊢
  · obtain ⟨rfl, rfl, rfl⟩ := hplayed
    obtain ⟨hv', he⟩ := hsim
    obtain ⟨rfl, rfl⟩ := Prod.mk.inj he
    have hst' := ((guest_run_pays (x := 0) (g := 0) (r := 0) hst linker fuel (.call "probe") 0).sound hrun).2 _ rfl
    exact ⟨hv', hst'.1, hv'.table, rfl, rfl⟩
  · exact hplayed.trans hsim.symm

theorem calls_alike (hv : Twins h g (fun s t => view t = s) ok here st) (hst : Attached granted st) {linker : Linker}
    (hclock : .monotonic_clock ∉ linker) (n fuel : Nat) (t : τ) (current : Prog Wit String) :
    let x := (calls linker n ⟨st, fuel⟩).run (playing probe works g) (t, current, fuel)
    let y := (calls_inside works linker probe n here fuel).run h (view t)
    OutcomeRel SeenAlike x.1 y.1 ∧ view x.2.1 = y.2 := by
  induction n generalizing st here fuel t current with
  | zero => exact ⟨⟨hv.table, rfl, rfl⟩, rfl⟩
  | succ n ih =>
    obtain ⟨hone, hview, hleft⟩ := call_alike probe works hv hst hclock fuel t current
    dsimp only [calls, calls_inside] at hone hview hleft ⊢
    rw [Prog.run_bind, Prog.run_bind]
    generalize (guest_run linker st fuel (.call "probe")).run (playing probe works g) (t, current, fuel) = x
      at hone hview hleft ⊢
    generalize (played works linker here fuel probe).run h (view t) = y at hone hview ⊢
    obtain ⟨⟨⟨st', fuel'⟩, result⟩ | msg, t', current', left⟩ := x <;>
      obtain ⟨⟨here', fuel'', result'⟩ | msg', s'⟩ := y <;> simp only [OutcomeRel] at hone
    · obtain ⟨hv', hst', -, rfl, rfl⟩ := hone
      obtain rfl : view t' = s' := hview
      obtain rfl : left = fuel' := hleft _ rfl
      obtain ⟨hrest, hview'⟩ := ih hv' hst' left t' current'
      dsimp only at hrest hview' ⊢
      rw [Prog.run_bind, Prog.run_bind]
      generalize (calls linker n ⟨st', left⟩).run (playing probe works g) (t', current', left) = x at hrest hview' ⊢
      generalize (calls_inside works linker probe n here' left).run h (view t') = y at hrest hview' ⊢
      obtain ⟨⟨store, results⟩ | msg, t₁, own⟩ := x <;> obtain ⟨⟨here₁, fuel₁, results₁⟩ | msg', s₁⟩ := y <;>
        simp only [OutcomeRel] at hrest
      · obtain ⟨htable, hfuel, rfl⟩ := hrest
        exact ⟨⟨htable, hfuel, rfl⟩, hview'⟩
      · exact ⟨hrest, hview'⟩
    · exact ⟨hone, hview⟩

/-! ## The wirings -/

/-- The endpoint stands for the service `h`, under the badge and the object that the slots name. -/
def Endpoint (s : ServiceEndpoint) (h : Handler Services σ) (g : Handler World τ) (view : τ → σ) : Prop :=
  match s with
  | .Keystore => FaithfulWire ∧ SignatureLen h ∧ RemoteKeystore h 0 (.from_raw 0) (channelTo DEST_CPTR) g view
  | .Filesystem => RemoteFilesystem h 0 (.from_raw 0) (channelTo DEST_CPTR) g view

variable (T) in
/-- The state that a wiring makes, with the service itself for its backend. -/
def inside (s : ServiceEndpoint) (requests : List ResourceRequest) (granted : Bool) : RuntimeState T Services :=
  match s with
  | .Keystore => (RuntimeState.new (keystore_grants requests granted)).with_keystore outsideKeystore
  | .Filesystem => (RuntimeState.new (filesystem_grants requests granted)).with_filesystem outsideFilesystem

omit [Crates] in
theorem slots_mem {α : Type} {n : Nat} {granted : Bool} {grant x : α} (h : some x ∈ slots n granted grant) :
    x = grant := by
  obtain ⟨i, -, hi⟩ := List.mem_map.1 h
  split at hi
  · exact (Option.some.inj hi).symm
  · cases hi

/-- What the one grant of a wiring names. -/
def Named : Entry → Prop
  | .key cap => cap.badge = 0 ∧ cap.key = .from_raw 0
  | .file cap => cap.badge = 0 ∧ cap.file = .from_raw 0

theorem Endpoint.twins {s : ServiceEndpoint} (he : Endpoint s h g view) (requests : List ResourceRequest)
    (granted : Bool) :
    Twins h g (fun s t => view t = s) Named (inside T s requests granted) (stateOf T s requests granted) := by
  cases s with
  | Keystore =>
    obtain ⟨hw, hlen, hr⟩ := he
    refine Twins.attach (.some (hr.sim hw hlen fun cap hc => hc)) .none (fun cap hc => ?_) nofun
    rw [slots_mem hc]
    exact ⟨rfl, rfl⟩
  | Filesystem =>
    refine Twins.attach .none (.some (RemoteFilesystem.sim he fun cap hc => hc)) nofun fun cap hc => ?_
    rw [slots_mem hc]
    exact ⟨rfl, rfl⟩

/-- Whatever program the guest is, whatever it burns, and however often it is called: behind an endpoint that stands
for the service, the confined runtime gives it the reports, the fuel and the handles that it would have next to the
service, and leaves the service as that would. -/
theorem confined_as_in_process {s : ServiceEndpoint} (he : Endpoint s h g view) (requests : List ResourceRequest)
    (granted : Bool) (probe current : Prog Wit String) (works : Nat → Bool) (n fuel : Nat) (t : τ) :
    let linker := interfacesOf (grantsOf s requests granted)
    let there := (calls linker n ⟨stateOf T s requests granted, fuel⟩).run (playing probe works g) (t, current, fuel)
    let here := (calls_inside works linker probe n (inside T s requests granted) fuel).run h (view t)
    OutcomeRel SeenAlike there.1 here.1 ∧ view there.2.1 = here.2 := by
  refine calls_alike (he.twins requests granted) (attached_state T s requests granted) ?_ n fuel t current
  cases s <;> cases requests <;> simp [interfacesOf, grantsOf, keystore_grants, filesystem_grants, slots,
    GrantManifest.nothing]

/-- The demo's world, with a remote of the reference keystore behind the endpoint. -/
def remoteWorld : Handler World Files
  | .channel _ op request reply, s =>
    letI := lengthPrefixed
    remoteKeystore reference 0 (.from_raw 0) keystoreStatus (.channel op request reply) s
  | c, s => ((keystoreWorld c false).1, s)

omit [Crates] in
theorem remoteWorld_endpoint :
    letI := lengthPrefixed
    Endpoint .Keystore reference remoteWorld id := by
  let _ := lengthPrefixed
  obtain ⟨hencrypt, hdecrypt, hsign⟩ := remoteKeystore_reference 0 (.from_raw 0)
  exact ⟨lengthPrefixed_faithful, reference_signatureLen, hencrypt, hdecrypt, hsign⟩

omit [Crates] in
/-- The probe guest, called twice. It burns every other unit. -/
theorem confined_as_in_process_probe :
    letI := lengthPrefixed
    let works : Nat → Bool := fun left => left % 2 == 0
    let there := (calls [.keystore] 2 ⟨stateOf demoTable .Keystore [⟨"signer"⟩] true, 40⟩).run
      (playing confined_probe_guest.probe works remoteWorld) ((fun _ => none), .ret "", 40)
    let here := (calls_inside works [.keystore] confined_probe_guest.probe 2
      (inside demoTable .Keystore [⟨"signer"⟩] true) 40).run reference (fun _ => none)
    OutcomeRel SeenAlike there.1 here.1 ∧ there.2.1 = here.2 := by
  let _ := lengthPrefixed
  exact confined_as_in_process remoteWorld_endpoint [⟨"signer"⟩] true _ _ _ 2 40 _

end LanternRuntime.Guests

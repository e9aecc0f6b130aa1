import LanternRuntime.Confined.Outcome
import LanternRuntime.Confined.Wiring
import LanternRuntime.Guests.Reports
/-!
# The guests, hosted

In `World`, a guest moves as it likes. `Plays` says that its moves are those of
a program, with as much work between them as it likes. `Carried` is a run of such
a program whose answers are what the host replied, with what the host asked of
the outside for them. `hosted_exactly` says that the two are the same.
-/
open ProgLib

namespace LanternRuntime.Guests
open Host Confined

/-! ## Moves of a program -/

/-- What a reply brings to the call it is for. A drop that failed brings nothing: it traps. -/
def answer : (c : GuestCall) → GuestReply → Option (Ans c)
  | .keystoreOpen _, .opened handle => some handle
  | .filesystemOpen _, .opened handle => some handle
  | .encrypt .., .encrypted result => some result
  | .decrypt .., .bytes result => some result
  | .sign .., .bytes result => some result
  | .read _, .bytes result => some result
  | .write .., .written result => some result
  | .keyDrop _, .dropped true => some ()
  | .fileDrop _, .dropped true => some ()
  | .now, .time ns => some ns
  | .resolution, .time ns => some ns
  | _, _ => none

def move : Prog Wit String → GuestMove
  | .ret report => .done report
  | .panic _ => .trap
  | .call c _ => .host c

/-- What the guest does with an input, in the middle of `current`. Nothing runs when it is instantiated. -/
def entered (probe current : Prog Wit String) : GuestInput → Prog Wit String
  | .instantiate _ => .ret ""
  | .call _ => probe
  | .resume reply =>
    match current with
    | .call c k => (answer c reply).elim current k
    | _ => current
  | .proceed => current

theorem answer_not_dropped {c : GuestCall} {reply : GuestReply} {ans : Ans c} (h : answer c reply = some ans) :
    reply ≠ .dropped false := by
  rintro rfl
  cases c <;> cases h

theorem entered_resume {probe : Prog Wit String} {c : GuestCall} {k : Ans c → Prog Wit String} {reply : GuestReply}
    {ans : Ans c} (h : answer c reply = some ans) : entered probe (.call c k) (.resume reply) = k ans := by
  simp only [entered, h, Option.elim_some]

/-- The guest's moves in `tr` are those of `probe`, whatever it burns between them. -/
def Plays (probe : Prog Wit String) : Prog Wit String → Confined.Events → Prop
  | _, [] => True
  | current, ⟨.guest input, m⟩ :: tr =>
    (m = .work ∨ m = move (entered probe current input)) ∧ Plays probe (entered probe current input) tr
  | current, _ :: tr => Plays probe current tr

/-- What happens outside of the guest is not part of its moves. -/
theorem plays_quiet {probe current : Prog Wit String} {tr₁ tr₂ : Confined.Events}
    (h : ∀ e ∈ tr₁, ∀ input, e.call ≠ .guest input) :
    Plays probe current (tr₁ ++ tr₂) ↔ Plays probe current tr₂ := by
  induction tr₁ with
  | nil => rfl
  | cons e tr₁ ih =>
    obtain ⟨c, ans⟩ := e
    rw [← ih fun e he => h e (List.mem_cons_of_mem _ he)]
    cases c with
    | guest input => exact absurd rfl (h _ List.mem_cons_self input)
    | _ => rfl

theorem plays_cons {probe current : Prog Wit String} {e : Event World} {tr : Confined.Events}
    (hplays : Plays probe current (e :: tr)) : ∃ current', Plays probe current' tr := by
  obtain ⟨c, ans⟩ := e
  cases c with
  | guest input => exact ⟨_, hplays.2⟩
  | _ => exact ⟨_, hplays⟩

theorem plays_right {probe current : Prog Wit String} {tr₁ tr₂ : Confined.Events}
    (hplays : Plays probe current (tr₁ ++ tr₂)) : ∃ current', Plays probe current' tr₂ := by
  induction tr₁ generalizing current with
  | nil => exact ⟨current, hplays⟩
  | cons e tr₁ ih =>
    obtain ⟨current', hplays'⟩ := plays_cons hplays
    exact ih hplays'

theorem plays_left {probe current : Prog Wit String} {tr₁ tr₂ : Confined.Events}
    (hplays : Plays probe current (tr₁ ++ tr₂)) : Plays probe current tr₁ := by
  induction tr₁ generalizing current with
  | nil => trivial
  | cons e tr₁ ih =>
    obtain ⟨c, ans⟩ := e
    cases c with
    | guest input => exact ⟨hplays.1, ih hplays.2⟩
    | _ => exact ih hplays

theorem reaches_not_guest {granted : Bool} {c : WorldCall} (h : Reaches granted c) (input : GuestInput) :
    c ≠ .guest input := by
  rintro rfl
  obtain ⟨f, hf⟩ | ⟨hc, -⟩ := h
  · cases hf
  · cases hc

/-- The fuel that the guest burnt besides the unit for each of its moves. -/
def burnt (tr : Confined.Events) : Nat :=
  tr.countP fun e => match e with
    | ⟨.guest _, .work⟩ => true
    | _ => false

theorem burnt_append (tr₁ tr₂ : Confined.Events) : burnt (tr₁ ++ tr₂) = burnt tr₁ + burnt tr₂ := List.countP_append

theorem burnt_work (input : GuestInput) (tr : Confined.Events) : burnt (⟨.guest input, .work⟩ :: tr) = burnt tr + 1 :=
  List.countP_cons_of_pos rfl

theorem burnt_move (input : GuestInput) (p : Prog Wit String) (tr : Confined.Events) :
    burnt (⟨.guest input, move p⟩ :: tr) = burnt tr := by
  cases p <;> exact List.countP_cons_of_neg nofun

theorem burnt_quiet {tr : Confined.Events} (h : ∀ e ∈ tr, ∀ input, e.call ≠ .guest input) : burnt tr = 0 := by
  refine List.countP_eq_zero.2 fun e he => ?_
  split
  · next input => exact absurd rfl (h _ he input)
  · exact nofun

/-- What happened outside of the guest. -/
def outside (tr : Confined.Events) : Confined.Events :=
  tr.filter fun e => match e.call with
    | .guest _ => false
    | _ => true

theorem outside_append (tr₁ tr₂ : Confined.Events) : outside (tr₁ ++ tr₂) = outside tr₁ ++ outside tr₂ :=
  List.filter_append ..

theorem outside_guest (input : GuestInput) (m : GuestMove) (tr : Confined.Events) :
    outside (⟨.guest input, m⟩ :: tr) = outside tr := rfl

theorem outside_quiet {tr : Confined.Events} (h : ∀ e ∈ tr, ∀ input, e.call ≠ .guest input) : outside tr = tr := by
  refine List.filter_eq_self.2 fun e he => ?_
  split
  · next input hinput => exact absurd hinput (h e he input)
  · rfl

/-! ## Runs of it -/

section Hosted
variable [Crates] {T : ResourceTable}

/-- The host served the calls of `wit` one after the other, told the guest its replies, and asked `own` of
the outside for them. -/
inductive Carried : RuntimeState T World → Events → Confined.Events → RuntimeState T World → Prop
  | nil {st} : Carried st [] [] st
  | cons {st c tr₁ st₁ reply ans wit own st'} : Runs (call st c) tr₁ (.ret (st₁, reply)) →
      answer c reply = some ans → Carried st₁ wit own st' → Carried st (⟨c, ans⟩ :: wit) (tr₁ ++ own) st'

variable {granted : Bool} {st st' : RuntimeState T World}

theorem answer_of {c : GuestCall} {tr : Confined.Events} {reply : GuestReply}
    (h : Runs (call st c) tr (.ret (st', reply))) (hdropped : reply ≠ .dropped false) :
    ∃ ans, answer c reply = some ans := by
  cases c with
  | keystoreOpen | filesystemOpen =>
    obtain ⟨-, he⟩ := runs_ret.1 h
    cases he
    exact ⟨_, rfl⟩
  | keyDrop | fileDrop =>
    obtain ⟨-, he⟩ := runs_ret.1 h
    injection he with he
    obtain ⟨found, rfl⟩ : ∃ found, reply = .dropped found := ⟨_, congrArg Prod.snd he⟩
    cases found with
    | true => exact ⟨(), rfl⟩
    | false => exact absurd rfl hdropped
  | _ =>
    obtain ⟨x, -, he⟩ := runs_bind_ret.1 h
    cases he
    exact ⟨_, rfl⟩

/-- What follows a move of the guest. -/
def moved (linker : Linker) (st : RuntimeState T World) (fuel : Nat) : GuestMove → Prog World (Store T × Option String)
  | .work => guest_run linker st fuel .proceed
  | .done report => return (⟨st, fuel⟩, some report)
  | .trap => return (⟨st, fuel⟩, none)
  | .host c =>
    if interfaceOf c ∈ linker then do
      let (st, reply) ← call st c
      if reply = .dropped false then return (⟨st, fuel⟩, none)
      else guest_run linker st fuel (.resume reply)
    else return (⟨st, fuel⟩, none)

theorem guest_run_moved (linker : Linker) (fuel : Nat) (input : GuestInput) :
    guest_run linker st (fuel + 1) input = .call (.guest input) (moved linker st fuel) :=
  congrArg (Prog.call (E := World) (.guest input)) (funext fun m => by cases m <;> rfl)

/-- A call that a guest makes on the way to its report was linked, and did not trap. -/
theorem runs_host_move {linker : Linker} {fuel : Nat} {input : GuestInput} {c : GuestCall} {tr : Confined.Events}
    {store : Store T} {report : String} :
    Runs (guest_run linker st (fuel + 1) input) (⟨.guest input, .host c⟩ :: tr) (.ret (store, some report)) ↔
      interfaceOf c ∈ linker ∧ ∃ tr₁ tr₂ st₁ reply, tr = tr₁ ++ tr₂ ∧ Runs (call st c) tr₁ (.ret (st₁, reply)) ∧
        reply ≠ .dropped false ∧ Runs (guest_run linker st₁ fuel (.resume reply)) tr₂ (.ret (store, some report)) := by
  constructor
  · intro hr
    obtain ⟨m, tr', he, hm⟩ := runs_call.1 hr
    cases he
    change Runs (if interfaceOf c ∈ linker then _ else _) _ _ at hm
    by_cases hlinked : interfaceOf c ∈ linker
    · rw [if_pos hlinked] at hm
      obtain ⟨tr₁, tr₂, ⟨st₁, reply⟩, rfl, hcall, hrest⟩ := runs_bind_value.1 hm
      dsimp only at hrest
      by_cases hdropped : reply = .dropped false
      · rw [if_pos hdropped] at hrest
        cases (runs_ret.1 hrest).2
      · rw [if_neg hdropped] at hrest
        exact ⟨hlinked, tr₁, tr₂, st₁, reply, rfl, hcall, hdropped, hrest⟩
    · rw [if_neg hlinked] at hm
      cases (runs_ret.1 hm).2
  · rintro ⟨hlinked, tr₁, tr₂, st₁, reply, rfl, hcall, hdropped, hrest⟩
    refine runs_call.2 ⟨.host c, _, rfl, ?_⟩
    change Runs (if interfaceOf c ∈ linker then _ else _) _ _
    rw [if_pos hlinked]
    refine runs_bind_value.2 ⟨tr₁, tr₂, (st₁, reply), rfl, hcall, ?_⟩
    dsimp only
    rw [if_neg hdropped]
    exact hrest

/-- A guest that plays a program reports what the program does, with the replies as its answers. Every
call it made was linked, and took a unit of fuel, as the report did. -/
theorem carried_of_run {linker : Linker} {fuel : Nat} {input : GuestInput}
    {probe current : Prog Wit String} {tr : Confined.Events} {store : Store T} {report : String}
    (hst : Attached granted st) (hr : Runs (guest_run linker st fuel input) tr (.ret (store, some report)))
    (hplays : Plays probe current tr) :
    ∃ wit, Runs (entered probe current input) wit (.ret report) ∧ Carried st wit (outside tr) store.state ∧
      (∀ e ∈ wit, interfaceOf e.call ∈ linker) ∧ fuel = store.fuel + burnt tr + wit.length + 1 := by
  -- By induction on the fuel. A reply that resumes the guest is the answer to the call it made.
  induction fuel generalizing st input current tr with
  | zero => cases (runs_ret.1 hr).2
  | succ fuel ih =>
    obtain ⟨m, tr, rfl, hm⟩ := runs_call.1 hr
    obtain ⟨rfl | rfl, hplays⟩ := hplays
    · obtain ⟨wit, hwit, hcarried, hall, hfuel⟩ := ih hst hm hplays
      refine ⟨wit, hwit, hcarried, hall, ?_⟩
      rw [hfuel, burnt_work]
      omega
    generalize entered probe current input = p at hr hm hplays
    rw [burnt_move]
    cases p with
    | ret a =>
      obtain ⟨rfl, he⟩ := runs_ret.1 hm
      cases he
      exact ⟨[], .ret _, .nil, nofun, rfl⟩
    | panic msg => cases (runs_ret.1 hm).2
    | call c k =>
      obtain ⟨hlinked, tr₁, tr₂, st₁, reply, rfl, hcall, hdropped, hrest⟩ := runs_host_move.1 hr
      have hquiet := fun e he => reaches_not_guest ((hst.call_only c).runs hcall e he)
      obtain ⟨ans, hans⟩ := answer_of hcall hdropped
      obtain ⟨table, rfl, hmoves⟩ := moves_of hcall
      obtain ⟨wit, hwit, hcarried, hall, hfuel⟩ := ih (hst.step hmoves) hrest ((plays_quiet hquiet).1 hplays)
      rw [entered_resume hans] at hwit
      refine ⟨⟨c, ans⟩ :: wit, .call c k ans hwit, ?_, List.forall_mem_cons.2 ⟨hlinked, hall⟩, ?_⟩
      · rw [outside_guest, outside_append, outside_quiet hquiet]
        exact .cons hcall hans hcarried
      · rw [hfuel, burnt_append, burnt_quiet hquiet, Nat.zero_add]
        rfl

/-- And every run of the program that the host can answer is one of a guest that plays it. -/
theorem run_of_carried {linker : Linker} {fuel : Nat} {input : GuestInput} {probe current : Prog Wit String}
    {wit : Events} {own : Confined.Events} {report : String} (hst : Attached granted st)
    (h : Carried st wit own st') (hr : Runs (entered probe current input) wit (.ret report))
    (hlinked : ∀ e ∈ wit, interfaceOf e.call ∈ linker) :
    ∃ tr, Runs (guest_run linker st (fuel + wit.length + 1) input) tr (.ret (⟨st', fuel⟩, some report)) ∧
      Plays probe current tr ∧ outside tr = own ∧ burnt tr = 0 := by
  -- By induction on the calls. Each takes one unit of fuel, and the report the last.
  induction h generalizing input current with
  | nil =>
    generalize hp : entered probe current input = p at hr
    cases p with
    | ret a =>
      cases hr
      refine ⟨[⟨.guest input, .done report⟩], runs_call.2 ⟨.done report, [], rfl, .ret _⟩, ⟨.inr ?_, trivial⟩, rfl, rfl⟩
      rw [hp]
      rfl
    | panic msg => cases hr
    | call c k => cases hr
  | @cons st c tr₁ st₁ reply ans wit own st' hcall hans _ ih =>
    generalize hp : entered probe current input = p at hr
    cases p with
    | ret a => cases hr
    | panic msg => cases hr
    | call c' k =>
      obtain ⟨ans', wit', he, hk⟩ := runs_call.1 hr
      cases he
      have hquiet := fun e he => reaches_not_guest ((hst.call_only c).runs hcall e he)
      obtain ⟨table, rfl, hmoves⟩ := moves_of hcall
      have hresumed : entered probe (.call c k) (.resume reply) = k ans := entered_resume hans
      rw [← hresumed] at hk
      obtain ⟨hfirst, hothers⟩ := List.forall_mem_cons.1 hlinked
      obtain ⟨tr₂, hrest, hplays, rfl, hburnt⟩ := ih (hst.step hmoves) hk hothers
      refine ⟨⟨.guest input, .host c⟩ :: (tr₁ ++ tr₂), runs_host_move.2 ?_, ⟨.inr ?_, ?_⟩, ?_, ?_⟩
      · exact ⟨hfirst, tr₁, tr₂, _, reply, rfl, hcall, answer_not_dropped hans, hrest⟩
      · rw [hp]
        rfl
      · rw [hp]
        exact (plays_quiet hquiet).2 hplays
      · rw [outside_guest, outside_append, outside_quiet hquiet]
      · refine (burnt_move input (.call c k) (tr₁ ++ tr₂)).trans ?_
        rw [burnt_append, burnt_quiet hquiet, hburnt]

/-- It may also work first. -/
theorem run_working {linker : Linker} {fuel b : Nat} {input : GuestInput} {probe current p : Prog Wit String}
    {own : Confined.Events} {x : Store T × Option String} (hp : entered probe current input = p)
    (h : ∀ input current, entered probe current input = p → ∃ tr, Runs (guest_run linker st fuel input) tr (.ret x) ∧
      Plays probe current tr ∧ outside tr = own ∧ burnt tr = 0) :
    ∃ tr, Runs (guest_run linker st (fuel + b) input) tr (.ret x) ∧ Plays probe current tr ∧ outside tr = own ∧
      burnt tr = b := by
  induction b generalizing input current with
  | zero => exact h input current hp
  | succ b ih =>
    obtain ⟨tr, hr, hplays, hown, hburnt⟩ := ih (rfl : entered probe p .proceed = p)
    refine ⟨⟨.guest input, .work⟩ :: tr, runs_call.2 ⟨.work, tr, rfl, hr⟩, ⟨.inl rfl, ?_⟩, ?_, ?_⟩
    · rw [hp]
      exact hplays
    · rw [outside_guest, hown]
    · rw [burnt_work, hburnt]

/-- To host a guest that plays a program is to run the program against the host functions, and takes a unit of
fuel for each call and for the report besides what the guest burns. -/
theorem hosted_exactly {linker : Linker} {fuel fuel' b : Nat} {input : GuestInput} {probe current : Prog Wit String}
    {own : Confined.Events} {report : String} (hst : Attached granted st) :
    (∃ tr, Runs (guest_run linker st fuel input) tr (.ret (⟨st', fuel'⟩, some report)) ∧ Plays probe current tr ∧
      outside tr = own ∧ burnt tr = b) ↔
    ∃ wit, Runs (entered probe current input) wit (.ret report) ∧ Carried st wit own st' ∧
      (∀ e ∈ wit, interfaceOf e.call ∈ linker) ∧ fuel = fuel' + b + wit.length + 1 := by
  constructor
  · rintro ⟨tr, hr, hplays, rfl, rfl⟩
    exact carried_of_run hst hr hplays
  · rintro ⟨wit, hr, hcarried, hlinked, rfl⟩
    have hfuel : fuel' + b + wit.length + 1 = fuel' + wit.length + 1 + b := by omega
    rw [hfuel]
    exact run_working rfl fun input current hp => run_of_carried hst hcarried (hp ▸ hr) hlinked

omit [Crates] in
/-- A guest that finds no key at slot 0, and burns three units. -/
theorem hosted_exactly_declined :
    letI := lengthPrefixed
    let st := stateOf demoTable .Keystore [⟨"signer"⟩] false
    ∃ tr, Runs (guest_run [.keystore] st 5 (.call "probe")) tr
        (.ret (⟨st, 0⟩, some "error: the manifest granted no key at keystore slot 0")) ∧
      Plays confined_probe_guest.probe (.ret "") tr ∧ outside tr = [] ∧ burnt tr = 3 := by
  let _ := lengthPrefixed
  refine (hosted_exactly (attached_state demoTable .Keystore [⟨"signer"⟩] false)).2 ⟨[⟨.keystoreOpen 0, none⟩], ?_, ?_, ?_⟩
  · exact confined_probe_guest.runs_probe.2 ⟨_, rfl, .no_key⟩
  · have hopen : Runs (call (stateOf demoTable .Keystore [⟨"signer"⟩] false) (.keystoreOpen 0)) []
        (.ret (stateOf demoTable .Keystore [⟨"signer"⟩] false, .opened none)) := .ret _
    exact .cons hopen rfl .nil
  · exact ⟨by decide, rfl⟩

/-- The backend of an interface is the channel to the service. -/
def Serviced (st : RuntimeState T World) : ServiceEndpoint → Prop
  | .Keystore => st.keystore = some (IpcKeystore.service (channelTo DEST_CPTR))
  | .Filesystem => st.filesystem = some (IpcFilesystem.service (channelTo DEST_CPTR))

theorem Serviced.moved {s : ServiceEndpoint} (h : Serviced st s) (table : T.Table) :
    Serviced { st with table := table } s := by
  cases s <;> exact h

theorem serviced_state (s : ServiceEndpoint) (requests : List ResourceRequest) :
    Serviced (stateOf T s requests granted) s := by
  cases s <;> exact rfl

theorem Carried.attached {wit : Events} {own : Confined.Events} (h : Carried st wit own st')
    (hst : Attached granted st) : Attached granted st' := by
  induction h with
  | nil => exact hst
  | cons hcall _ _ ih =>
    obtain ⟨table, rfl, hmoves⟩ := moves_of hcall
    exact ih (hst.step hmoves)

theorem carried_nil {own : Confined.Events} (h : Carried st [] own st') : st' = st ∧ own = [] := by
  cases h
  exact ⟨rfl, rfl⟩

end Hosted

/-! ## Verdicts -/

/-- The guest that is hosted for an interface. -/
def guestOf (debug : ErrorCode → String) : ServiceEndpoint → Prog Wit String
  | .Keystore => confined_probe_guest.probe
  | .Filesystem => confined_fs_guest.probe debug

def Passed : ServiceEndpoint → Events → Prop
  | .Keystore => confined_probe_guest.Signed
  | .Filesystem => confined_fs_guest.Intact

def Denied : ServiceEndpoint → Events → Prop
  | .Keystore => confined_probe_guest.Denied
  | .Filesystem => confined_fs_guest.Denied

section Verdicts
variable [Crates] {T : ResourceTable} {debug : ErrorCode → String} {s : ServiceEndpoint} {wit : Events}
  {report : String}

/-- What is read in the report of either guest. -/
theorem guest_verdicts (haccess : contains (debug .Access) "\"access\"" = true)
    (hinvalid : contains (debug .Invalid) "\"access\"" = false) (hr : Runs (guestOf debug s) wit (.ret report)) :
    (check_report report (probeOf s).required = .ok () ↔ Passed s wit) ∧
    (refusal report (probeOf s).refused = true ↔ Denied s wit) := by
  cases s with
  | Keystore =>
    obtain ⟨report', he, hreport⟩ := confined_probe_guest.runs_probe.1 hr
    cases he
    exact ⟨hreport.passes, hreport.refuses⟩
  | Filesystem =>
    obtain ⟨report', he, hreport⟩ := confined_fs_guest.runs_probe hr
    cases he
    exact ⟨hreport.passes, hreport.refuses haccess hinvalid⟩

/-- A guest that was given something was granted it. -/
theorem Carried.granted {granted : Bool} {st st' : RuntimeState T World} {own : Confined.Events}
    (h : Carried st wit own st') (hst : Attached granted st) (hpassed : Passed s wit) : granted = true := by
  cases s with
  | Keystore =>
    obtain ⟨key, signature, rfl⟩ := hpassed
    obtain _ | @⟨_, _, _, _, reply, _, _, _, _, hcall, hans, _⟩ := h
    cases reply <;> cases hans
    exact (hst.opened hcall).1
  | Filesystem =>
    obtain ⟨file, rfl⟩ := hpassed
    obtain _ | @⟨_, _, _, _, reply, _, _, _, _, hcall, hans, _⟩ := h
    cases reply <;> cases hans
    exact (hst.opened hcall).1

omit [Crates] in
/-- The first call of either guest is one of its interface. -/
theorem guest_linked {linker : Linker} (hr : Runs (guestOf debug s) wit (.ret report))
    (hall : ∀ e ∈ wit, interfaceOf e.call ∈ linker) : resourceInterface s ∈ linker := by
  cases s with
  | Keystore =>
    obtain ⟨opened, tr, rfl, -⟩ := runs_call.1 hr
    exact hall _ List.mem_cons_self
  | Filesystem =>
    obtain ⟨opened, tr, rfl, -⟩ := runs_call.1 hr
    exact hall _ List.mem_cons_self

end Verdicts

end LanternRuntime.Guests

import LanternRuntime.ProgLib.Credits
import LanternRuntime.ProgLib.Leases
import LanternRuntime.ProgLib.Protocols
import LanternRuntime.Guests.Hosted
/-!
# Guests that clean up

Rust drops a guest's handles wherever its `probe` returns. So each handle that a
guest opened is dropped once, nothing is used after that, and no drop traps:
`tidy_run` is that a program of this kind, with the fuel for it, comes back with
a report and leaves the handle table as it found it, whatever the service does;
`tidy_calls` that it makes no more than its calls, however it ends. Both guests
are of this kind (`guest_tidy`).
-/
open ProgLib

namespace LanternRuntime.Guests
open Host Confined

/-! ## What a guest does with handles -/

def act : (c : GuestCall) → Ans c → Act ServiceEndpoint Handle
  | .keystoreOpen _, some key => .take .Keystore key
  | .filesystemOpen _, some file => .take .Filesystem file
  | .encrypt key .., _ => .use .Keystore key
  | .decrypt key .., _ => .use .Keystore key
  | .sign key _, _ => .use .Keystore key
  | .read file, _ => .use .Filesystem file
  | .write file _, _ => .use .Filesystem file
  | .keyDrop key, _ => .give .Keystore key
  | .fileDrop file, _ => .give .Filesystem file
  | _, _ => .pass

abbrev Held := List (ServiceEndpoint × Handle)

/-- A call of a guest that uses and drops only what it holds. -/
def Leased (held : Held) (e : Event Wit) (held' : Held) : Prop := Lease held (act e.call e.ans) held'

/-- A program that makes at most `n` calls, of the linked interfaces, and drops what it opened and what it
holds at the start. -/
structure Tidy (linker : Linker) (n : Nat) (held : Held) (p : Prog Wit String) : Prop where
  leased : Follows Leased (fun _ held' => held' = []) p held
  linked : Only (fun c => interfaceOf c ∈ linker) p
  returns : Returns (fun _ => True) (fun _ => True) p
  calls : Pays (fun _ => 1) (fun _ _ => True) p n

section Host
variable {T : ResourceTable} {linker : Linker} {n : Nat} {held held' : Held}

/-- What it does next. -/
theorem Tidy.next {c : GuestCall} {k : Ans c → Prog Wit String} (h : Tidy linker n held (.call c k)) (ans : Ans c) :
    ∃ held', Leased held ⟨c, ans⟩ held' ∧ Tidy linker (n - 1) held' (k ans) := by
  obtain ⟨held', hleased, hrest⟩ := h.leased ans
  exact ⟨held', hleased, hrest, h.linked.2 ans, h.returns ans trivial, h.calls.2 ans⟩

variable [Crates] {st st' : RuntimeState T World} {table t₀ : T.Table} {c : GuestCall} {reply : GuestReply}

omit [Crates] in
theorem isKey_of_interface (e : Entry) (h : e.interface = .Keystore) : e.isKey = true := by
  cases e <;> first | rfl | cases h

omit [Crates] in
theorem isFile_of_interface (e : Entry) (h : e.interface = .Filesystem) : e.isFile = true := by
  cases e <;> first | rfl | cases h

/-- A drop of a handle that is held does not trap. -/
theorem lent_dropped {tr : Confined.Events} (hl : Lent T Entry.interface t₀ held st.table)
    (hleased : ∀ ans, ∃ held', Leased held ⟨c, ans⟩ held') (hcall : Runs (call st c) tr (.ret (st', reply))) :
    reply ≠ .dropped false := by
  cases c with
  | keystoreOpen | filesystemOpen =>
    obtain ⟨-, he⟩ := runs_ret.1 hcall
    cases he
    exact nofun
  | keyDrop key =>
    obtain ⟨held', hdrop⟩ := hleased ()
    obtain ⟨-, he⟩ := runs_ret.1 hcall
    cases he
    cases hdrop with
    | give hmem =>
      intro hfalse
      have hfound := (hl.delete hmem isKey_of_interface).1
      rw [GuestReply.dropped.inj hfalse] at hfound
      cases hfound
  | fileDrop file =>
    obtain ⟨held', hdrop⟩ := hleased ()
    obtain ⟨-, he⟩ := runs_ret.1 hcall
    cases he
    cases hdrop with
    | give hmem =>
      intro hfalse
      have hfound := (hl.delete hmem isFile_of_interface).1
      rw [GuestReply.dropped.inj hfalse] at hfound
      cases hfound
  | _ =>
    obtain ⟨x, -, he⟩ := runs_bind_ret.1 hcall
    cases he
    exact nofun

omit [Crates] in
/-- One call keeps what is held on loan. -/
theorem lent_moved {ans : Ans c} (hl : Lent T Entry.interface t₀ held st.table) (hm : Moves st c reply table)
    (hans : answer c reply = some ans) (hleased : Leased held ⟨c, ans⟩ held') :
    Lent T Entry.interface t₀ held' table := by
  cases hm with
  | keyOpened hslot hpush | fileOpened hslot hpush =>
    cases hans
    cases hleased
    exact hl.push hpush
  | keyDeclined | fileDeclined =>
    cases hans
    cases hleased
    exact hl
  | keyDropped =>
    cases hleased with
    | give hmem => exact (hl.delete hmem isKey_of_interface).2
  | fileDropped =>
    cases hleased with
    | give hmem => exact (hl.delete hmem isFile_of_interface).2
  | operated hop =>
    cases c with
    | keystoreOpen | filesystemOpen | keyDrop | fileDrop => cases hop
    | _ =>
      cases hleased
      exact hl

/-- What follows a call of such a program: the host panics, or the program goes on with an answer. -/
theorem tidy_step {granted : Bool} {n fuel : Nat} {k : Ans c → Prog Wit String} {tr : Confined.Events}
    {o : Outcome (Store T × Option String)} (hst : Attached granted st) (htidy : Tidy linker n held (.call c k))
    (hl : Lent T Entry.interface t₀ held st.table) (hm : Runs (moved linker st fuel (.host c)) tr o) :
    (∃ msg, o = .panic msg ∧ ∀ e ∈ tr, ∀ input, e.call ≠ .guest input) ∨
    ∃ tr₁ tr₂ st₁ reply ans held', tr = tr₁ ++ tr₂ ∧ (∀ e ∈ tr₁, ∀ input, e.call ≠ .guest input) ∧
      answer c reply = some ans ∧ Attached granted st₁ ∧ Lent T Entry.interface t₀ held' st₁.table ∧
      Tidy linker (n - 1) held' (k ans) ∧ Runs (guest_run linker st₁ fuel (.resume reply)) tr₂ o := by
  have hlinked : interfaceOf c ∈ linker := htidy.linked.1
  dsimp only [moved] at hm
  rw [if_pos hlinked] at hm
  rcases runs_bind.1 hm with ⟨tr₁, tr₂, ⟨st₁, reply⟩, rfl, hcall, hrest⟩ | ⟨msg, rfl, hcall⟩
  · have hdropped : reply ≠ .dropped false := lent_dropped hl (fun ans => (htidy.next ans).imp fun _ h => h.1) hcall
    dsimp only at hrest
    rw [if_neg hdropped] at hrest
    have hquiet := fun e he => reaches_not_guest ((hst.call_only c).runs hcall e he)
    obtain ⟨ans, hans⟩ := answer_of hcall hdropped
    obtain ⟨held', hleased, hnext⟩ := htidy.next ans
    obtain ⟨table, rfl, hmoves⟩ := moves_of hcall
    exact .inr ⟨tr₁, tr₂, _, reply, ans, held', rfl, hquiet, hans, hst.step hmoves,
      lent_moved hl hmoves hans hleased, hnext, hrest⟩
  · exact .inl ⟨msg, rfl, fun e he => reaches_not_guest ((hst.call_only c).runs hcall e he)⟩

/-- Whatever the service does, such a program comes back with a report if it has the fuel for its calls and for
what it burns, unless the host panics; and the table is then as it was before what the program held at the start. -/
theorem tidy_run {granted : Bool} {n fuel : Nat} {input : GuestInput} {probe current p : Prog Wit String}
    {tr : Confined.Events} {store : Store T} {result : Option String} (hst : Attached granted st)
    (hp : entered probe current input = p) (htidy : Tidy linker n held p)
    (hl : Lent T Entry.interface t₀ held st.table) (hfuel : n + burnt tr < fuel)
    (hr : Runs (guest_run linker st fuel input) tr (.ret (store, result))) (hplays : Plays probe current tr) :
    (∃ report, result = some report) ∧ Attached granted store.state ∧
      Lent T Entry.interface t₀ [] store.state.table ∧ fuel ≤ store.fuel + n + burnt tr + 1 := by
  -- By induction on the fuel, of which each call and each unit of work takes one.
  induction fuel generalizing st held n input current p tr with
  | zero => exact absurd hfuel (Nat.not_lt_zero _)
  | succ fuel ih =>
    rw [guest_run_moved] at hr
    obtain ⟨m, tr, rfl, hm⟩ := runs_call.1 hr
    obtain ⟨rfl | rfl, hplays⟩ := hplays
    · rw [hp] at hplays
      rw [burnt_work] at hfuel ⊢
      obtain ⟨hreport, hst', hlent, hleft⟩ := ih hst (rfl : entered probe p .proceed = p) htidy hl (by omega) hm hplays
      exact ⟨hreport, hst', hlent, by omega⟩
    rw [burnt_move] at hfuel ⊢
    rw [hp] at hm hplays
    cases p with
    | ret a =>
      obtain ⟨rfl, he⟩ := runs_ret.1 hm
      cases he
      obtain rfl := htidy.leased
      exact ⟨⟨a, rfl⟩, hst, hl, by dsimp only; omega⟩
    | panic msg => exact htidy.returns.elim
    | call c k =>
      have hn : 1 ≤ n := htidy.calls.1
      rcases tidy_step hst htidy hl hm with ⟨msg, he, -⟩ |
        ⟨tr₁, tr₂, st₁, reply, ans, held', rfl, hquiet, hans, hst₁, hl₁, hnext, hrest⟩
      · cases he
      rw [burnt_append, burnt_quiet hquiet, Nat.zero_add] at hfuel ⊢
      obtain ⟨hreport, hst', hlent, hleft⟩ := ih hst₁ (entered_resume hans) hnext hl₁ (by omega) hrest
        ((plays_quiet hquiet).1 hplays)
      exact ⟨hreport, hst', hlent, by omega⟩

/-- The host calls of the guest. -/
def hostCalls (tr : Confined.Events) : Nat :=
  tr.countP fun e => match e with
    | ⟨.guest _, .host _⟩ => true
    | _ => false

omit [Crates] in
theorem hostCalls_append (tr₁ tr₂ : Confined.Events) : hostCalls (tr₁ ++ tr₂) = hostCalls tr₁ + hostCalls tr₂ :=
  List.countP_append

omit [Crates] in
theorem hostCalls_host (input : GuestInput) (c : GuestCall) (tr : Confined.Events) :
    hostCalls (⟨.guest input, .host c⟩ :: tr) = hostCalls tr + 1 :=
  List.countP_cons_of_pos rfl

omit [Crates] in
theorem hostCalls_quiet {tr : Confined.Events} (h : ∀ e ∈ tr, ∀ input, e.call ≠ .guest input) : hostCalls tr = 0 := by
  refine List.countP_eq_zero.2 fun e he => ?_
  split
  · next input _ => exact absurd rfl (h _ he input)
  · exact nofun

/-- However the run ends, it makes no more than its calls. -/
theorem tidy_calls {granted : Bool} {n fuel : Nat} {input : GuestInput} {probe current p : Prog Wit String}
    {tr : Confined.Events} {o : Outcome (Store T × Option String)} (hst : Attached granted st)
    (hp : entered probe current input = p) (htidy : Tidy linker n held p)
    (hl : Lent T Entry.interface t₀ held st.table) (hr : Runs (guest_run linker st fuel input) tr o)
    (hplays : Plays probe current tr) : hostCalls tr ≤ n := by
  induction fuel generalizing st held n input current p tr with
  | zero =>
    obtain ⟨rfl, -⟩ := runs_ret.1 hr
    exact Nat.zero_le n
  | succ fuel ih =>
    rw [guest_run_moved] at hr
    obtain ⟨m, tr, rfl, hm⟩ := runs_call.1 hr
    obtain ⟨rfl | rfl, hplays⟩ := hplays
    · rw [hp] at hplays
      change hostCalls tr ≤ n
      exact ih hst (rfl : entered probe p .proceed = p) htidy hl hm hplays
    rw [hp] at hm hplays ⊢
    cases p with
    | ret a =>
      obtain ⟨rfl, -⟩ := runs_ret.1 hm
      exact Nat.zero_le n
    | panic msg => exact htidy.returns.elim
    | call c k =>
      have hn : 1 ≤ n := htidy.calls.1
      have hrest : hostCalls tr ≤ n - 1 := by
        rcases tidy_step hst htidy hl hm with ⟨msg, -, hquiet⟩ |
          ⟨tr₁, tr₂, st₁, reply, ans, held', rfl, hquiet, hans, hst₁, hl₁, hnext, hrest⟩
        · rw [hostCalls_quiet hquiet]
          exact Nat.zero_le _
        · rw [hostCalls_append, hostCalls_quiet hquiet, Nat.zero_add]
          exact ih hst₁ (entered_resume hans) hnext hl₁ hrest ((plays_quiet hquiet).1 hplays)
      have hcount : hostCalls (⟨.guest input, .host c⟩ :: tr) = hostCalls tr + 1 := hostCalls_host input c tr
      change hostCalls (⟨.guest input, .host c⟩ :: tr) ≤ n
      omega

end Host

/-! ## Both guests -/

section Guests
variable {linker : Linker} {n : Nat} {held : Held} {report : String} {p q : Prog Wit String}

theorem tidy_ret : Tidy linker n [] (.ret report) := ⟨rfl, trivial, trivial, trivial⟩

theorem tidy_call {c : GuestCall} {k : Ans c → Prog Wit String} (hlinked : interfaceOf c ∈ linker)
    (hk : ∀ ans, ∃ held', Leased held ⟨c, ans⟩ held' ∧ Tidy linker n held' (k ans)) :
    Tidy linker (n + 1) held (.call c k) where
  leased ans := (hk ans).imp fun _ h => ⟨h.1, h.2.leased⟩
  linked := ⟨hlinked, fun ans => (hk ans).elim fun _ h => h.2.linked⟩
  returns ans _ := (hk ans).elim fun _ h => h.2.returns
  calls := ⟨Nat.le_add_left 1 n, fun ans => (hk ans).elim fun _ h => h.2.calls⟩

/-- The handle taken last can be given back. -/
theorem lease_last {s : ServiceEndpoint} {r : Handle} : Lease ((s, r) :: held) (.give s r) held := by
  have h : Lease ((s, r) :: held) (.give s r) (((s, r) :: held).erase (s, r)) := .give List.mem_cons_self
  rwa [List.erase_cons_head] at h

theorem probe_tidy (hlinked : Interface.keystore ∈ linker) : Tidy linker 5 [] confined_probe_guest.probe := by
  refine tidy_call hlinked fun opened => ?_
  rcases opened with _ | key
  · exact ⟨[], .pass, tidy_ret⟩
  have hdrop : ∀ {n report}, Tidy linker (n + 1) [(.Keystore, key)] (dropping (ask (.keyDrop key)) (return report)) :=
    tidy_call hlinked fun _ => ⟨[], lease_last, tidy_ret⟩
  refine ⟨[(.Keystore, key)], .take, tidy_call hlinked fun signed => ⟨_, .use List.mem_cons_self, ?_⟩⟩
  rcases signed with (_ | _) | signature
  · exact hdrop
  · exact hdrop
  refine tidy_call hlinked fun second => ?_
  rcases second with _ | other
  · exact ⟨_, .pass, hdrop⟩
  · exact ⟨_, .take, tidy_call hlinked fun _ => ⟨_, lease_last, hdrop⟩⟩

theorem tidy_if {c : Prop} [Decidable c] {drop : Prog Wit Unit} (hp : Tidy linker n held (dropping drop p))
    (hq : Tidy linker n held (dropping drop q)) : Tidy linker n held (dropping drop (if c then p else q)) := by
  split
  · exact hp
  · exact hq

theorem fs_probe_tidy (hlinked : Interface.filesystem ∈ linker) (debug : ErrorCode → String) :
    Tidy linker 9 [] (confined_fs_guest.probe debug) := by
  refine tidy_call hlinked fun opened => ?_
  rcases opened with _ | file
  · exact ⟨[], .pass, tidy_ret⟩
  have hdrop : ∀ {n report}, Tidy linker (n + 1) [(.Filesystem, file)]
      (dropping (ask (.fileDrop file)) (return report)) :=
    tidy_call hlinked fun _ => ⟨[], lease_last, tidy_ret⟩
  have huse : (ServiceEndpoint.Filesystem, file) ∈ [(ServiceEndpoint.Filesystem, file)] := List.mem_cons_self
  refine ⟨_, .take, tidy_call hlinked fun fresh => ⟨_, .use huse, ?_⟩⟩
  rcases fresh with e | bytes
  · exact hdrop
  refine tidy_if hdrop (tidy_call hlinked fun wrote => ⟨_, .use huse, ?_⟩)
  rcases wrote with e | ⟨⟩
  · exact hdrop
  refine tidy_call hlinked fun back => ⟨_, .use huse, ?_⟩
  rcases back with e | bytes
  · exact hdrop
  refine tidy_if hdrop (tidy_call hlinked fun oversized => ⟨_, .use huse, ?_⟩)
  rcases oversized with (_ | _) | ⟨⟩
  · exact hdrop
  · refine tidy_call hlinked fun kept => ⟨_, .use huse, ?_⟩
    rcases kept with e | bytes
    · exact hdrop
    refine tidy_if hdrop (tidy_call hlinked fun second => ?_)
    rcases second with _ | other
    · exact ⟨_, .pass, hdrop⟩
    · exact ⟨_, .take, tidy_call hlinked fun _ => ⟨_, lease_last, hdrop⟩⟩
  · exact hdrop

/-- The most calls that the guest of an interface makes. -/
def mostCalls : ServiceEndpoint → Nat
  | .Keystore => 5
  | .Filesystem => 9

theorem guest_tidy {s : ServiceEndpoint} (hlinked : resourceInterface s ∈ linker) (debug : ErrorCode → String) :
    Tidy linker (mostCalls s) [] (guestOf debug s) := by
  cases s with
  | Keystore => exact probe_tidy hlinked
  | Filesystem => exact fs_probe_tidy hlinked debug

end Guests

/-- Whatever the service answers, and whatever else is in the table: the guest of a linked interface uses and
drops only what it holds, and gives all of it back; it makes no more than its calls, however the run ends; and
with the fuel for them and for what it burns it comes back with a report, unless the host panics. Then every handle
leads to what it led to before. -/
theorem guest_comes_back [Crates] {T : ResourceTable} {granted : Bool} {debug : ErrorCode → String}
    {s : ServiceEndpoint} {linker : Linker} {st : RuntimeState T World} {fuel : Nat} {name : String}
    {current : Prog Wit String} {tr : Confined.Events} {o : Outcome (Store T × Option String)}
    (hst : Attached granted st) (hlinked : resourceInterface s ∈ linker)
    (hr : Runs (guest_run linker st fuel (.call name)) tr o) (hplays : Plays (guestOf debug s) current tr) :
    Follows Leased (fun _ held => held = []) (guestOf debug s) [] ∧
    hostCalls tr ≤ mostCalls s ∧
    ∀ store result, o = .ret (store, result) → mostCalls s + burnt tr < fuel →
      (∃ report, result = some report) ∧ (∀ r, T.get store.state.table r = T.get st.table r) ∧
      fuel ≤ store.fuel + mostCalls s + burnt tr + 1 := by
  have htidy : Tidy linker (mostCalls s) [] (guestOf debug s) := guest_tidy hlinked debug
  refine ⟨htidy.leased, tidy_calls hst rfl htidy lent_nil hr hplays, ?_⟩
  rintro store result rfl hfuel
  obtain ⟨hreport, -, hlent, hleft⟩ := tidy_run hst rfl htidy lent_nil hfuel hr hplays
  exact ⟨hreport, hlent.returned, hleft⟩

/-- A guest that finds no key at slot 0. -/
theorem guest_comes_back_declined :
    letI := lengthPrefixed
    let st := stateOf demoTable .Keystore [⟨"signer"⟩] false
    ∃ tr store result, Runs (guest_run [.keystore] st 6 (.call "probe")) tr (.ret (store, result)) ∧
      Follows Leased (fun _ held => held = []) (guestOf demoDebug .Keystore) [] ∧ hostCalls tr ≤ 5 ∧
      (∃ report, result = some report) ∧ (∀ r, demoTable.get store.state.table r = demoTable.get st.table r) ∧
      6 ≤ store.fuel + 5 + 1 := by
  let _ := lengthPrefixed
  let st := stateOf demoTable .Keystore [⟨"signer"⟩] false
  have hst : Attached false st := attached_state demoTable .Keystore [⟨"signer"⟩] false
  have hopen : Runs (call st (.keystoreOpen 0)) [] (.ret (st, .opened none)) := .ret _
  have hwit : Runs (entered (guestOf demoDebug .Keystore) (.ret "") (.call "probe")) [⟨.keystoreOpen 0, none⟩]
      (.ret "error: the manifest granted no key at keystore slot 0") :=
    confined_probe_guest.runs_probe.2 ⟨_, rfl, .no_key⟩
  obtain ⟨tr, hr, hplays, -, hburnt⟩ : ∃ tr, Runs (guest_run [.keystore] st 6 (.call "probe")) tr
      (.ret (⟨st, 4⟩, some "error: the manifest granted no key at keystore slot 0")) ∧
      Plays (guestOf demoDebug .Keystore) (.ret "") tr ∧ outside tr = [] ∧ burnt tr = 0 :=
    run_of_carried hst (.cons hopen rfl .nil) hwit (by decide)
  obtain ⟨hleased, hcalls, hback⟩ := guest_comes_back hst (by decide) hr hplays
  have hend := hback _ _ rfl (by rw [hburnt]; decide)
  rw [hburnt] at hend
  exact ⟨tr, _, _, hr, hleased, hcalls, hend⟩

end LanternRuntime.Guests

import LanternRuntime.ProgLib.Rely
import LanternRuntime.Host.Hostile
import LanternRuntime.Guests.Hosted
/-!
# Honest deployments

A `Deployment` is a package, what it asks for, and the guest inside. `honest` is
what a launch of it relies on: the package verifies, the binder grants the slot
once, the service does what it is asked until the grant is revoked and nothing
after, and Wasmtime runs the guest. Then every run signals `SUCCESS`.
-/
open ProgLib

namespace LanternRuntime.Guests
open Host Confined

/-! ## What a launch relies on -/

structure Deployment where
  interface : ServiceEndpoint
  /-- The launcher, the decoder and the verifier. -/
  checks : Checks
  package : PackageRef
  plan : GrantPlan
  guest : Prog Wit String

/-- What there is to remember: where the guest is, whether the slot was granted and then revoked, what the file
holds, and how much fuel the guest may yet burn besides its moves. -/
structure Scene where
  current : Prog Wit String
  bound : Bool
  revoked : Bool
  content : Bytes
  spare : Nat

/-- The most moves that a guest makes in an honest launch, its instantiation among them. -/
def HONEST_MOVES : Nat := 14

/-- Nothing has been granted, and the file is empty. -/
def Scene.start : Scene := ⟨.ret "", false, false, [], DEFAULT_FUEL - HONEST_MOVES⟩

/-- The guest moved, and is at `p` now. -/
def Scene.enter (w : Scene) (p : Prog Wit String) : GuestMove → Scene
  | .work => { w with current := p, spare := w.spare - 1 }
  | _ => { w with current := p }

@[simp] theorem Scene.enter_move (w : Scene) (p q : Prog Wit String) : w.enter p (move q) = { w with current := p } := by
  cases q <;> rfl

theorem Scene.enter_current (w : Scene) (p : Prog Wit String) (m : GuestMove) : (w.enter p m).current = p := by
  cases m <;> rfl

section Honest
variable [Crates] [Abi]

/-- The service signs, reads and writes as long as the grant stands. It never encrypts. -/
def serves (interface : ServiceEndpoint) (w : Scene) (op : UInt16) {n : Nat} (x : Reply n) : Prop :=
  match interface with
  | .Keystore =>
    (op = Crates.OP_ENCRYPT → ∃ len, x.2 = .ok (Crates.crypto_ACCESS, len)) ∧
    (op = Crates.OP_SIGN → if w.revoked then ∃ len, x.2 = .ok (Crates.crypto_ACCESS, len)
      else ∃ len ≤ n, x.2 = .ok (Crates.crypto_OK, len))
  | .Filesystem =>
    (op = Crates.OP_READ → if w.revoked then ∃ len, x.2 = .ok (Crates.fs_ACCESS, len)
      else ∃ len, x.2 = .ok (Crates.fs_OK, len) ∧ x.1.val.take len = w.content) ∧
    (op = Crates.OP_WRITE → ∃ len, x.2 = .ok (if w.revoked then Crates.fs_ACCESS else Crates.fs_OK, len))

def Deployment.answers (d : Deployment) (w : Scene) : (c : WorldCall) → c.Ans → Prop
  | .parse_bytes manifest, plan => manifest = d.package.manifest_bytes → plan = some d.plan
  | .bind .., granted => granted = .ok !w.bound
  | .request_grant .., answer => ∃ badge, answer = .ok (Abi.status_ACCESS, badge)
  | .list .., entry => entry = .ok none
  | .revoke .., revoked => revoked ≠ .ok Abi.status_OK
  | .channel _ op _ reply, x => serves (n := reply.length) d.interface w op x
  | .call_with_label .., label => ∃ l : UInt32, label = .ok l ∧
    l.toUInt16 = if w.revoked then Abi.status_ACCESS else Abi.status_OK
  | .signal _, done | .wait _, done => done = .ok ()
  | .deserialize cwasm, component => cwasm = d.package.cwasm_bytes → ∃ c : Component, component = .ok c
  | .add_to_linker _, ok | .define_unknown_imports_as_traps _, ok | .set_fuel _, ok | .get_typed_func _, ok => ok = true
  | .guest input, m => (m = .work ∧ 0 < w.spare) ∨ m = move (entered d.guest w.current input)
  | _, _ => True

/-- A file holds what was written last. -/
def Deployment.served (d : Deployment) (w : Scene) (op : UInt16) (request : Bytes) : Scene :=
  if d.interface = .Filesystem ∧ op = Crates.OP_WRITE then { w with content := request } else w

/-- The grant is revoked while the program waits for it. -/
def Deployment.next (d : Deployment) (w : Scene) : (c : WorldCall) → c.Ans → Scene
  | .bind .., _ => { w with bound := true }
  | .wait _, _ => { w with revoked := true }
  | .channel _ op request _, _ => d.served w op request
  | .guest input, m => w.enter (entered d.guest w.current input) m
  | _, _ => w

def honest (d : Deployment) : Rely World Scene where
  allows w c ans := d.checks.Answer ⟨c, ans⟩ ∧ d.answers w c ans
  next := d.next

/-- The package is accepted, its tampered copy is not, and it asks for the one interface. -/
structure Deployment.Sound (d : Deployment) (len : Nat) : Prop where
  decodes : d.checks.Decodes len d.package
  trusted : d.checks.trusts d.package = true
  tampered : ¬ d.checks.trusts (forge d.package) = true
  declared : d.plan.declared = some d.interface

/-- The codes that tell replies apart are different. -/
structure Codes : Prop where
  crypto : Crates.crypto_ACCESS ≠ Crates.crypto_OK
  fs : Crates.fs_ACCESS ≠ Crates.fs_OK
  ops : Crates.OP_READ ≠ Crates.OP_WRITE

end Honest

/-- The table has room for one entry, and again once that is deleted. -/
structure Roomy (T : ResourceTable) : Prop where
  first : ∀ entry, ∃ handle table, T.push T.new entry = some (handle, table)
  again : ∀ {entry handle table}, T.push T.new entry = some (handle, table) →
    ∀ want, ∃ handle' table', T.push (T.delete table want handle).2 entry = some (handle', table')

/-! ## Up to the grant -/

section Steps
variable {R : Rely World Scene} {w : Scene} {ε ε' α : Type}

theorem assured_orElse {M : Scene → α → Prop} {p : Prog World (Except ε α)} {e : ε'}
    (hp : Assured R (Succeeds M) p w) : Assured R (Succeeds M) (orElse p e).run w := by
  refine Assured.lift hp ?_
  rintro w x ⟨a, rfl, ha⟩
  exact Succeeds.intro ha

theorem assured_orFail {M : Scene → Unit → Prop} {p : Prog World Bool} {e : ε'}
    (hp : Assured R (fun w b => b = true ∧ M w ()) p w) : Assured R (Succeeds M) (orFail p e).run w := by
  refine Assured.lift hp ?_
  rintro w b ⟨rfl, hM⟩
  exact Succeeds.intro hM

theorem assured_require {Q : Scene → Except (Stage × Nat) α → Prop} {condition : Bool} {e : Stage × Nat}
    {f : Unit → StageResult α} (hc : condition = true) (hf : Assured R Q (f ()).run w) :
    Assured R Q (require condition e >>= f).run w := by
  rw [require_bind, if_pos hc]
  exact hf

theorem assured_passes {M : Scene → Unit → Prop} {condition : Bool} {e : Stage × Nat} (hc : condition = true)
    (hM : M w ()) : Assured R (Succeeds M) (require condition e).run w := by
  rw [hc]
  exact Succeeds.intro hM

end Steps

section Launch
variable [Crates] [Abi] {T : ResourceTable} {d : Deployment} {w : Scene} {len : Nat}

theorem assured_verify (hd : d.Sound len) : Assured (honest d)
    (Succeeds fun w' p => w' = w ∧ p = ⟨d.package.manifest_bytes, d.package.cwasm_bytes⟩) (verify_package len).run w := by
  have hcomputed : d.checks.computed len = .ok ⟨d.package.manifest_bytes, d.package.cwasm_bytes⟩ := by
    obtain ⟨hpos, hle, hsome⟩ := hd.decodes
    have hlen : len ≠ 0 ∧ len ≤ PACKAGE_MAX_LEN := ⟨Nat.pos_iff_ne_zero.1 hpos, hle⟩
    unfold Checks.computed
    simp only [if_pos hlen, hsome, if_neg hd.tampered, if_pos hd.trusted]
  have hreturns : Returns d.checks.Answer (· = d.checks.computed len) (verify_package len).run :=
    verify_package_returns len
  refine (hreturns.assured (verify_package_only len) ?_ ?_).mono ?_
  · exact fun c ans _ h => h.1
  · intro c ans hc
    cases c <;> first | rfl | cases hc
  · rintro w' x ⟨rfl, rfl⟩
    exact ⟨_, hcomputed, rfl, rfl⟩

theorem assured_plan : Assured (honest d) (Succeeds fun w' plan => w' = w ∧ plan = d.plan)
    (VerifiedPackage.plan ⟨d.package.manifest_bytes, d.package.cwasm_bytes⟩).run w := by
  rintro plan ⟨-, hplan⟩
  obtain rfl : plan = some d.plan := hplan rfl
  exact Succeeds.intro ⟨rfl, rfl⟩

/-- The slot is granted, once. -/
theorem assured_request (hw : w.bound = false) (interface : Nat) : Assured (honest d)
    (Succeeds fun w' granted => w' = { w with bound := true } ∧ granted = true) (request_grant interface).run w := by
  refine Assured.andThen (M := fun w' granted => w' = { w with bound := true } ∧ granted = true) ?_ ?_
  · refine assured_orElse ?_
    rintro granted ⟨-, hgranted⟩
    obtain rfl : granted = .ok !w.bound := hgranted
    rw [hw]
    exact Succeeds.intro ⟨rfl, rfl⟩
  rintro _ _ ⟨rfl, rfl⟩
  change Assured _ _ (self_checks interface).run _
  refine Assured.andThen (M := fun w' again => w' = { w with bound := true } ∧ again = false) ?_ ?_
  · refine assured_orElse ?_
    rintro again ⟨-, hagain⟩
    obtain rfl : again = .ok false := hagain
    exact Succeeds.intro ⟨rfl, rfl⟩
  rintro _ _ ⟨rfl, rfl⟩
  refine assured_require rfl ?_
  rintro answer ⟨-, badge, hanswer⟩
  obtain rfl : answer = .ok (Abi.status_ACCESS, badge) := hanswer
  refine assured_require (decide_eq_true rfl) ?_
  rintro entry ⟨-, hentry⟩
  obtain rfl : entry = .ok none := hentry
  refine assured_require rfl ?_
  rintro revoked ⟨-, (hrevoked : revoked ≠ .ok Abi.status_OK)⟩
  refine assured_require ?_ (Succeeds.intro ⟨rfl, rfl⟩)
  cases revoked with
  | error e => rfl
  | ok status => exact decide_eq_true fun he => hrevoked (congrArg Except.ok he)

omit [Abi] in
theorem replied_ok {n len : Nat} {x : Reply n} (hx : x.2 = .ok (Crates.crypto_OK, len)) (hlen : len ≤ n) :
    (replied x : Prog World _) = .ret (.ok (x.1.val.take len)) := by
  have hle : len ≤ x.1.val.length := by
    rw [x.1.property]
    exact hlen
  simp [replied, hx, slice_to_le hle]

omit [Abi] in
theorem replied_access (hcodes : Codes) {n len : Nat} {x : Reply n} (hx : x.2 = .ok (Crates.crypto_ACCESS, len)) :
    (replied x : Prog World _) = .ret (.error (.RemoteDenied Crates.crypto_ACCESS)) := by
  simp [replied, hx, hcodes.crypto]

/-- What the service answers, and what it makes of the request. -/
theorem assured_channel {α : Type} {Q : Scene → α → Prop} {op : UInt16} {request reply : Bytes}
    {f : Reply reply.length → Prog World α}
    (h : ∀ x : Reply reply.length, serves d.interface w op x → Assured (honest d) Q (f x) (d.served w op request)) :
    Assured (honest d) Q ((channelTo DEST_CPTR).call op request reply >>= f) w :=
  fun x hx => h x hx.2

/-- A key that may only sign does not encrypt. -/
theorem assured_check (hsized : SizedEncoders) (hcodes : Codes) : Assured (honest d)
    (Succeeds fun w' _ => w' = w) (checkOf d.interface true).run w := by
  cases hs : d.interface with
  | Filesystem => exact Succeeds.intro rfl
  | Keystore =>
    obtain ⟨request, heq⟩ := encrypt_eq hsized (channelTo DEST_CPTR) 0 (.from_raw 0) (zeros NONCE_LEN) []
      ("not granted".toList.map Char.toUInt8)
    have hown : own_encrypt = _ := heq
    rw [check_granted, hown, Prog.bind_assoc]
    refine assured_channel fun x hx => ?_
    rw [hs] at hx
    obtain ⟨len, hx⟩ := hx.1 rfl
    rw [replied_access hcodes hx, Deployment.served, hs]
    exact ⟨(), attenuation_ok.2 rfl, if_neg nofun⟩

/-! ## Linking -/

theorem assured_link (condition : Bool) (interface : Interface) (linker : Linker) : Assured (honest d)
    (Succeeds fun w' linker' => w' = w ∧ linker' = linker ++ if condition then [interface] else [])
    (link_if condition interface linker).run w := by
  cases condition with
  | false => exact Succeeds.intro ⟨rfl, (List.append_nil linker).symm⟩
  | true =>
    refine Assured.andThen (M := fun w' _ => w' = w) (assured_orFail ?_) ?_
    · rintro ok ⟨-, hok⟩
      exact ⟨hok, rfl⟩
    · rintro _ _ rfl
      exact Succeeds.intro ⟨rfl, rfl⟩

theorem assured_linker (manifest : GrantManifest) : Assured (honest d)
    (Succeeds fun w' linker => w' = w ∧ linker = interfacesOf manifest) (build_linker manifest).run w := by
  refine Assured.andThen (assured_link _ _ _) ?_
  rintro _ _ ⟨rfl, rfl⟩
  refine Assured.andThen (assured_link _ _ _) ?_
  rintro w _ ⟨rfl, rfl⟩
  refine (assured_link _ _ _).mono ?_
  rintro _ _ ⟨linker, rfl, rfl, rfl⟩
  refine Succeeds.intro ⟨rfl, ?_⟩
  unfold interfacesOf
  cases manifest.keystore_keys.isEmpty <;> cases manifest.filesystem_files.isEmpty <;> simp

end Launch

/-! ## The guest -/

section Guest
variable [Crates] [Abi] {T : ResourceTable} {d : Deployment} {w : Scene} {linker : Linker}
  {st st' : RuntimeState T World} {fuel : Nat} {c : GuestCall} {k : Ans c → Prog Wit String}
  {Q : Scene → Store T × Option String → Prop}

/-- Hosting the guest from `p` on ends in `Q`, if it burns no more than it may. -/
def Hosts (d : Deployment) (linker : Linker) (Q : Scene → Store T × Option String → Prop) (st : RuntimeState T World)
    (fuel : Nat) (p : Prog Wit String) (w : Scene) : Prop :=
  ∀ input current spare, spare ≤ w.spare → entered d.guest current input = p →
    Assured (honest d) Q (guest_run linker st (fuel + spare) input) { w with current := current, spare := spare }

theorem Hosts.less {p current : Prog Wit String} {spare : Nat} (h : Hosts d linker Q st fuel p w)
    (hle : spare ≤ w.spare) : Hosts d linker Q st fuel p { w with current := current, spare := spare } :=
  fun input current' spare' hle' => h input current' spare' (Nat.le_trans hle' hle)

/-- The next move, after as much work as the guest may do. -/
theorem hosts_move {p : Prog Wit String} (h : ∀ spare ≤ w.spare, Assured (honest d) Q
      (moved linker st (fuel + spare) (move p)) { w with current := p, spare := spare }) :
    Hosts d linker Q st (fuel + 1) p w := by
  intro input current spare hle he
  -- By induction on what it may burn. Once it does not work, it makes the move of `p`.
  have hmove : ∀ {input current spare}, spare ≤ w.spare → entered d.guest current input = p →
      Assured (honest d) Q (moved linker st (fuel + spare) (move (entered d.guest current input)))
        ((honest d).next { w with current := current, spare := spare } (.guest input)
          (move (entered d.guest current input))) := by
    intro input current spare hle he
    have hnext := h spare hle
    change Assured _ _ _ (Scene.enter _ _ _)
    rw [Scene.enter_move, he]
    exact hnext
  induction spare generalizing input current with
  | zero =>
    rw [Nat.add_zero, guest_run_moved]
    rintro m ⟨-, ⟨-, hspare⟩ | hm⟩
    · exact absurd hspare (Nat.lt_irrefl 0)
    · obtain rfl : m = move (entered d.guest current input) := hm
      exact hmove hle he
  | succ spare ih =>
    rw [Nat.add_right_comm, guest_run_moved]
    rintro m ⟨-, ⟨hm, -⟩ | hm⟩
    · obtain rfl : m = .work := hm
      have hnext := ih .proceed p (Nat.le_of_succ_le hle) rfl
      rw [Nat.add_right_comm, ← he] at hnext
      exact hnext
    · obtain rfl : m = move (entered d.guest current input) := hm
      exact hmove hle he

theorem hosts_ret {report : String}
    (hQ : ∀ spare ≤ w.spare, Q { w with current := .ret report, spare := spare } (⟨st, fuel + spare⟩, some report)) :
    Hosts d linker Q st (fuel + 1) (.ret report) w :=
  hosts_move hQ

/-- A call, and the rest of the guest with its answer. -/
theorem hosts_call (hlinked : interfaceOf c ∈ linker) (hcall : ∀ spare ≤ w.spare, Assured (honest d)
      (fun w' x => w'.current = .call c k ∧ w'.spare = spare ∧
        ∃ ans, answer c x.2 = some ans ∧ Hosts d linker Q x.1 fuel (k ans) w')
      (call st c) { w with current := .call c k, spare := spare }) : Hosts d linker Q st (fuel + 1) (.call c k) w := by
  refine hosts_move fun spare hle => ?_
  change Assured _ _ (if interfaceOf c ∈ linker then _ else _) _
  rw [if_pos hlinked]
  refine (hcall spare hle).bind ?_
  rintro w' ⟨st', reply⟩ ⟨hcurrent, rfl, ans, hans, hrest⟩
  dsimp only
  rw [if_neg (answer_not_dropped hans)]
  have hresumed : entered d.guest (.call c k) (.resume reply) = k ans := entered_resume hans
  exact hrest (.resume reply) w'.current w'.spare (Nat.le_refl _) (hcurrent ▸ hresumed)

/-- A call that the host answers on its own. -/
theorem hosts_silent (hlinked : interfaceOf c ∈ linker) {reply : GuestReply} {ans : Ans c}
    (hcall : call st c = .ret (st', reply)) (hans : answer c reply = some ans)
    (hrest : Hosts d linker Q st' fuel (k ans) w) : Hosts d linker Q st (fuel + 1) (.call c k) w := by
  refine hosts_call hlinked fun spare hle => ?_
  rw [hcall]
  exact ⟨rfl, rfl, ans, hans, hrest.less hle⟩

/-! ### Its calls -/

omit [Abi] in
theorem call_keyOpened {slot : UInt32} {cap : HostCapability} {key : Handle} {table : T.Table}
    (hslot : st.keys[slot.toNat]? = some (some cap)) (hpush : T.push st.table (.key cap) = some (key, table)) :
    call st (.keystoreOpen slot) = .ret ({ st with table := table }, .opened (some key)) := by
  simp only [call, keystore.open, RuntimeState.open_slot, hslot, Option.join_some, hpush, Prog.pure_eq]

omit [Abi] in
theorem call_fileOpened {slot : UInt32} {cap : HostFile} {file : Handle} {table : T.Table}
    (hslot : st.files[slot.toNat]? = some (some cap)) (hpush : T.push st.table (.file cap) = some (file, table)) :
    call st (.filesystemOpen slot) = .ret ({ st with table := table }, .opened (some file)) := by
  simp only [call, filesystem.open, RuntimeState.open_slot, hslot, Option.join_some, hpush, Prog.pure_eq]

omit [Abi] in
theorem call_keyDeclined {slot : UInt32} (hslot : st.keys[slot.toNat]?.join = none) :
    call st (.keystoreOpen slot) = .ret (st, .opened none) := by
  simp only [call, keystore.open, RuntimeState.open_slot, hslot, Prog.pure_eq]

omit [Abi] in
theorem call_fileDeclined {slot : UInt32} (hslot : st.files[slot.toNat]?.join = none) :
    call st (.filesystemOpen slot) = .ret (st, .opened none) := by
  simp only [call, filesystem.open, RuntimeState.open_slot, hslot, Prog.pure_eq]

omit [Abi] in
theorem call_keyDropped {key : Handle} {cap : HostCapability} (hget : T.get st.table key = some (.key cap)) :
    call st (.keyDrop key) =
      .ret ({ st with table := (T.delete st.table Entry.isKey key).2 }, .dropped true) := by
  have hfound : (T.delete st.table Entry.isKey key).1 = true := (T.delete_present hget rfl).1
  simp only [call, keystore.drop, RuntimeState.drop_handle, hfound, Prog.pure_eq]

omit [Abi] in
theorem call_fileDropped {file : Handle} {cap : HostFile} (hget : T.get st.table file = some (.file cap)) :
    call st (.fileDrop file) =
      .ret ({ st with table := (T.delete st.table Entry.isFile file).2 }, .dropped true) := by
  have hfound : (T.delete st.table Entry.isFile file).1 = true := (T.delete_present hget rfl).1
  simp only [call, filesystem.drop, RuntimeState.drop_handle, hfound, Prog.pure_eq]

/-- What the service makes of a signature that is asked of it. -/
theorem hosts_sign (hcodes : Codes) (hs : d.interface = .Keystore) (hst : Serviced st .Keystore)
    (hlinked : .keystore ∈ linker) {key : Handle} {message : WitList} {cap : HostCapability}
    {k : Ans (.sign key message) → Prog Wit String} (hget : T.get st.table key = some (.key cap))
    (hok : w.revoked = false → ∀ signature, Hosts d linker Q st fuel (k (.ok signature)) w)
    (hdenied : w.revoked = true → Hosts d linker Q st fuel (k (.error .Access)) w) :
    Hosts d linker Q st (fuel + 1) (.call (.sign key message) k) w := by
  refine hosts_call hlinked fun spare hle => ?_
  rw [call_sign hget hst]
  refine assured_channel fun x hx => ?_
  rw [hs] at hx
  have hserved : ∀ w : Scene, d.served w Crates.OP_SIGN (Crates.encode_sign_request message) = w :=
    fun w => if_neg (by simp [hs])
  have hx : if w.revoked then ∃ len, x.2 = .ok (Crates.crypto_ACCESS, len)
      else ∃ len ≤ (zeros SIGNATURE_LEN).val.length, x.2 = .ok (Crates.crypto_OK, len) := hx.2 rfl
  rw [hserved]
  by_cases hrevoked : w.revoked = true
  · rw [if_pos hrevoked] at hx
    obtain ⟨len, hx⟩ := hx
    rw [replied_access hcodes hx]
    refine ⟨rfl, rfl, .error .Access, ?_, (hdenied hrevoked).less hle⟩
    simp [answer, signed, Except.map, Except.mapError, to_error_code]
  · rw [if_neg hrevoked] at hx
    obtain ⟨len, hlen, hx⟩ := hx
    rw [replied_ok hx hlen]
    exact ⟨rfl, rfl, _, rfl, (hok (Bool.eq_false_iff.2 hrevoked) _).less hle⟩

theorem hosts_read (hcodes : Codes) (hs : d.interface = .Filesystem) (hst : Serviced st .Filesystem)
    (hlinked : .filesystem ∈ linker) {file : Handle} {cap : HostFile}
    {k : Ans (.read file) → Prog Wit String} (hget : T.get st.table file = some (.file cap))
    {content : Bytes} (hcontent : w.content = content)
    (hok : w.revoked = false → Hosts d linker Q st fuel (k (.ok content)) w)
    (hdenied : w.revoked = true → Hosts d linker Q st fuel (k (.error .Access)) w) :
    Hosts d linker Q st (fuel + 1) (.call (.read file) k) w := by
  refine hosts_call hlinked fun spare hle => ?_
  rw [call_read hget hst]
  refine assured_channel fun x hx => ?_
  rw [hs] at hx
  have hserved : ∀ w : Scene, d.served w Crates.OP_READ [] = w := fun w => if_neg fun h => hcodes.ops h.2
  have hx : if w.revoked then ∃ len, x.2 = .ok (Crates.fs_ACCESS, len)
      else ∃ len, x.2 = .ok (Crates.fs_OK, len) ∧ x.1.val.take len = w.content := hx.1 rfl
  rw [hserved]
  by_cases hrevoked : w.revoked = true
  · rw [if_pos hrevoked] at hx
    obtain ⟨len, hx⟩ := hx
    refine ⟨rfl, rfl, .error .Access, ?_, (hdenied hrevoked).less hle⟩
    simp [answer, fs_replied, hx, hcodes.fs, readBack, to_fs_error_code]
  · rw [if_neg hrevoked] at hx
    obtain ⟨len, hx, hread⟩ := hx
    refine ⟨rfl, rfl, .ok content, ?_, (hok (Bool.eq_false_iff.2 hrevoked)).less hle⟩
    simp [answer, fs_replied, hx, readBack, hread, hcontent]

/-- What is written can be read from then on. -/
theorem hosts_write (hs : d.interface = .Filesystem) (hst : Serviced st .Filesystem)
    (hlinked : .filesystem ∈ linker) {file : Handle} {data : WitList} {cap : HostFile}
    {k : Ans (.write file data) → Prog Wit String} (hget : T.get st.table file = some (.file cap))
    (hdata : data.val.length ≤ MAX_BLOCK_LEN) (hrevoked : w.revoked = false)
    (hok : Hosts d linker Q st fuel (k (.ok ())) { w with content := data.val }) :
    Hosts d linker Q st (fuel + 1) (.call (.write file data) k) w := by
  refine hosts_call hlinked fun spare hle => ?_
  rw [call_write hget hst hdata]
  refine assured_channel fun x hx => ?_
  rw [hs] at hx
  have hserved : ∀ w : Scene, d.served w Crates.OP_WRITE data.val = { w with content := data.val } :=
    fun w => if_pos ⟨hs, rfl⟩
  obtain ⟨len, hx⟩ : ∃ len, x.2 = .ok (if w.revoked then Crates.fs_ACCESS else Crates.fs_OK, len) := hx.2 rfl
  rw [hserved]
  refine ⟨rfl, rfl, .ok (), ?_, hok.less hle⟩
  simp [answer, fs_replied, hx, hrevoked, written, Except.map, Except.mapError]

/-- What is too long is not sent. -/
theorem hosts_oversized (hlinked : .filesystem ∈ linker) {file : Handle} {data : WitList} {cap : HostFile}
    {k : Ans (.write file data) → Prog Wit String} (hget : T.get st.table file = some (.file cap))
    (hdata : MAX_BLOCK_LEN < data.val.length) (hrest : Hosts d linker Q st fuel (k (.error .Invalid)) w) :
    Hosts d linker Q st (fuel + 1) (.call (.write file data) k) w := by
  have hmalformed : (GuestCall.write file data).wellFormed = false := decide_eq_false (Nat.not_le.2 hdata)
  exact hosts_silent hlinked (call_malformed rfl hget rfl hmalformed) rfl hrest

end Guest

/-! ### Its two probes -/

open confined_fs_guest in
theorem content_fits : CONTENT.val.length ≤ MAX_BLOCK_LEN := by decide

open confined_fs_guest in
theorem oversized_long : MAX_BLOCK_LEN < OVERSIZED.val.length := by
  rw [OVERSIZED, List.length_replicate]
  decide

/-- What a grant puts into slot 0. -/
def entryOf : ServiceEndpoint → Entry
  | .Keystore => .key (.keystore_key 0 (.from_raw 0))
  | .Filesystem => .file (.filesystem_file 0 (.from_raw 0))

def wantOf : ServiceEndpoint → Entry → Bool
  | .Keystore => Entry.isKey
  | .Filesystem => Entry.isFile

theorem slots_other {α : Type} (n : Nat) (granted : Bool) (grant : α) : (slots n granted grant)[1]?.join = none := by
  unfold slots
  rw [List.getElem?_map]
  cases h : (List.range n)[1]? with
  | none => rfl
  | some i =>
    obtain ⟨_, rfl⟩ := List.getElem?_eq_some_iff.1 h
    simp

section Probes
variable [Crates] [Abi] {T : ResourceTable} {d : Deployment} {w : Scene} {s : ServiceEndpoint} {fuel : Nat}
  {requests : List ResourceRequest} {table table' : T.Table} {handle : Handle} {debug : ErrorCode → String}
  {Q : Scene → Store T × Option String → Prop}

/-- While the grant stands, either guest passes. -/
theorem hosts_used (hcodes : Codes) (hs : d.interface = s) (hne : requests ≠ [])
    (hpush : T.push table (entryOf s) = some (handle, table')) (hrevoked : w.revoked = false) (hempty : w.content = [])
    (hQ : ∀ current content spare fuel' report, spare ≤ w.spare → fuel + spare ≤ fuel' →
      check_report report (probeOf s).required = .ok () →
      Q { w with current := current, content := content, spare := spare }
        (⟨{ stateOf T s requests true with table := (T.delete table' (wantOf s) handle).2 }, fuel'⟩, some report)) :
    Hosts d [resourceInterface s] Q { stateOf T s requests true with table := table } (fuel + 9) (guestOf debug s) w := by
  have hpos : 0 < requests.length := List.length_pos_iff.2 hne
  have hserviced := fun table => (serviced_state s requests : Serviced (stateOf T s requests true) s).moved table
  cases s with
  | Keystore =>
    have hlinked : Interface.keystore ∈ [resourceInterface .Keystore] := List.mem_singleton.2 rfl
    have hget := T.get_push_self hpush
    refine hosts_silent hlinked (call_keyOpened (slots_zero hpos _) hpush) rfl ?_
    refine hosts_sign hcodes hs (hserviced table') hlinked hget (fun _ signature => ?_) ?_
    · refine hosts_silent hlinked (call_keyDeclined (slots_other _ _ _)) rfl ?_
      refine hosts_silent hlinked (call_keyDropped hget) rfl ?_
      have hreport : confined_probe_guest.Reports [⟨.keystoreOpen 0, some handle⟩,
          ⟨.sign handle confined_probe_guest.MESSAGE, .ok signature⟩, ⟨.keystoreOpen 1, none⟩, ⟨.keyDrop handle, ()⟩]
          (confined_probe_guest.signed signature "none") := .signed
      exact hosts_ret fun spare hle =>
        hQ _ _ spare (fuel + 4 + spare) _ hle (by omega) (hreport.passes.2 ⟨handle, signature, rfl⟩)
    · intro htrue
      rw [hrevoked] at htrue
      cases htrue
  | Filesystem =>
    have hlinked : Interface.filesystem ∈ [resourceInterface .Filesystem] := List.mem_singleton.2 rfl
    have hget := T.get_push_self hpush
    have hread : ∀ {w : Scene} {p : Prop}, w.revoked = false → w.revoked = true → p := by
      intro w p hfalse htrue
      rw [hfalse] at htrue
      cases htrue
    refine hosts_silent hlinked (call_fileOpened (slots_zero hpos _) hpush) rfl ?_
    refine hosts_read hcodes hs (hserviced table') hlinked hget hempty (fun _ => ?_) (hread hrevoked)
    refine hosts_write hs (hserviced table') hlinked hget content_fits hrevoked ?_
    refine hosts_read hcodes hs (hserviced table') hlinked hget rfl (fun _ => ?_) (hread hrevoked)
    refine hosts_oversized hlinked hget oversized_long ?_
    refine hosts_read hcodes hs (hserviced table') hlinked hget rfl (fun _ => ?_) (hread hrevoked)
    refine hosts_silent hlinked (call_fileDeclined (slots_other _ _ _)) rfl ?_
    refine hosts_silent hlinked (call_fileDropped hget) rfl ?_
    have hreport := @confined_fs_guest.Reports.intact debug handle
    exact hosts_ret fun spare hle => hQ _ _ spare _ _ hle (Nat.le_refl _) (hreport.passes.2 ⟨handle, rfl⟩)

/-- Once it is revoked, either guest reports that it was denied. -/
theorem hosts_shut (haccess : contains (debug .Access) "\"access\"" = true)
    (hinvalid : contains (debug .Invalid) "\"access\"" = false) (hcodes : Codes) (hs : d.interface = s)
    (hne : requests ≠ []) (hpush : T.push table (entryOf s) = some (handle, table')) (hrevoked : w.revoked = true)
    (hQ : ∀ w' store report, refusal report (probeOf s).refused = true → Q w' (store, some report)) :
    Hosts d [resourceInterface s] Q { stateOf T s requests true with table := table } (fuel + 4) (guestOf debug s) w := by
  have hpos : 0 < requests.length := List.length_pos_iff.2 hne
  have hserviced := fun table => (serviced_state s requests : Serviced (stateOf T s requests true) s).moved table
  have hstands : ∀ {p : Prop}, w.revoked = false → p := by
    intro p hfalse
    rw [hrevoked] at hfalse
    cases hfalse
  cases s with
  | Keystore =>
    have hlinked : Interface.keystore ∈ [resourceInterface .Keystore] := List.mem_singleton.2 rfl
    have hget := T.get_push_self hpush
    refine hosts_silent hlinked (call_keyOpened (slots_zero hpos _) hpush) rfl ?_
    refine hosts_sign hcodes hs (hserviced table') hlinked hget hstands fun _ => ?_
    refine hosts_silent hlinked (call_keyDropped hget) rfl ?_
    have hreport := @confined_probe_guest.Reports.denied handle
    exact hosts_ret fun _ _ => hQ _ _ _ (hreport.refuses.2 ⟨handle, rfl⟩)
  | Filesystem =>
    have hlinked : Interface.filesystem ∈ [resourceInterface .Filesystem] := List.mem_singleton.2 rfl
    have hget := T.get_push_self hpush
    refine hosts_silent hlinked (call_fileOpened (slots_zero hpos _) hpush) rfl ?_
    refine hosts_read hcodes hs (hserviced table') hlinked hget rfl hstands fun _ => ?_
    refine hosts_silent hlinked (call_fileDropped hget) rfl ?_
    have hreport := confined_fs_guest.Reports.rejected (@confined_fs_guest.Rejected.fresh_failed debug handle .Access)
    exact hosts_ret fun _ _ => hQ _ _ _ ((hreport.refuses haccess hinvalid).2
      (confined_fs_guest.denied_iff.2 (confined_fs_guest.read_denied.2 rfl)))

end Probes

/-! ## Launches -/

section Launch
variable [Crates] [Abi] {T : ResourceTable} {d : Deployment} {w : Scene} {debug : ErrorCode → String}
  {requests : List ResourceRequest} {len : Nat}

theorem assured_enter {M : Scene → Store T × String → Prop} {store : Store T} {linker : Linker} {input : GuestInput}
    {e : Stage × Nat} (h : Assured (honest d) (fun w' x => ∃ report, x.2 = some report ∧ M w' (x.1, report))
      (guest_run linker store.state store.fuel input) w) :
    Assured (honest d) (Succeeds M) (store.enter linker input e).run w := by
  refine Assured.lift h ?_
  rintro w' ⟨store', result⟩ ⟨report, rfl, hM⟩
  exact Succeeds.intro hM

/-- There is room for what the grant puts into slot 0. -/
def Vacant (T : ResourceTable) (s : ServiceEndpoint) (table : T.Table) : Prop :=
  ∃ handle table', T.push table (entryOf s) = some (handle, table')

theorem assured_first (hcodes : Codes) (hroom : Roomy T) (hguest : d.guest = guestOf debug d.interface)
    (hne : requests ≠ []) (hrevoked : w.revoked = false) (hempty : w.content = [])
    (hspare : w.spare + HONEST_MOVES ≤ DEFAULT_FUEL) :
    Assured (honest d) (Succeeds fun w' x => w'.revoked = false ∧ x.1 = [resourceInterface d.interface] ∧
        ∃ table fuel, Vacant T d.interface table ∧
          x.2 = ⟨{ stateOf T d.interface requests true with table := table }, fuel + 4 + w'.spare⟩)
      (first_half ⟨d.package.manifest_bytes, d.package.cwasm_bytes⟩ (grantsOf d.interface requests true)
        (stateOf T d.interface requests true) (probeOf d.interface).required).run w := by
  unfold first_half
  have hlinker : interfacesOf (grantsOf d.interface requests true) = [resourceInterface d.interface] :=
    linker_declared hne (build_linker_ok.2 ⟨rfl, rfl⟩)
  refine Assured.andThen (M := fun w' _ => w' = w) (assured_orElse ?_) ?_
  · rintro component ⟨-, hcomponent⟩
    obtain ⟨c, rfl⟩ : ∃ c : Component, component = .ok c := hcomponent rfl
    exact Succeeds.intro rfl
  rintro w component rfl
  refine Assured.andThen (assured_orElse (assured_linker _)) ?_
  rintro w linker ⟨rfl, rfl⟩
  rw [hlinker]
  refine Assured.andThen (M := fun w' _ => w' = w) (assured_orFail fun ok hok => ⟨hok.2, rfl⟩) ?_
  rintro w - rfl
  refine Assured.andThen (M := fun w' _ => w' = w) (assured_orFail fun ok hok => ⟨hok.2, rfl⟩) ?_
  rintro w - rfl
  -- What is left of the fuel is enough for the moves that are left and for what may yet be burnt.
  obtain ⟨extra, hfuel⟩ : ∃ extra, DEFAULT_FUEL = extra + 13 + 1 + w.spare :=
    ⟨DEFAULT_FUEL - w.spare - HONEST_MOVES, by unfold HONEST_MOVES at hspare ⊢; omega⟩
  refine Assured.andThen (M := fun w' x => ∃ spare, spare ≤ w.spare ∧ w' = { w with current := .ret "", spare := spare } ∧
    x.1 = ⟨stateOf T d.interface requests true, extra + 13 + spare⟩) (assured_enter ?_) ?_
  · dsimp only
    rw [hfuel]
    exact hosts_ret (fun spare hle => ⟨"", rfl, spare, hle, rfl, rfl⟩) (.instantiate component) w.current w.spare
      (Nat.le_refl _) rfl
  rintro _ ⟨_, ready⟩ ⟨spare, -, rfl, rfl⟩
  refine Assured.andThen (M := fun w' _ => w' = { w with current := .ret "", spare := spare })
    (assured_orFail fun ok hok => ⟨hok.2, rfl⟩) ?_
  rintro _ - rfl
  obtain ⟨handle, table, hpush⟩ := hroom.first (entryOf d.interface)
  refine Assured.andThen (M := fun w' x => w'.revoked = false ∧ check_report x.2 (probeOf d.interface).required = .ok () ∧
    ∃ table fuel, Vacant T d.interface table ∧
      x.1 = ⟨{ stateOf T d.interface requests true with table := table }, fuel + 4 + w'.spare⟩) (assured_enter ?_) ?_
  · have hnew : stateOf T d.interface requests true = { stateOf T d.interface requests true with table := T.new } := by
      cases d.interface <;> rfl
    have hvacant : Vacant T d.interface (T.delete table (wantOf d.interface) handle).2 := hroom.again hpush _
    rw [hnew]
    change Assured _ _ (guest_run _ _ (extra + 4 + 9 + spare) _) _
    refine hosts_used (w := { w with current := .ret "", spare := spare }) hcodes rfl hne hpush hrevoked hempty ?_
      (.call "probe") (.ret "") spare (Nat.le_refl _) hguest
    intro current content spare' fuel' report _ hfuel hreport
    have hleft : fuel' = fuel' - 4 - spare' + 4 + spare' := by omega
    exact ⟨report, rfl, hrevoked, hreport, _, fuel' - 4 - spare', hvacant, by rw [← hleft]⟩
  rintro w' ⟨store, report⟩ ⟨hrevoked, hreport, hstore⟩
  change Assured _ _ (liftM (check_report report _) >>= _ : StageResult (Linker × Store T)).run _
  rw [hreport]
  exact Succeeds.intro ⟨hrevoked, rfl, hstore⟩

/-- A request that was left open ends `ACCESS`. -/
theorem assured_revoke (hrevoked : w.revoked = false) (op : UInt16) : Assured (honest d)
    (Succeeds fun w' _ => w'.revoked = true ∧ w'.spare = w.spare) (revoke_during_open_request op).run w := by
  have hchunk : ∀ (flags : UInt16) (w : Scene), Assured (honest d) (Succeeds fun w' status => w' = w ∧
      status = if w.revoked then Abi.status_ACCESS else Abi.status_OK) (send_empty_chunk op flags).run w := by
    rintro flags w ⟨⟩ -
    rintro label ⟨-, l, rfl, hl⟩
    exact Succeeds.intro ⟨rfl, hl⟩
  unfold revoke_during_open_request
  refine Assured.andThen (hchunk Abi.FLAG_MORE w) ?_
  rintro w status ⟨rfl, hstatus⟩
  rw [if_neg (Bool.eq_false_iff.1 hrevoked)] at hstatus
  refine assured_require (decide_eq_true hstatus) ?_
  refine Assured.andThen (M := fun w' _ => w' = w) (assured_orElse ?_) ?_
  · rintro done ⟨-, (rfl : done = .ok ())⟩
    exact Succeeds.intro rfl
  rintro w - rfl
  refine Assured.andThen (M := fun w' _ => w'.revoked = true ∧ w'.spare = w.spare) (assured_orElse ?_) ?_
  · rintro done ⟨-, (rfl : done = .ok ())⟩
    exact Succeeds.intro ⟨rfl, rfl⟩
  rintro w' - ⟨hrevoked, hspare⟩
  refine Assured.andThen (hchunk 0 w') ?_
  rintro w' status ⟨rfl, hstatus⟩
  rw [if_pos hrevoked] at hstatus
  exact assured_passes (decide_eq_true hstatus) ⟨hrevoked, hspare⟩

/-- And the second report is that the guest was denied. -/
theorem assured_second (haccess : contains (debug .Access) "\"access\"" = true)
    (hinvalid : contains (debug .Invalid) "\"access\"" = false) (hcodes : Codes)
    (hguest : d.guest = guestOf debug d.interface) (hne : requests ≠ []) (hrevoked : w.revoked = false)
    {table : T.Table} {fuel : Nat} (hvacant : Vacant T d.interface table) : Assured (honest d)
    (Succeeds fun _ _ => True) (second_half [resourceInterface d.interface]
      ⟨{ stateOf T d.interface requests true with table := table }, fuel + 4 + w.spare⟩ (probeOf d.interface)).run w := by
  unfold second_half
  refine Assured.andThen (assured_revoke hrevoked _) ?_
  rintro w' - ⟨hrevoked, hspare⟩
  rw [← hspare]
  obtain ⟨handle, table', hpush⟩ := hvacant
  refine Assured.andThen (M := fun _ x => refusal x.2 (probeOf d.interface).refused = true) (assured_enter ?_) ?_
  · refine hosts_shut haccess hinvalid hcodes rfl hne hpush hrevoked ?_ (.call "probe") w'.current w'.spare
      (Nat.le_refl _) hguest
    exact fun w' store report hreport => ⟨report, rfl, hreport⟩
  rintro w' ⟨store, report⟩ hreport
  exact assured_passes hreport trivial

/-- Nothing fails. -/
theorem assured_launch (haccess : contains (debug .Access) "\"access\"" = true)
    (hinvalid : contains (debug .Invalid) "\"access\"" = false) (hsized : SizedEncoders) (hcodes : Codes)
    (hroom : Roomy T) (hd : d.Sound len) (hguest : d.guest = guestOf debug d.interface) :
    Assured (honest d) (Succeeds fun _ _ => True) (host_the_guest T len).run .start := by
  refine Assured.andThen (assured_verify hd) ?_
  rintro w _ ⟨rfl, rfl⟩
  refine Assured.andThen assured_plan ?_
  rintro w plan ⟨rfl, rfl⟩
  rw [host_plan_declared T hd.declared]
  refine Assured.andThen (assured_request rfl _) ?_
  rintro _ granted ⟨rfl, rfl⟩
  refine Assured.andThen (assured_check hsized hcodes) ?_
  rintro w - rfl
  have hne := declared_requests hd.declared
  rw [run_probe_halves]
  refine Assured.andThen (assured_first hcodes hroom hguest hne.1 rfl rfl (Nat.le_refl DEFAULT_FUEL)) ?_
  rintro w ⟨linker, store⟩ ⟨hrevoked, rfl, table, fuel, hvacant, rfl⟩
  exact assured_second haccess hinvalid hcodes hguest hne.1 hrevoked hvacant

/-- A launch that nothing goes wrong in ends with the signal of a success. -/
theorem runs_reported {host : Nat → StageResult Unit} {tr : Confined.Events} {o : Outcome Unit}
    (hassured : Assured (honest d) (Succeeds fun _ _ => True) (host len).run .start)
    (h : Runs (run_and_report len host) tr o) (hhonest : (honest d).Holds .start tr) :
    o = .ret () ∧ ∃ mid top, tr = preamble ++ (mid ++ success top) ∧ Runs (host len).run mid (.ret (.ok ())) := by
  obtain ⟨mid, rest, rfl, hmid⟩ := runs_run_and_report.1 h
  have hhonest : (honest d).Holds .start mid := (Rely.holds_append.1 (Rely.holds_append.1 hhonest).2).1
  rcases hmid with ⟨result, hhost, hrest⟩ | ⟨msg, hhost, -, -⟩
  · obtain ⟨_, ⟨⟩, ⟨⟨⟩, rfl, -⟩⟩ := hassured.runs hhost hhonest
    obtain ⟨rfl, top, rfl⟩ := runs_report_result.1 hrest
    exact ⟨rfl, mid, top, rfl, hhost⟩
  · obtain ⟨_, ⟨⟩, -⟩ := hassured.runs hhost hhonest

/-- The guest that it runs is the deployment's. -/
theorem holds_plays {tr : Confined.Events} (h : (honest d).Holds w tr) : Plays d.guest w.current tr := by
  induction tr generalizing w with
  | nil => trivial
  | cons e tr ih =>
    obtain ⟨⟨-, hanswer⟩, hrest⟩ := h
    obtain ⟨c, ans⟩ := e
    cases c with
    | guest input =>
      have hcurrent := Scene.enter_current w (entered d.guest w.current input) ans
      exact ⟨hanswer.imp_left And.left, hcurrent ▸ ih hrest⟩
    | channel endpoint op request reply =>
      have hcurrent : (d.served w op request).current = w.current := by
        unfold Deployment.served
        split <;> rfl
      have hplays : Plays d.guest (d.served w op request).current tr := ih hrest
      rwa [hcurrent] at hplays
    | bind => exact ih (w := { w with bound := true }) hrest
    | wait => exact ih (w := { w with revoked := true }) hrest
    | _ => exact ih hrest

/-- In every run against an honest outside, a sound deployment of either guest signals `SUCCESS`. -/
theorem honest_launch_succeeds {tr : Confined.Events} {o : Outcome Unit}
    (h : Runs (run_and_report len (host_the_guest T)) tr o) (hhonest : (honest d).Holds .start tr)
    (hd : d.Sound len) (hguest : d.guest = guestOf debug d.interface)
    (haccess : contains (debug .Access) "\"access\"" = true)
    (hinvalid : contains (debug .Invalid) "\"access\"" = false)
    (hsized : SizedEncoders) (hcodes : Codes) (hroom : Roomy T) :
    o = .ret () ∧ ∃ mid top, tr = preamble ++ (mid ++ success top) := by
  have hassured := assured_launch haccess hinvalid hsized hcodes hroom hd hguest
  obtain ⟨hend, mid, top, htr, -⟩ := runs_reported hassured h hhonest
  exact ⟨hend, mid, top, htr⟩

end Launch

/-! ## The keystore demo -/

theorem demoTable_roomy : Roomy demoTable where
  first _ := ⟨_, _, rfl⟩
  again := by
    rintro entry handle table h want
    cases h
    exact ⟨_, _, rfl⟩

/-- The package as published, with the guest that `host_keystore` is for. -/
def demoDeployment : Deployment where
  interface := .Keystore
  checks := publisher demoPackage demoPackage
  package := demoPackage
  plan := demoPlan
  guest := guestOf demoDebug .Keystore

/-- It runs the guest, grants the slot once, and answers the rest as `keystoreWorld` does. -/
def demoOutside : Handler World Scene
  | .bind .., w => (.ok !w.bound, { w with bound := true })
  | .wait _, w => (.ok (), { w with revoked := true })
  | .guest input, w =>
    (move (entered demoDeployment.guest w.current input),
      { w with current := entered demoDeployment.guest w.current input })
  | c, w => ((keystoreWorld c w.revoked).1, w)

section Demo

theorem demo_sound : demoDeployment.Sound 16 where
  decodes := ⟨by decide, by decide, rfl⟩
  trusted := (publisher_trusts _ _ _).2 rfl
  tampered := mt (publisher_trusts _ _ _).1 (by decide)
  declared := rfl

theorem demo_honest {α : Type} (p : Prog World α) :
    letI := lengthPrefixed
    letI := abiNumbers
    (honest demoDeployment).Holds .start (p.trace demoOutside Scene.start) := by
  let _ := lengthPrefixed
  let _ := abiNumbers
  refine Rely.holds_trace (fun c w => ?_) p Scene.start
  have hrevoked : w.revoked = true ∨ w.revoked = false := by cases w.revoked <;> simp
  cases c with
  | mapped_package | decode_package_ref | package_verify => exact ⟨⟨rfl, trivial⟩, rfl⟩
  | parse_bytes => exact ⟨⟨trivial, fun _ => rfl⟩, rfl⟩
  | bind | list | signal | wait => exact ⟨⟨trivial, rfl⟩, rfl⟩
  | guest input =>
    exact ⟨⟨trivial, .inr rfl⟩, (Scene.enter_move _ _ _).symm⟩
  | request_grant => exact ⟨⟨trivial, 0, rfl⟩, rfl⟩
  | revoke =>
    have hdenied : abiNumbers.status_ACCESS ≠ abiNumbers.status_OK := by decide
    exact ⟨⟨trivial, mt Except.ok.inj hdenied⟩, rfl⟩
  | deserialize => exact ⟨⟨trivial, fun _ => ⟨⟨0⟩, rfl⟩⟩, rfl⟩
  | call_with_label =>
    refine ⟨⟨trivial, _, rfl, ?_⟩, rfl⟩
    rcases hrevoked with h | h <;> simp only [h] <;> rfl
  | channel endpoint op request reply =>
    refine ⟨⟨trivial, ?_, ?_⟩, rfl⟩
    · rintro rfl
      exact ⟨reply.length, rfl⟩
    · rintro rfl
      rcases hrevoked with h | h
      · rw [h]
        exact ⟨reply.length, by simp [demoOutside, keystoreWorld, h]⟩
      · rw [h]
        exact ⟨reply.length, Nat.le_refl _, by simp [demoOutside, keystoreWorld, h]⟩
  | add_to_linker | define_unknown_imports_as_traps | set_fuel | get_typed_func => exact ⟨⟨trivial, rfl⟩, rfl⟩
  | _ => exact ⟨⟨trivial, trivial⟩, rfl⟩

theorem demo_access : contains (demoDebug .Access) "\"access\"" = true := by decide +kernel

theorem demo_invalid : contains (demoDebug .Invalid) "\"access\"" = false := by decide +kernel

theorem demo_codes : @Codes lengthPrefixed := @Codes.mk lengthPrefixed (by decide) (by decide) (by decide)

/-- The launch of the demo goes through. -/
theorem demo_assured :
    letI := lengthPrefixed
    letI := abiNumbers
    Assured (honest demoDeployment) (Succeeds fun _ _ => True) (host_the_guest demoTable 16).run .start :=
  letI := lengthPrefixed
  letI := abiNumbers
  assured_launch demo_access demo_invalid lengthPrefixed_sized demo_codes demoTable_roomy demo_sound rfl

theorem honest_launch_succeeds_demo :
    letI := lengthPrefixed
    letI := abiNumbers
    ∃ tr mid top, Runs (run_and_report 16 (host_the_guest demoTable)) tr (.ret ()) ∧
      tr = preamble ++ (mid ++ success top) := by
  let _ := lengthPrefixed
  let _ := abiNumbers
  have hrun := runs_run demoOutside (run_and_report 16 (host_the_guest demoTable)) .start
  obtain ⟨hend, mid, top, htr⟩ := honest_launch_succeeds hrun (demo_honest _) demo_sound rfl demo_access demo_invalid
    lengthPrefixed_sized demo_codes demoTable_roomy
  rw [hend] at hrun
  exact ⟨_, mid, top, hrun, htr⟩

end Demo

end LanternRuntime.Guests

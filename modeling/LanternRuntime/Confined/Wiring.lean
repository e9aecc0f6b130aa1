import LanternRuntime.Confined.Sequence
/-!
# From the manifest to the slots

What a plan becomes: a manifest with one slot for each declared role, a linker
with the one declared interface, and a `RuntimeState` in which only slot 0 can
be opened, and only if the binder granted it. `confined_wiring` says so of every
run of `host_the_guest`.
-/
open ProgLib

namespace LanternRuntime.Confined
open Host

/-! ## Plans -/

/-- A plan that this process cannot wire: it wants the clock, neither interface, or both. -/
def GrantPlan.Refused (plan : GrantPlan) : Prop :=
  plan.monotonic_clock.isSome = true ∨ (plan.keystore = [] ∧ plan.filesystem = []) ∨
    (plan.keystore ≠ [] ∧ plan.filesystem ≠ [])

theorem declared_eq_none (plan : GrantPlan) : plan.declared = none ↔ plan.Refused := by
  obtain ⟨keystore, filesystem, clock⟩ := plan
  rcases clock with _ | ⟨⟩ <;> rcases keystore with _ | ⟨k, ks⟩ <;> rcases filesystem with _ | ⟨f, fs⟩ <;>
    simp [GrantPlan.declared, GrantPlan.Refused]

/-- The declared interface has roles, the other one has none. -/
theorem declared_requests {plan : GrantPlan} {s : ServiceEndpoint} (hs : plan.declared = some s) :
    plan.requests s ≠ [] ∧ ∀ s', s' ≠ s → plan.requests s' = [] := by
  obtain ⟨keystore, filesystem, clock⟩ := plan
  rcases clock with _ | ⟨⟩ <;> rcases keystore with _ | ⟨k, ks⟩ <;> rcases filesystem with _ | ⟨f, fs⟩ <;> cases hs
  · refine ⟨List.cons_ne_nil f fs, fun s' hs' => ?_⟩
    cases s' with
    | Keystore => rfl
    | Filesystem => exact absurd rfl hs'
  · refine ⟨List.cons_ne_nil k ks, fun s' hs' => ?_⟩
    cases s' with
    | Keystore => exact absurd rfl hs'
    | Filesystem => rfl

/-! ## Slots -/

/-- How many slots of an interface a manifest has. -/
def slotCount (manifest : GrantManifest) : ServiceEndpoint → Nat
  | .Keystore => manifest.keystore_keys.length
  | .Filesystem => manifest.filesystem_files.length

theorem slots_length {α : Type} (n : Nat) (granted : Bool) (grant : α) : (slots n granted grant).length = n := by
  simp [slots]

/-- The grant backs slot 0. -/
theorem slots_zero {α : Type} {n : Nat} (hn : 0 < n) (grant : α) : (slots n true grant)[0]? = some (some grant) := by
  simp [slots, hn]

section Manifest
variable {s i : ServiceEndpoint} {requests : List ResourceRequest} {granted : Bool}

/-- One slot for each declared role. -/
theorem slotCount_declared (s : ServiceEndpoint) (requests : List ResourceRequest) (granted : Bool) :
    slotCount (grantsOf s requests granted) s = requests.length := by
  cases s <;> exact slots_length ..

theorem slotCount_other (hi : i ≠ s) : slotCount (grantsOf s requests granted) i = 0 := by
  cases s <;> cases i <;> first | rfl | exact absurd rfl hi

/-! ## Linking -/

/-- The interface that opens slots of a service. -/
def resourceInterface : ServiceEndpoint → Interface
  | .Keystore => .keystore
  | .Filesystem => .filesystem

/-- With at least one role declared, that interface is linked and no other. -/
theorem linker_declared (hne : requests ≠ []) {linker : Linker} {tr : Events}
    (h : Runs (build_linker (grantsOf s requests granted)).run tr (.ret (.ok linker))) :
    linker = [resourceInterface s] := by
  obtain ⟨rfl, -⟩ := build_linker_ok.1 h
  have hslots : ∀ {α : Type} (grant : α), (slots requests.length granted grant).isEmpty = false := by
    intro α grant
    rw [List.isEmpty_eq_false_iff, ne_eq, ← List.length_eq_zero_iff, slots_length, List.length_eq_zero_iff]
    exact hne
  cases s with
  | Keystore => simp [interfacesOf, grantsOf, keystore_grants, GrantManifest.nothing, hslots, resourceInterface]
  | Filesystem => simp [interfacesOf, grantsOf, filesystem_grants, GrantManifest.nothing, hslots, resourceInterface]

end Manifest

/-! ## Guest calls -/

section Wired
variable [Crates] {T : ResourceTable} {st st₀ : RuntimeState T World} {hist : List (Step World GuestCall GuestReply)}
  {s i : ServiceEndpoint} {requests : List ResourceRequest} {granted : Bool}

/-- The slot is filled. -/
def Backed (st : RuntimeState T World) : ServiceEndpoint → UInt32 → Prop
  | .Keystore, n => ∃ cap, st.keys[n.toNat]? = some (some cap)
  | .Filesystem, n => ∃ file, st.files[n.toNat]? = some (some file)

/-- Served calls change nothing but the table. -/
theorem session_state (h : Session call st₀ hist st) : ∃ table, st = { st₀ with table := table } := by
  apply h.inv (I := fun _ st => ∃ table, st = { st₀ with table := table })
  · exact ⟨st₀.table, rfl⟩
  · rintro _ _ c tr st' reply ⟨table, rfl⟩ hr
    obtain ⟨table', rfl, -⟩ := moves_of hr
    exact ⟨table', rfl⟩

theorem Attached.session (h₀ : Attached granted st₀) (h : Session call st₀ hist st) : Attached granted st := by
  apply h.inv (I := fun _ st => Attached granted st)
  · exact h₀
  · intro _ st c tr st' reply hst hr
    obtain ⟨table, rfl, hm⟩ := moves_of hr
    exact hst.step hm

/-- A handle comes from a filled slot. -/
theorem open_backed {n : UInt32} {tr : Events} {st' : RuntimeState T World} {reply : GuestReply}
    (h : Runs (call st (openCall i n)) tr (.ret (st', reply))) : reply = .opened none ∨ Backed st i n := by
  obtain ⟨table, -, hm⟩ := moves_of h
  cases i with
  | Keystore =>
    cases hm with
    | keyOpened hslot => exact .inr ⟨_, hslot⟩
    | keyDeclined => exact .inl rfl
    | operated hc => cases hc
  | Filesystem =>
    cases hm with
    | fileOpened hslot => exact .inr ⟨_, hslot⟩
    | fileDeclined => exact .inl rfl
    | operated hc => cases hc

theorem backed_state {table : T.Table} {n : UInt32}
    (h : Backed { stateOf T s requests granted with table := table } i n) : granted = true ∧ i = s ∧ n = 0 := by
  cases s with
  | Keystore =>
    cases i with
    | Keystore =>
      obtain ⟨cap, hslot⟩ := h
      obtain ⟨hg, rfl⟩ := slots_filled hslot
      exact ⟨hg, rfl, rfl⟩
    | Filesystem =>
      obtain ⟨file, hslot⟩ := h
      cases hslot
  | Filesystem =>
    cases i with
    | Keystore =>
      obtain ⟨cap, hslot⟩ := h
      cases hslot
    | Filesystem =>
      obtain ⟨file, hslot⟩ := h
      obtain ⟨hg, rfl⟩ := slots_filled hslot
      exact ⟨hg, rfl, rfl⟩

omit [Crates] in
/-- A filled slot reads none only where the table takes no more. -/
theorem open_slot_full {Record : Type} {slots : List (Option Record)} {entry : Record → Entry}
    {n : UInt32} {cap : Record}
    (hslot : slots[n.toNat]? = some (some cap)) (hopen : (st.open_slot slots entry n).2 = none) :
    T.push st.table (entry cap) = none := by
  cases hp : T.push st.table (entry cap) with
  | none => rfl
  | some x =>
    simp only [RuntimeState.open_slot, hslot, Option.join_some, hp] at hopen
    cases hopen

/-- What slot 0 opens to. -/
def granteeOf : ServiceEndpoint → Entry
  | .Keystore => .key (.keystore_key 0 (.from_raw 0))
  | .Filesystem => .file (.filesystem_file 0 (.from_raw 0))

theorem granted_open (hne : requests ≠ []) {table : T.Table} {tr : Events} {st' : RuntimeState T World}
    (h : Runs (call { stateOf T s requests true with table := table } (openCall s 0)) tr (.ret (st', .opened none))) :
    T.push table (granteeOf s) = none := by
  have hpos : 0 < requests.length := List.length_pos_iff.2 hne
  cases s with
  | Keystore =>
    obtain ⟨-, he⟩ := runs_ret.1 h
    injection he with he
    exact open_slot_full (slots_zero hpos _) (GuestReply.opened.inj (congrArg Prod.snd he)).symm
  | Filesystem =>
    obtain ⟨-, he⟩ := runs_ret.1 h
    injection he with he
    exact open_slot_full (slots_zero hpos _) (GuestReply.opened.inj (congrArg Prod.snd he)).symm

/-- What is wired for the requests of one interface and the binder's answer. -/
structure Wired (T : ResourceTable) (s : ServiceEndpoint) (requests : List ResourceRequest)
    (granted : Bool) : Prop where
  /-- One slot for each declared role, and none of the other interface. -/
  slots : ∀ i, slotCount (grantsOf s requests granted) i = if i = s then requests.length else 0
  clock : (grantsOf s requests granted).monotonic_clock = none
  /-- The declared interface is linked and no other. -/
  linked : ∀ {tr linker}, Runs (build_linker (grantsOf s requests granted)).run tr (.ret (.ok linker)) →
    linker = [resourceInterface s]
  /-- After any calls of the guest, only slot 0 can be opened, and only under a grant. -/
  opened : ∀ {hist st}, Session call (stateOf T s requests granted) hist st → ∀ {i n tr o},
    Runs (call st (openCall i n)) tr o →
    ∃ st' handle, o = .ret (st', .opened handle) ∧ (handle ≠ none → granted = true ∧ i = s ∧ n = 0)
  /-- Under a grant it can, while the table takes entries. -/
  opens : ∀ {hist st}, Session call (stateOf T s requests granted) hist st → granted = true → ∀ {tr st'},
    Runs (call st (openCall s 0)) tr (.ret (st', .opened none)) → T.push st.table (granteeOf s) = none
  /-- Without a grant, no call of the guest goes to the channel. -/
  silent : ∀ {hist st}, Session call (stateOf T s requests granted) hist st → granted = false → ∀ {c tr o},
    Runs (call st c) tr o → ∀ e ∈ tr, e.call.isChannel = false

theorem wired (hne : requests ≠ []) (granted : Bool) : Wired T s requests granted where
  slots := by
    intro i
    by_cases hi : i = s
    · rw [if_pos hi, hi]
      exact slotCount_declared ..
    · rw [if_neg hi]
      exact slotCount_other hi
  clock := by cases s <;> rfl
  linked := linker_declared hne
  opened := by
    intro hist st hs i n tr o hr
    obtain ⟨table, rfl⟩ := session_state hs
    obtain ⟨st', handle, rfl⟩ : ∃ st' handle, o = .ret (st', .opened handle) := by
      cases i <;> exact ⟨_, _, (runs_ret.1 hr).2⟩
    refine ⟨st', handle, rfl, fun hsome => ?_⟩
    rcases open_backed hr with he | hb
    · exact absurd (GuestReply.opened.inj he) hsome
    · exact backed_state hb
  opens := by
    rintro hist st hs rfl tr st' hr
    obtain ⟨table, rfl⟩ := session_state hs
    exact granted_open hne hr
  silent := by
    rintro hist st hs rfl c tr o hr e he
    have hst : Attached false st := (attached_state T s requests false).session hs
    -- Without a grant only the clock can be called.
    rcases (hst.call_only c).runs hr e he with ⟨f, hf⟩ | ⟨-, hg⟩
    · rw [hf]
      rfl
    · cases hg

end Wired

/-! ## Runs of the program -/

section Program
variable [Crates] [Abi] {T : ResourceTable}

omit [Crates] in
/-- What the binder answered is what `request_grant` returns. -/
theorem request_grant_answer {s : ServiceEndpoint} {tr : Events} {granted : Bool}
    (h : Runs (request_grant (interfaceNumber s)).run tr (.ret (.ok granted))) : Answered tr s granted := by
  cases request_grant_ok.1 h with
  | declined => exact List.mem_cons_self
  | granted _ => exact List.mem_cons_self

/-- A run that parses a manifest has only checked before, and goes on with the plan. -/
theorem run_of_plan {len : Nat} {tr : Events} {o : Outcome (Except (Stage × Nat) Unit)}
    (h : Runs (host_the_guest T len).run tr o) {manifest : Bytes} {plan : GrantPlan}
    (hplan : (⟨.parse_bytes manifest, some plan⟩ : Event World) ∈ tr) :
    ∃ package pre post, tr = pre ++ ⟨.parse_bytes manifest, some plan⟩ :: post ∧
      (∀ e ∈ pre, e.call.isCheck = true) ∧ Runs (host_plan T package plan).run post o := by
  -- Before a parse there are only checks, and no check is a parse: there is at most one.
  have hallowed := ((host_the_guest_ensures T len).sound h).2
  have hchecks : ∀ {pre manifest ans post}, tr = pre ++ ⟨.parse_bytes manifest, ans⟩ :: post →
      ∀ e ∈ pre, e.call.isCheck = true := fun he => (hallowed _ _ _ he).2
  have hnone : ∀ {tr : Events} {o'}, Runs (verify_package len).run tr o' →
      (⟨.parse_bytes manifest, some plan⟩ : Event World) ∉ tr := by
    intro tr o' hr hmem
    cases (verify_package_only len).runs hr _ hmem
  rcases runs_andThen.1 h with ⟨pre, tr', package, rfl, h₁, h₂⟩ | ⟨_, -, h₁⟩ | ⟨_, -, h₁⟩
  · obtain ⟨ans, post, rfl, h₃⟩ := runs_call.1 h₂
    -- A second parse would come after the first, which is no check.
    have hfirst : (⟨.parse_bytes manifest, some plan⟩ : Event World) ∉ post := by
      intro hmem
      obtain ⟨post₁, post₂, rfl⟩ := List.append_of_mem hmem
      have hsplit : pre ++ ⟨.parse_bytes package.manifest_bytes, ans⟩ ::
          (post₁ ++ (⟨.parse_bytes manifest, some plan⟩ : Event World) :: post₂) =
          (pre ++ ⟨.parse_bytes package.manifest_bytes, ans⟩ :: post₁) ++
            ⟨.parse_bytes manifest, some plan⟩ :: post₂ := by
        simp
      cases hchecks hsplit ⟨.parse_bytes package.manifest_bytes, ans⟩ (by simp)
    rcases List.mem_append.1 hplan with hmem | hmem
    · exact absurd hmem (hnone h₁)
    · rcases List.mem_cons.1 hmem with he | hmem
      · cases he
        exact ⟨package, pre, post, rfl, (verify_package_only len).runs h₁, h₃⟩
      · exact absurd hmem hfirst
  · exact absurd hplan (hnone h₁)
  · exact absurd hplan (hnone h₁)

/-- In every run, a plan for the clock, for neither interface or for both is refused before the
binder is asked. Any other is wired for the one interface it declares, with what the binder
answered. The channel is used and the guest is given a handle only under a grant, the handle for
slot 0. -/
theorem confined_wiring {len : Nat} {tr : Events} {o : Outcome (Except (Stage × Nat) Unit)}
    (h : Runs (host_the_guest T len).run tr o) {manifest : Bytes} {plan : GrantPlan}
    (hplan : (⟨.parse_bytes manifest, some plan⟩ : Event World) ∈ tr) :
    (plan.Refused → (∀ e ∈ tr, e.call.isBinder = false) ∧ ∃ detail, o = .ret (.error (.Manifest, detail))) ∧
    (¬ plan.Refused → ∃ s package pre post, plan.declared = some s ∧
      tr = pre ++ ⟨.parse_bytes manifest, some plan⟩ :: post ∧
      Runs (host_interface T s package (plan.requests s)).run post o ∧
      (∀ tr granted, Runs (request_grant (interfaceNumber s)).run tr (.ret (.ok granted)) → Answered tr s granted) ∧
      ∀ granted, Wired T s (plan.requests s) granted) ∧
    (∀ pre e post, tr = pre ++ e :: post → e.call.isChannel = true → Granted pre) ∧
    ∀ pre handle ans post, tr = pre ++ ⟨.guest (.resume (.opened (some handle))), ans⟩ :: post →
      Granted pre ∧ ∃ input i, pre.getLast? = some ⟨.guest input, .host (openCall i 0)⟩ := by
  have hallowed := ((host_the_guest_ensures T len).sound h).2
  obtain ⟨package, pre, post, htr, hpre, hrun⟩ := run_of_plan h hplan
  refine ⟨fun hrefused => ?_, fun hplanned => ?_, fun pre e post he hchannel => ?_, fun _ _ _ _ he => ?_⟩
  · obtain ⟨detail, hnone⟩ : ∃ detail, (host_plan T package plan).run = .ret (.error (.Manifest, detail)) :=
      host_plan_refused T ((declared_eq_none plan).2 hrefused)
    rw [hnone] at hrun
    obtain ⟨rfl, rfl⟩ := runs_ret.1 hrun
    refine ⟨fun e he => ?_, detail, rfl⟩
    rw [htr] at he
    rcases List.mem_append.1 he with he | he
    · exact isBinder_of_isCheck (hpre e he)
    · obtain rfl := List.mem_singleton.1 he
      rfl
  · obtain ⟨s, hs⟩ := Option.ne_none_iff_exists'.1 (mt (declared_eq_none plan).1 hplanned)
    rw [host_plan_declared T hs] at hrun
    exact ⟨s, package, pre, post, hs, htr, hrun, fun _ _ => request_grant_answer, wired (declared_requests hs).1⟩
  · have hcall := hallowed _ _ _ he
    obtain ⟨call, ans⟩ := e
    cases call with
    | channel => exact hcall.2
    | _ => cases hchannel
  · exact (hallowed _ _ _ he).2

end Program

/-- The keystore demo declares two roles. -/
theorem confined_wiring_keystore :
    letI := lengthPrefixed
    letI := abiNumbers
    letI T := slabTable Entry 4 (by decide)
    letI tr := (host_the_guest T 16).run.trace keystoreWorld false
    (⟨.parse_bytes demoPackage.manifest_bytes, some demoPlan⟩ : Event World) ∈ tr ∧
    (∃ s, demoPlan.declared = some s ∧ ∀ granted, Wired T s (demoPlan.requests s) granted) ∧
    ∀ pre e post, tr = pre ++ e :: post → e.call.isChannel = true → Granted pre := by
  let : Crates := lengthPrefixed
  let : Abi := abiNumbers
  have hmem : (⟨.parse_bytes demoPackage.manifest_bytes, some demoPlan⟩ : Event World) ∈
      (host_the_guest (slabTable Entry 4 (by decide)) 16).run.trace keystoreWorld false := by
    have hverify : (verify_package 16).run.run keystoreWorld false =
        (.ret (.ok ⟨demoPackage.manifest_bytes, demoPackage.cwasm_bytes⟩), false) := rfl
    unfold host_the_guest
    rw [except_run_bind, Prog.trace_bind_ret _ _ hverify]
    exact List.mem_append_right _ List.mem_cons_self
  have hwiring := confined_wiring (runs_run keystoreWorld _ false) hmem
  obtain ⟨-, hplanned, hchannel, -⟩ := hwiring
  have hnot : ¬ demoPlan.Refused := by
    rw [← declared_eq_none]
    nofun
  obtain ⟨s, _, _, _, hs, -, -, -, hw⟩ := hplanned hnot
  exact ⟨hmem, ⟨s, hs, hw⟩, hchannel⟩

end LanternRuntime.Confined

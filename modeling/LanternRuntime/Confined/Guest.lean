import LanternRuntime.Host.Calls
import LanternRuntime.Confined.History
/-!
# The guest, run against a wired state

`Attached granted st`: the backends of `st` are the channel to the service, and
without a grant no slot and no handle leads to them. Every guest call keeps it,
reaches the channel only under a grant, and yields a handle only for slot 0.
-/
open ProgLib

namespace LanternRuntime.Confined
open Host

/-! ## Calls over the channel -/

def WorldCall.isChannel : WorldCall → Bool
  | .channel .. => true
  | _ => false

section Ipc
variable {P : WorldCall → Prop} {channel : Channel World}

theorem expect_only {α : Type} (msg : String) (a : Option α) : Only P (expect msg a : Prog World α) := by
  cases a <;> trivial

theorem slice_to_only (b : Bytes) (n : Nat) : Only P (slice_to b n : Prog World Bytes) := by
  unfold slice_to
  split <;> trivial

theorem copy_from_slice_only (dst src : Bytes) : Only P (copy_from_slice dst src : Prog World (Buf dst.length)) := by
  unfold copy_from_slice
  split <;> trivial

variable [Crates] (h : ∀ op request reply, Only P (channel.call op request reply))
include h

theorem exchange_only (op : UInt16) (request reply : Bytes) :
    Only P (IpcKeystore.exchange channel op request reply).run := by
  unfold IpcKeystore.exchange
  refine Only.andThen ((h _ _ _).bind fun _ => trivial) ?_
  rintro ⟨reply, result⟩
  refine Only.andThen (by cases result <;> trivial) ?_
  rintro ⟨status, reply_len⟩
  dsimp only
  split
  · trivial
  · exact (slice_to_only _ _).bind fun _ => trivial

theorem ipc_encrypt_only (badge : UInt64) (key : KeyId) (nonce : Nonce) (aad buffer : Bytes) :
    Only P ((IpcKeystore.service channel).encrypt badge key nonce aad buffer) := by
  refine (expect_only _ _).bind fun len => (slice_to_only _ _).bind fun request =>
    (exchange_only h _ _ _).bind fun ans => ?_
  rcases ans with e | reply
  · trivial
  · dsimp only
    split
    · trivial
    · split
      · trivial
      · exact (copy_from_slice_only _ _).bind fun _ => trivial

theorem ipc_decrypt_only (badge : UInt64) (key : KeyId) (nonce : Nonce) (aad buffer : Bytes) (tag : Tag) :
    Only P ((IpcKeystore.service channel).decrypt badge key nonce aad buffer tag) := by
  refine (expect_only _ _).bind fun len => (slice_to_only _ _).bind fun request =>
    (exchange_only h _ _ _).bind fun ans => ?_
  rcases ans with e | reply
  · trivial
  · dsimp only
    split
    · trivial
    · exact (copy_from_slice_only _ _).bind fun _ => trivial

theorem ipc_sign_only (badge : UInt64) (key : KeyId) (message : Bytes) :
    Only P ((IpcKeystore.service channel).sign badge key message) := by
  refine (exchange_only h _ _ _).bind fun ans => ?_
  cases ans <;> trivial

theorem ipc_read_only (badge : UInt64) (file : FileId) (buffer : Bytes) :
    Only P ((IpcFilesystem.service channel).read badge file buffer) := by
  refine (h _ _ _).bind ?_
  rintro ⟨buffer, e | ⟨status, len⟩⟩
  · trivial
  · dsimp only
    split <;> trivial

theorem ipc_write_only (badge : UInt64) (file : FileId) (data : Bytes) :
    Only P ((IpcFilesystem.service channel).write badge file data) := by
  refine (h _ _ _).bind ?_
  rintro ⟨_, e | ⟨status, len⟩⟩
  · trivial
  · dsimp only
    split <;> trivial

end Ipc

/-! ## Wired states -/

section Attached
variable {T : ResourceTable} [Crates]

structure Attached (granted : Bool) (st : RuntimeState T World) : Prop where
  keystore : ∀ {s}, st.keystore = some s → s = IpcKeystore.service (channelTo DEST_CPTR)
  filesystem : ∀ {s}, st.filesystem = some s → s = IpcFilesystem.service (channelTo DEST_CPTR)
  keys : ∀ {slot : UInt32} {cap}, st.keys[slot.toNat]? = some (some cap) → granted = true ∧ slot = 0
  files : ∀ {slot : UInt32} {cap}, st.files[slot.toNat]? = some (some cap) → granted = true ∧ slot = 0
  live : ∀ {r x}, T.get st.table r = some x → granted = true

/-- The calls that a guest call can make. -/
def Reaches (granted : Bool) (c : WorldCall) : Prop :=
  (∃ f, c = .now_ns f) ∨ (c.isChannel = true ∧ granted = true)

variable {granted : Bool} {st : RuntimeState T World}

theorem Attached.call_only (h : Attached granted st) (c : GuestCall) : Only (Reaches granted) (call st c) := by
  have hchannel : granted = true → ∀ op request reply,
      Only (Reaches granted) ((channelTo DEST_CPTR).call op request reply) :=
    fun hg op request reply => only_ask.2 (.inr ⟨rfl, hg⟩)
  by_cases hc : c.isOperation = true
  · obtain ⟨p, hserves, hcall⟩ := serves_of st hc
    rw [hcall]
    refine Only.bind ?_ fun _ => trivial
    cases hserves with
    | dead | malformed | unattached | resolution | unclocked => trivial
    | now hclock => exact (only_ask.2 (.inl ⟨_, rfl⟩)).bind fun _ => trivial
    | encrypt hget _ hks =>
      obtain rfl := h.keystore hks
      exact (ipc_encrypt_only (hchannel (h.live hget)) ..).bind fun _ => trivial
    | decrypt hget _ _ hks =>
      obtain rfl := h.keystore hks
      exact (ipc_decrypt_only (hchannel (h.live hget)) ..).bind fun _ => trivial
    | sign hget hks =>
      obtain rfl := h.keystore hks
      exact (ipc_sign_only (hchannel (h.live hget)) ..).bind fun _ => trivial
    | read hget hfs =>
      obtain rfl := h.filesystem hfs
      exact (ipc_read_only (hchannel (h.live hget)) ..).bind fun _ => trivial
    | write hget _ hfs =>
      obtain rfl := h.filesystem hfs
      exact (ipc_write_only (hchannel (h.live hget)) ..).bind fun _ => trivial
  · cases c with
    | keystoreOpen | filesystemOpen | keyDrop | fileDrop => trivial
    | _ => exact absurd rfl hc

/-- One guest call keeps the state wired. -/
theorem Attached.step (h : Attached granted st) {c : GuestCall} {reply : GuestReply} {table : T.Table}
    (hm : Moves st c reply table) : Attached granted { st with table := table } := by
  refine { h with live := ?_ }
  intro r x hx
  cases hm with
  | keyOpened hslot hpush => exact (h.keys hslot).1
  | fileOpened hslot hpush => exact (h.files hslot).1
  | keyDeclined | fileDeclined | operated => exact h.live hx
  | keyDropped | fileDropped => exact h.live (T.get_delete hx)

/-- And yields a handle only for slot 0, under a grant, with no call of its own. -/
theorem Attached.opened (h : Attached granted st) {c : GuestCall} {handle : Handle} {st' : RuntimeState T World}
    {tr : Events} (hr : Runs (call st c) tr (.ret (st', .opened (some handle)))) :
    granted = true ∧ (∃ s, c = openCall s 0) ∧ tr = [] := by
  have hc : c.isOperation = false := by
    cases c with
    | keystoreOpen | filesystemOpen | keyDrop | fileDrop => rfl
    | _ =>
      obtain ⟨x, -, he⟩ := runs_bind_ret.1 hr
      cases he
  obtain ⟨table, -, hm⟩ := moves_of hr
  cases hm with
  | keyOpened hslot hpush =>
    obtain ⟨hg, rfl⟩ := h.keys hslot
    exact ⟨hg, ⟨.Keystore, rfl⟩, trace_of_not_operation hc hr⟩
  | fileOpened hslot hpush =>
    obtain ⟨hg, rfl⟩ := h.files hslot
    exact ⟨hg, ⟨.Filesystem, rfl⟩, trace_of_not_operation hc hr⟩
  | operated hop =>
    rw [hc] at hop
    cases hop

/-! ## Whole guest runs -/

variable [Abi] {package : PackageRef} {s : ServiceEndpoint} {tr : Events}

/-- An input that the guest may be given at this point. -/
def Input (tr : Events) (input : GuestInput) : Prop :=
  ∀ handle, input = .resume (.opened (some handle)) → Granted tr ∧
    ∃ input s, tr.getLast? = some ⟨.guest input, .host (openCall s 0)⟩

omit [Crates] in
theorem Input.allows {input : GuestInput} (hin : Input tr input) (hr : Ready tr package s) :
    Allowed tr (.guest input) := by
  unfold Allowed
  split
  case h_8 handle hg =>
    obtain ⟨hgranted, hlast⟩ := hin handle (WorldCall.guest.inj hg)
    exact ⟨⟨package, s, hr⟩, hgranted, hlast⟩
  case h_9 => exact ⟨package, s, hr⟩
  all_goals contradiction

omit [Crates] in
theorem Reaches.allowed {c : WorldCall} (hc : Reaches granted c) (hr : Ready tr package s)
    (hg : granted = true → Granted tr) : Allowed tr c := by
  rcases hc with ⟨f, rfl⟩ | ⟨hc, hgranted⟩
  · exact ⟨package, s, hr⟩
  · cases c <;> first | exact ⟨⟨package, s, hr⟩, hg hgranted⟩ | cases hc

/-- What `run_probe` starts from and keeps. -/
structure Running (tr : Events) (package : PackageRef) (s : ServiceEndpoint) (granted : Bool) : Prop where
  ready : Ready tr package s
  granted : granted = true → Granted tr

omit [Crates] in
theorem Running.mono {tr' : Events} (hpre : tr <+: tr') (h : Running tr package s granted) :
    Running tr' package s granted :=
  ⟨h.ready.mono hpre, fun hg => (h.granted hg).mono hpre⟩

/-- What may be called while the guest runs: `Inv` is known of the history from then on, and `In` of
the guest's input. -/
structure GuestRule (T : ResourceTable) (granted : Bool) (ok : Events → WorldCall → Prop) (Inv : Events → Prop)
    (In : Events → GuestInput → Prop) : Prop where
  mono : ∀ {tr tr'}, tr <+: tr' → Inv tr → Inv tr'
  call : ∀ {tr c}, Inv tr → Reaches granted c → ok tr c
  guest : ∀ {tr input}, Inv tr → In tr input → ok tr (.guest input)
  /-- The guest goes on with work of its own. -/
  work : ∀ {tr input}, Inv tr → In tr input → In (tr ++ [⟨.guest input, .work⟩]) .proceed
  /-- A guest call is served, and its reply is the next input. -/
  reply : ∀ {tr tr₁ input c reply} {st st' : RuntimeState T World}, Inv tr → Attached granted st →
    Runs (Host.call st c) tr₁ (.ret (st', reply)) → In (tr ++ [⟨.guest input, .host c⟩] ++ tr₁) (.resume reply)

omit [Abi] in
/-- A guest that is run makes only such calls, and leaves the state wired. -/
theorem Attached.guest_run {ok : Events → WorldCall → Prop} {Inv : Events → Prop} {In : Events → GuestInput → Prop}
    (hrule : GuestRule T granted ok Inv In) (linker : Linker) (fuel : Nat) {st : RuntimeState T World}
    {input : GuestInput} {tr : Events} (h : Attached granted st) (hinv : Inv tr) (hin : In tr input) :
    Ensures ok (fun _ o => ∀ x, o = .ret x → Attached granted x.1.state) (guest_run linker st fuel input) tr := by
  have hret : ∀ {tr : Events} {st : RuntimeState T World} {fuel : Nat} {result : Option String}, Attached granted st →
      Ensures ok (fun _ o => ∀ x, o = .ret x → Attached granted x.1.state)
        (.ret (⟨st, fuel⟩, result) : Prog World (Store T × Option String)) tr := by
    rintro tr st fuel result h x ⟨⟩
    exact h
  -- By induction on the fuel. The next input is the reply to the call that was just served.
  induction fuel generalizing st input tr with
  | zero => exact hret h
  | succ fuel ih =>
    refine ⟨hrule.guest hinv hin, fun move => ?_⟩
    cases move with
    | work => exact ih h (hrule.mono (List.prefix_append ..) hinv) (hrule.work hinv hin)
    | done report => exact hret h
    | trap => exact hret h
    | host c =>
      have hpre : tr <+: tr ++ [⟨.guest input, .host c⟩] := List.prefix_append ..
      change Ensures _ _ (if interfaceOf c ∈ linker then _ else _) _
      by_cases hlinked : interfaceOf c ∈ linker
      · rw [if_pos hlinked]
        refine Ensures.bind (M := fun tr' x => Inv tr' ∧ Attached granted x.1 ∧ In tr' (.resume x.2)) ?_ ?_
        · refine (h.call_only c).ensures ?_ ?_
          · exact fun tr₁ c' hc' => hrule.call (hrule.mono (hpre.trans (List.prefix_append _ tr₁)) hinv) hc'
          · rintro tr₁ (⟨st', reply⟩ | msg) hrun
            · obtain ⟨table, rfl, hm⟩ := moves_of hrun
              exact ⟨hrule.mono (hpre.trans (List.prefix_append _ tr₁)) hinv, h.step hm, hrule.reply hinv h hrun⟩
            · exact nofun
        · rintro tr' ⟨st', reply⟩ ⟨hinv', h', hin'⟩
          dsimp only
          split
          · exact hret h'
          · exact ih h' hinv' hin'
      · rw [if_neg hlinked]
        exact hret h

/-- Once the binder answered, all of that is allowed. A handle comes right after the guest's own
move: `open` calls nothing. -/
theorem allowedRule : GuestRule T granted Allowed (fun tr => Running tr package s granted) Input where
  mono := Running.mono
  call := fun hinv hc => hc.allowed hinv.ready hinv.granted
  guest := fun hinv hin => hin.allows hinv.ready
  work := fun _ _ => nofun
  reply := by
    rintro tr tr₁ input c reply st st' hinv h hrun handle ⟨⟩
    obtain ⟨hgranted, ⟨s', rfl⟩, rfl⟩ := h.opened hrun
    refine ⟨(hinv.granted hgranted).mono ?_, input, s', by simp⟩
    rw [List.append_nil]
    exact List.prefix_append ..

end Attached
end LanternRuntime.Confined

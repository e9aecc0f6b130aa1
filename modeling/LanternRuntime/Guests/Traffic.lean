import LanternRuntime.Guests.Honest
/-!
# What the service saw of a launch

`traffic` lists what went over the channel: every request, and the status it
came back with. `success_earned` reads a launch of a probe guest off it. If the
launch signals `SUCCESS`, the guest used its grant before the revocation, the
service itself refused it after, and nothing else was asked of the service.
-/
open ProgLib

namespace LanternRuntime.Guests
open Host Confined

/-! ## Requests -/

/-- A request, and the status it was answered with unless the channel failed. -/
structure Request where
  op : UInt16
  request : Bytes
  answer : Except ChannelError UInt16
  deriving DecidableEq

def requestOf : Event World → Option Request
  | ⟨.channel _ op request _, ans⟩ => some ⟨op, request, ans.2.map Prod.fst⟩
  | _ => none

def traffic (tr : Confined.Events) : List Request := tr.filterMap requestOf

@[simp] theorem traffic_nil : traffic [] = [] := rfl

@[simp] theorem traffic_append (tr₁ tr₂ : Confined.Events) : traffic (tr₁ ++ tr₂) = traffic tr₁ ++ traffic tr₂ :=
  List.filterMap_append ..

theorem requestOf_quiet {e : Event World} (h : e.call.isChannel = false) : requestOf e = none := by
  obtain ⟨c, ans⟩ := e
  cases c <;> first | rfl | cases h

theorem traffic_quiet {tr : Confined.Events} (h : ∀ e ∈ tr, e.call.isChannel = false) : traffic tr = [] :=
  List.filterMap_eq_nil_iff.2 fun e he => requestOf_quiet (h e he)

/-- The guest's own moves are no requests. -/
theorem traffic_outside (tr : Confined.Events) : traffic (outside tr) = traffic tr := by
  unfold traffic outside
  rw [List.filterMap_filter]
  refine List.filterMap_congr fun e _ => ?_
  obtain ⟨c, ans⟩ := e
  cases c <;> rfl

/-! ## Answers -/

/-- What a guest may know of a reply with this status. -/
def verdict (ok access : UInt16) : Except ChannelError UInt16 → Except ErrorCode Unit
  | .ok status => if status = ok then .ok () else if status = access then .error .Access else .error .Invalid
  | .error _ => .error .Invalid

theorem verdict_ok {ok access : UInt16} {answer : Except ChannelError UInt16} (h : verdict ok access answer = .ok ()) :
    answer = .ok ok := by
  rcases answer with e | status
  · cases h
  · by_cases hok : status = ok
    · rw [hok]
    · rw [verdict, if_neg hok] at h
      split at h <;> cases h

theorem verdict_access {ok access : UInt16} {answer : Except ChannelError UInt16}
    (h : verdict ok access answer = .error .Access) : answer = .ok access := by
  rcases answer with e | status
  · cases h
  · by_cases hok : status = ok
    · rw [verdict, if_pos hok] at h
      cases h
    · rw [verdict, if_neg hok] at h
      split at h
      · next hacc => rw [hacc]
      · cases h

/-- A status that is not `OK`. -/
theorem verdict_denied {ok access status : UInt16} (hok : status ≠ ok) :
    verdict ok access (.ok status) = .error (if status = access then .Access else .Invalid) := by
  rw [verdict, if_neg hok]
  split <;> rfl

/-- Whether a result is one, and else its error. -/
def plain {α : Type} (x : Except ErrorCode α) : Except ErrorCode Unit := x.map fun _ => ()

section Calls
variable [Crates] {T : ResourceTable} {st st' : RuntimeState T World} {tr : Confined.Events} {reply : GuestReply}

omit [Crates] in
theorem slice_to_runs {b bytes : Bytes} {n : Nat} (h : Runs (slice_to b n : Prog World Bytes) tr (.ret bytes)) :
    tr = [] := by
  unfold slice_to at h
  split at h
  · exact (runs_ret.1 h).1
  · exact (runs_panic.1 h).1

/-- A reply that is taken apart as far as its status. -/
theorem replied_runs {n : Nat} {x : Reply n} {result : Except KeystoreError Bytes}
    (h : Runs (replied x : Prog World _) tr (.ret result)) :
    tr = [] ∧ plain (result.mapError to_error_code) =
      verdict Crates.crypto_OK Crates.crypto_ACCESS (x.2.map Prod.fst) := by
  obtain ⟨b, e | ⟨status, len⟩⟩ := x
  · obtain ⟨rfl, he⟩ := runs_ret.1 h
    cases he
    exact ⟨rfl, rfl⟩
  · by_cases hok : status = Crates.crypto_OK
    · simp only [replied, hok, ne_eq, not_true, if_false] at h
      obtain ⟨bytes, hslice, rfl⟩ := runs_bind_ret.1 h
      exact ⟨slice_to_runs hslice, by simp [verdict, plain, Except.map, Except.mapError, hok]⟩
    · simp only [replied, ne_eq, hok, not_false_iff, if_true] at h
      obtain ⟨rfl, he⟩ := runs_ret.1 h
      cases he
      exact ⟨rfl, (verdict_denied hok).symm⟩

/-- The status of a reply that is not `OK` is what is denied. -/
theorem replied_denied {n : Nat} {x : Reply n} {status : UInt16}
    (h : Runs (replied x : Prog World _) tr (.ret (.error (.RemoteDenied status)))) : x.2.map Prod.fst = .ok status := by
  obtain ⟨b, e | ⟨status', len⟩⟩ := x
  · cases (runs_ret.1 h).2
  · by_cases hok : status' = Crates.crypto_OK
    · simp only [replied, hok, ne_eq, not_true, if_false] at h
      obtain ⟨bytes, -, he⟩ := runs_bind_ret.1 h
      cases he
    · simp only [replied, ne_eq, hok, not_false_iff, if_true] at h
      cases (runs_ret.1 h).2
      rfl

omit [Crates] in
theorem expect_runs {α : Type} {msg : String} {a : Option α} {b : α} (h : Runs (expect msg a : Prog World α) tr (.ret b)) :
    tr = [] := by
  cases a with
  | none => exact (runs_panic.1 h).1
  | some a => exact (runs_ret.1 h).1

/-- An `encrypt` that comes back was one request. -/
theorem encrypt_traffic (badge : UInt64) (key : KeyId) {nonce : Nonce} {aad buffer : Bytes}
    {out : Buf buffer.length} {status : UInt16}
    (h : Runs (IpcKeystore.encrypt (channelTo DEST_CPTR) badge key nonce aad buffer) tr
      (.ret (out, .error (.RemoteDenied status)))) :
    ∃ request, traffic tr = [⟨Crates.OP_ENCRYPT, request, .ok status⟩] := by
  obtain ⟨tr₁, tr', len, rfl, h₁, h⟩ := runs_bind_value.1 h
  obtain ⟨tr₂, tr', request, rfl, h₂, h⟩ := runs_bind_value.1 h
  obtain ⟨tr₃, tr₄, result, rfl, h₃, h₄⟩ := runs_bind_value.1 h
  rw [exchange_run] at h₃
  obtain ⟨x, tr₅, rfl, hreplied⟩ := runs_call.1 h₃
  obtain rfl := expect_runs h₁
  obtain rfl := slice_to_runs h₂
  rcases result with e | reply
  · obtain ⟨rfl, he⟩ := runs_ret.1 h₄
    cases he
    obtain ⟨rfl, -⟩ := replied_runs hreplied
    exact ⟨request, congrArg (fun answer => [Request.mk Crates.OP_ENCRYPT request answer]) (replied_denied hreplied)⟩
  · dsimp only at h₄
    split at h₄
    · cases (runs_ret.1 h₄).2
    · split at h₄
      · cases (runs_ret.1 h₄).2
      · obtain ⟨y, -, he⟩ := runs_bind_ret.1 h₄
        cases he

/-- `sign` on a live handle is one request, and its status is what the guest gets to know. -/
theorem sign_traffic {key : Handle} {message : WitList} {cap : HostCapability}
    (hget : T.get st.table key = some (.key cap)) (hks : st.keystore = some (IpcKeystore.service (channelTo DEST_CPTR)))
    (hcall : Runs (call st (.sign key message)) tr (.ret (st', reply))) :
    ∃ result answer, reply = .bytes result ∧ traffic tr = [⟨Crates.OP_SIGN, Crates.encode_sign_request message, answer⟩] ∧
      plain result = verdict Crates.crypto_OK Crates.crypto_ACCESS answer := by
  rw [call_sign hget hks] at hcall
  obtain ⟨x, tr', rfl, hrest⟩ := runs_call.1 hcall
  obtain ⟨result, hreplied, he⟩ := runs_bind_ret.1 hrest
  cases he
  obtain ⟨rfl, hverdict⟩ := replied_runs hreplied
  refine ⟨_, _, rfl, rfl, ?_⟩
  rw [← hverdict]
  cases result <;> rfl

/-- What `IpcFilesystem` and the host functions make of a status. -/
theorem fs_replied_plain (answer : Except ChannelError (UInt16 × Nat)) :
    plain ((fs_replied answer).mapError to_fs_error_code) =
      verdict Crates.fs_OK Crates.fs_ACCESS (answer.map Prod.fst) := by
  rcases answer with e | ⟨status, len⟩
  · rfl
  · by_cases hok : status = Crates.fs_OK
    · simp [fs_replied, verdict, plain, Except.map, Except.mapError, hok]
    · rw [fs_replied, if_pos hok]
      exact (verdict_denied hok).symm

theorem fs_replied_readBack {n : Nat} (buffer : Buf n) (answer : Except ChannelError (UInt16 × Nat)) :
    plain (readBack (buffer, fs_replied answer)) = verdict Crates.fs_OK Crates.fs_ACCESS (answer.map Prod.fst) := by
  rw [← fs_replied_plain]
  rcases answer with e | ⟨status, len⟩
  · rfl
  · by_cases hok : status = Crates.fs_OK <;> simp [fs_replied, hok] <;> rfl

/-- `read` on a live handle is one request. -/
theorem read_traffic {file : Handle} {cap : HostFile} (hget : T.get st.table file = some (.file cap))
    (hfs : st.filesystem = some (IpcFilesystem.service (channelTo DEST_CPTR)))
    (hcall : Runs (call st (.read file)) tr (.ret (st', reply))) :
    ∃ result answer, reply = .bytes result ∧ traffic tr = [⟨Crates.OP_READ, [], answer⟩] ∧
      plain result = verdict Crates.fs_OK Crates.fs_ACCESS answer := by
  rw [call_read hget hfs] at hcall
  obtain ⟨x, tr', rfl, hrest⟩ := runs_call.1 hcall
  obtain ⟨rfl, he⟩ := runs_ret.1 hrest
  cases he
  exact ⟨_, _, rfl, rfl, fs_replied_readBack x.1 x.2⟩

/-- So is `write`, if the data fits in a block. -/
theorem write_traffic {file : Handle} {data : WitList} {cap : HostFile}
    (hget : T.get st.table file = some (.file cap))
    (hfs : st.filesystem = some (IpcFilesystem.service (channelTo DEST_CPTR)))
    (hdata : data.val.length ≤ MAX_BLOCK_LEN)
    (hcall : Runs (call st (.write file data)) tr (.ret (st', reply))) :
    ∃ result answer, reply = .written result ∧ traffic tr = [⟨Crates.OP_WRITE, data, answer⟩] ∧
      plain result = verdict Crates.fs_OK Crates.fs_ACCESS answer := by
  rw [call_write hget hfs hdata] at hcall
  obtain ⟨x, tr', rfl, hrest⟩ := runs_call.1 hcall
  obtain ⟨rfl, he⟩ := runs_ret.1 hrest
  cases he
  refine ⟨_, _, rfl, rfl, ?_⟩
  rw [← fs_replied_plain]
  cases fs_replied x.2 <;> rfl

end Calls

/-! ## Probe runs -/

/-- A read or write that went as it should: one that is too long is rejected as `invalid`. -/
inductive Accepted (file : Handle) : Event Wit → Prop
  | read {content} : Accepted file ⟨.read file, .ok content⟩
  | write {data : WitList} : data.val.length ≤ MAX_BLOCK_LEN → Accepted file ⟨.write file data, .ok ()⟩
  | oversized {data : WitList} : MAX_BLOCK_LEN < data.val.length →
      Accepted file ⟨.write file data, .error .Invalid⟩

section Carried
variable [Crates] {T : ResourceTable} {st st' : RuntimeState T World} {wit : Events} {own : Confined.Events}
  {s : ServiceEndpoint} {file : Handle}

theorem Carried.serviced (hc : Carried st wit own st') (h : Serviced st s) : Serviced st' s := by
  induction hc with
  | nil => exact h
  | cons hcall _ _ ih =>
    obtain ⟨table, rfl, -⟩ := moves_of hcall
    exact ih (h.moved table)

/-- Opens and drops make no request. -/
theorem Carried.silent (hc : Carried st wit own st') (h : (wit.all fun e => !e.call.isOperation) = true) :
    own = [] := by
  induction hc with
  | nil => rfl
  | cons hcall _ _ ih =>
    obtain ⟨hfirst, hrest⟩ := Bool.and_eq_true_iff.1 h
    rw [trace_of_not_operation (Bool.not_eq_true' _ ▸ hfirst) hcall, ih hrest, List.append_nil]

/-- A key that was opened is in the table. -/
theorem Carried.keyOpened {slot : UInt32} {key : Handle} (hc : Carried st (⟨.keystoreOpen slot, some key⟩ :: wit) own st') :
    ∃ table cap, T.get table key = some (.key cap) ∧ Carried { st with table := table } wit own st' := by
  obtain _ | @⟨_, _, tr₁, _, reply, _, _, _, _, hcall, hans, hrest⟩ := hc
  obtain rfl := trace_of_not_operation rfl hcall
  obtain ⟨table, rfl, hmoves⟩ := moves_of hcall
  cases hmoves with
  | keyOpened hslot hpush =>
    cases hans
    exact ⟨table, _, T.get_push_self hpush, hrest⟩
  | keyDeclined => cases hans
  | operated hop => cases hop

theorem Carried.fileOpened {slot : UInt32} (hc : Carried st (⟨.filesystemOpen slot, some file⟩ :: wit) own st') :
    ∃ table cap, T.get table file = some (.file cap) ∧ Carried { st with table := table } wit own st' := by
  obtain _ | @⟨_, _, tr₁, _, reply, _, _, _, _, hcall, hans, hrest⟩ := hc
  obtain rfl := trace_of_not_operation rfl hcall
  obtain ⟨table, rfl, hmoves⟩ := moves_of hcall
  cases hmoves with
  | fileOpened hslot hpush =>
    cases hans
    exact ⟨table, _, T.get_push_self hpush, hrest⟩
  | fileDeclined => cases hans
  | operated hop => cases hop

theorem Carried.signed {key : Handle} {message : WitList} {result : Except ErrorCode Bytes} {cap : HostCapability}
    (hc : Carried st (⟨.sign key message, result⟩ :: wit) own st') (hget : T.get st.table key = some (.key cap))
    (hst : Serviced st .Keystore) :
    ∃ answer own', traffic own = ⟨Crates.OP_SIGN, Crates.encode_sign_request message, answer⟩ :: traffic own' ∧
      plain result = verdict Crates.crypto_OK Crates.crypto_ACCESS answer ∧ Carried st wit own' st' := by
  obtain _ | @⟨_, _, tr₁, _, reply, _, _, own', _, hcall, hans, hrest⟩ := hc
  obtain ⟨result', answer, rfl, htraffic, hverdict⟩ := sign_traffic hget hst hcall
  obtain ⟨table, rfl, hmoves⟩ := moves_of hcall
  cases hmoves
  cases hans
  exact ⟨answer, own', by rw [traffic_append, htraffic, List.singleton_append], hverdict, hrest⟩

theorem Carried.read {result : Except ErrorCode Bytes} {cap : HostFile}
    (hc : Carried st (⟨.read file, result⟩ :: wit) own st') (hget : T.get st.table file = some (.file cap))
    (hst : Serviced st .Filesystem) :
    ∃ answer own', traffic own = ⟨Crates.OP_READ, [], answer⟩ :: traffic own' ∧
      plain result = verdict Crates.fs_OK Crates.fs_ACCESS answer ∧ Carried st wit own' st' := by
  obtain _ | @⟨_, _, tr₁, _, reply, _, _, own', _, hcall, hans, hrest⟩ := hc
  obtain ⟨result', answer, rfl, htraffic, hverdict⟩ := read_traffic hget hst hcall
  obtain ⟨table, rfl, hmoves⟩ := moves_of hcall
  cases hmoves
  cases hans
  exact ⟨answer, own', by rw [traffic_append, htraffic, List.singleton_append], hverdict, hrest⟩

theorem Carried.write {data : WitList} {result : Except ErrorCode Unit} {cap : HostFile}
    (hc : Carried st (⟨.write file data, result⟩ :: wit) own st') (hget : T.get st.table file = some (.file cap))
    (hst : Serviced st .Filesystem) (hdata : data.val.length ≤ MAX_BLOCK_LEN) :
    ∃ answer own', traffic own = ⟨Crates.OP_WRITE, data, answer⟩ :: traffic own' ∧
      plain result = verdict Crates.fs_OK Crates.fs_ACCESS answer ∧ Carried st wit own' st' := by
  obtain _ | @⟨_, _, tr₁, _, reply, _, _, own', _, hcall, hans, hrest⟩ := hc
  obtain ⟨result', answer, rfl, htraffic, hverdict⟩ := write_traffic hget hst hdata hcall
  obtain ⟨table, rfl, hmoves⟩ := moves_of hcall
  cases hmoves
  cases hans
  exact ⟨answer, own', by rw [traffic_append, htraffic, List.singleton_append], hverdict, hrest⟩

/-- A write that is too long makes no request. -/
theorem Carried.oversized {data : WitList} {result : Except ErrorCode Unit} {cap : HostFile}
    (hc : Carried st (⟨.write file data, result⟩ :: wit) own st') (hget : T.get st.table file = some (.file cap))
    (hdata : MAX_BLOCK_LEN < data.val.length) : Carried st wit own st' := by
  obtain _ | @⟨_, _, tr₁, _, reply, _, _, own', _, hcall, hans, hrest⟩ := hc
  obtain ⟨table, rfl, hmoves⟩ := moves_of hcall
  cases hmoves
  have hmalformed : (GuestCall.write file data).wellFormed = false := decide_eq_false (by omega)
  rw [call_malformed rfl hget rfl hmalformed] at hcall
  obtain ⟨rfl, -⟩ := runs_ret.1 hcall
  exact hrest

/-! ## What a probe asks for -/

/-- The request that a call on a live handle makes. -/
def asked (e : Event Wit) : Option (UInt16 × Bytes) :=
  match e.call with
  | .sign _ message => some (Crates.OP_SIGN, Crates.encode_sign_request message)
  | .read _ => some (Crates.OP_READ, [])
  | .write _ data => if data.val.length ≤ MAX_BLOCK_LEN then some (Crates.OP_WRITE, data) else none
  | _ => none

def answered (status : UInt16) (r : UInt16 × Bytes) : Request := ⟨r.1, r.2, .ok status⟩

variable {pre rest : Events} {cap : HostFile} {e : Event Wit} {debug : ErrorCode → String} {report : String}

/-- As long as all goes well, every request is answered `OK`. -/
theorem Carried.accepted (hc : Carried st (pre ++ rest) own st') (hall : ∀ e ∈ pre, Accepted file e)
    (hget : T.get st.table file = some (.file cap)) (hst : Serviced st .Filesystem) :
    ∃ own', traffic own = (pre.filterMap asked).map (answered Crates.fs_OK) ++ traffic own' ∧
      Carried st rest own' st' := by
  induction pre generalizing own with
  | nil => exact ⟨own, rfl, hc⟩
  | cons e pre ih =>
    obtain ⟨hfirst, hothers⟩ := List.forall_mem_cons.1 hall
    cases hfirst with
    | read =>
      obtain ⟨answer, own₁, htraffic, hverdict, hc₁⟩ := hc.read hget hst
      obtain ⟨own', htraffic', hc'⟩ := ih hc₁ hothers
      exact ⟨own', by rw [htraffic, htraffic', verdict_ok hverdict.symm]; rfl, hc'⟩
    | @write data hdata =>
      obtain ⟨answer, own₁, htraffic, hverdict, hc₁⟩ := hc.write hget hst hdata
      obtain ⟨own', htraffic', hc'⟩ := ih hc₁ hothers
      have hasked : asked ⟨.write file data, .ok ()⟩ = some (Crates.OP_WRITE, data.val) := if_pos hdata
      exact ⟨own', by rw [htraffic, htraffic', verdict_ok hverdict.symm, List.filterMap_cons_some hasked]; rfl, hc'⟩
    | @oversized data hdata =>
      obtain ⟨own', htraffic', hc'⟩ := ih (hc.oversized hget hdata) hothers
      have hasked : asked ⟨.write file data, .error .Invalid⟩ = none := if_neg (by omega)
      exact ⟨own', by rw [htraffic', List.filterMap_cons_none hasked], hc'⟩

open confined_fs_guest in
/-- The request that was denied is the last one. -/
theorem Carried.denied (hc : Carried st [e, ⟨.fileDrop file, ()⟩] own st') (he : AccessDenied file e)
    (hget : T.get st.table file = some (.file cap)) (hst : Serviced st .Filesystem) :
    ∃ r, asked e = some r ∧ traffic own = [answered Crates.fs_ACCESS r] := by
  rcases he with rfl | rfl
  · obtain ⟨answer, own', htraffic, hverdict, hc'⟩ := hc.read hget hst
    refine ⟨_, rfl, ?_⟩
    rw [htraffic, verdict_access hverdict.symm, hc'.silent rfl]
    rfl
  · obtain ⟨answer, own', htraffic, hverdict, hc'⟩ := hc.write hget hst content_fits
    refine ⟨_, rfl, ?_⟩
    rw [htraffic, verdict_access hverdict.symm, hc'.silent rfl]
    rfl

/-- The requests of a probe that is refused nothing. -/
def requestsOf : ServiceEndpoint → List (UInt16 × Bytes)
  | .Keystore => [(Crates.OP_SIGN, Crates.encode_sign_request confined_probe_guest.MESSAGE)]
  | .Filesystem => [(Crates.OP_READ, []), (Crates.OP_WRITE, confined_fs_guest.CONTENT), (Crates.OP_READ, []),
      (Crates.OP_READ, [])]

def okOf : ServiceEndpoint → UInt16
  | .Keystore => Crates.crypto_OK
  | .Filesystem => Crates.fs_OK

def accessOf : ServiceEndpoint → UInt16
  | .Keystore => Crates.crypto_ACCESS
  | .Filesystem => Crates.fs_ACCESS

/-- Every one of these requests was answered `OK`. -/
def Used (s : ServiceEndpoint) (requests : List Request) : Prop := requests = (requestsOf s).map (answered (okOf s))

/-- One of them was answered `ACCESS`. It was the last that was made. -/
def Shut (s : ServiceEndpoint) (requests : List Request) : Prop :=
  ∃ done r, done ++ [r] <+: requestsOf s ∧ requests = done.map (answered (okOf s)) ++ [answered (accessOf s) r]

/-- The key guest, from the message that it has signed on. -/
theorem signed_used (hc : Carried st wit own st') (hst : Serviced st .Keystore)
    (h : confined_probe_guest.Signed wit) : Used .Keystore (traffic own) := by
  obtain ⟨key, signature, rfl⟩ := h
  obtain ⟨table, cap, hget, hc⟩ := hc.keyOpened
  obtain ⟨answer, own', htraffic, hverdict, hc⟩ := hc.signed hget (hst.moved table)
  rw [htraffic, verdict_ok hverdict.symm, hc.silent rfl]
  rfl

theorem signed_shut (hc : Carried st wit own st') (hst : Serviced st .Keystore)
    (h : confined_probe_guest.Denied wit) : Shut .Keystore (traffic own) := by
  obtain ⟨key, rfl⟩ := h
  obtain ⟨table, cap, hget, hc⟩ := hc.keyOpened
  obtain ⟨answer, own', htraffic, hverdict, hc⟩ := hc.signed hget (hst.moved table)
  rw [htraffic, verdict_access hverdict.symm, hc.silent rfl]
  exact ⟨[], _, List.prefix_refl _, rfl⟩

open confined_fs_guest

/-- The file guest, up to its last read. -/
def uses (file : Handle) : Events := [⟨.read file, .ok []⟩, ⟨.write file CONTENT, .ok ()⟩, ⟨.read file, .ok CONTENT⟩,
  ⟨.write file OVERSIZED, .error .Invalid⟩, ⟨.read file, .ok CONTENT⟩]

omit [Crates] in
theorem uses_accepted : ∀ e ∈ uses file, Accepted file e := by
  simp only [uses, List.forall_mem_cons]
  exact ⟨.read, .write content_fits, .read, .oversized oversized_long, .read, nofun⟩

theorem uses_asked (file : Handle) : (uses file).filterMap asked = requestsOf .Filesystem := by
  have hfits := content_fits
  have hlong : ¬ OVERSIZED.val.length ≤ MAX_BLOCK_LEN := Nat.not_le.2 oversized_long
  simp [uses, asked, requestsOf, hfits, hlong]

theorem intact_used (hc : Carried st wit own st') (hst : Serviced st .Filesystem) (h : Intact wit) :
    Used .Filesystem (traffic own) := by
  obtain ⟨file, rfl⟩ := h
  obtain ⟨table, cap, hget, hc⟩ := hc.fileOpened
  have huses : Carried { st with table := table } (uses file ++ [⟨.filesystemOpen 1, none⟩, ⟨.fileDrop file, ()⟩])
      own st' := hc
  obtain ⟨own', htraffic, hc⟩ := huses.accepted uses_accepted hget (hst.moved table)
  rw [htraffic, uses_asked, hc.silent rfl, traffic_nil, List.append_nil]
  rfl

/-- A denied run is one of `uses` up to the call that was denied. -/
theorem denied_uses (hreport : Reports debug wit report) (h : confined_fs_guest.Denied wit) :
    ∃ file pre call e rest, uses file = pre ++ call :: rest ∧ AccessDenied file e ∧ asked e = asked call ∧
      wit = ⟨.filesystemOpen 0, some file⟩ :: (pre ++ [e, ⟨.fileDrop file, ()⟩]) := by
  cases hreport with
  | no_file =>
    obtain ⟨pre, file, e, he, -⟩ := h
    have hlength := congrArg List.length he
    simp at hlength
  | intact => exact absurd (denied_iff.1 h) (by rintro (h | h) <;> cases h)
  | leaked =>
    rw [List.append_cons, denied_iff] at h
    rcases h with h | h <;> cases h
  | @rejected file pre e report hrejected =>
    have he := denied_iff.1 h
    cases hrejected with
    | fresh_failed => exact ⟨file, [], _, _, _, rfl, he, rfl, rfl⟩
    | write_failed => exact ⟨file, (uses file).take 1, _, _, _, rfl, he, rfl, rfl⟩
    | read_back_failed => exact ⟨file, (uses file).take 2, _, _, _, rfl, he, rfl, rfl⟩
    | lost => exact ⟨file, (uses file).take 4, _, _, _, rfl, he, rfl, rfl⟩
    | oversized_denied =>
      rcases he with he | he
      · cases he
      · exact absurd (GuestCall.write.inj (congrArg Event.call he)).2 oversized_ne
    | _ => exact absurd he (by rintro (h | h) <;> cases h)

theorem denied_shut (hc : Carried st wit own st') (hst : Serviced st .Filesystem) (hreport : Reports debug wit report)
    (h : confined_fs_guest.Denied wit) : Shut .Filesystem (traffic own) := by
  obtain ⟨file, pre, call, e, rest, huses, hdenied, hcall, rfl⟩ := denied_uses hreport h
  obtain ⟨table, cap, hget, hc⟩ := hc.fileOpened
  have hpre : ∀ e ∈ pre, Accepted file e := fun e he => uses_accepted e (huses ▸ List.mem_append_left _ he)
  obtain ⟨own', htraffic, hc⟩ := hc.accepted hpre hget (hst.moved table)
  obtain ⟨r, hasked, htraffic'⟩ := hc.denied hdenied hget (hst.moved table)
  refine ⟨pre.filterMap asked, r, ?_, ?_⟩
  · rw [← uses_asked file, huses, List.filterMap_append, List.filterMap_cons_some (hcall.symm.trans hasked)]
    exact ⟨rest.filterMap asked, by simp⟩
  · rw [htraffic, htraffic']
    rfl

/-- What is asked of the service for a run of either guest. -/
theorem probe_traffic (hc : Carried st wit own st') (hst : Serviced st s) (hr : Runs (guestOf debug s) wit (.ret report)) :
    (Passed s wit → Used s (traffic own)) ∧ (Guests.Denied s wit → Shut s (traffic own)) := by
  cases s with
  | Keystore => exact ⟨signed_used hc hst, signed_shut hc hst⟩
  | Filesystem =>
    obtain ⟨report', he, hreport⟩ := runs_probe hr
    cases he
    exact ⟨intact_used hc hst, denied_shut hc hst hreport⟩

end Carried

/-! ## Launches -/

section Launch
variable [Crates] [Abi] {T : ResourceTable} {package : VerifiedPackage} {manifest : GrantManifest}
  {state : RuntimeState T World} {required : List String} {granted : Bool} {probe current : Prog Wit String}
  {s s' : ServiceEndpoint} {tr : Confined.Events}

omit [Crates] [Abi] in
theorem traffic_only {α : Type} {P : WorldCall → Prop} {p : Prog World α} {o : Outcome α} (hp : Only P p)
    (hP : ∀ c, P c → c.isChannel = false) (h : Runs p tr o) : traffic tr = [] :=
  traffic_quiet fun e he => hP _ (hp.runs h e he)

omit [Abi] in
/-- Nothing is asked of the service up to the first probe. Its report is that of a run of the guest's program. -/
theorem started_carried {x : Linker × Store T} (h : Started package manifest state required x tr)
    (hst : Attached granted state) (hplays : Plays probe current tr) :
    ∃ report wit own, Runs probe wit (.ret report) ∧ Carried state wit own x.2.state ∧
      check_report report required = .ok () ∧ (∀ e ∈ wit, interfaceOf e.call ∈ interfacesOf manifest) ∧
      traffic tr = traffic own := by
  obtain @⟨component, store₁, store₂, report₁, report, t₁, t₂, hinstantiate, hcall, hok, hall⟩ := h
  obtain ⟨_, h₁⟩ := plays_cons hplays
  obtain ⟨_, h₂⟩ := plays_right h₁
  obtain ⟨_, h₃⟩ := plays_cons h₂
  obtain ⟨_, h₄⟩ := plays_cons h₃
  obtain ⟨_, h₅⟩ := plays_right h₄
  obtain ⟨_, h₆⟩ := plays_cons h₅
  obtain ⟨wit, hwit, hcarried, -⟩ := carried_of_run hst hinstantiate (plays_left h₄)
  obtain ⟨rfl, -⟩ := runs_ret.1 hwit
  obtain ⟨hsame, hnone⟩ := carried_nil hcarried
  rw [hsame] at hcall
  obtain ⟨wit, hwit, hcarried, hlinked, -⟩ := carried_of_run hst hcall h₆
  refine ⟨_, wit, _, hwit, hcarried, check_report_ok.2 ⟨hok, hall⟩, hlinked, ?_⟩
  have hadditions : traffic (additions (interfacesOf manifest)) = [] := by
    refine traffic_quiet fun e he => ?_
    obtain ⟨i, -, rfl⟩ := List.mem_map.1 he
    rfl
  change traffic (additions _ ++ _) = _
  rw [traffic_append, hadditions, List.nil_append]
  change traffic (t₁ ++ _) = _
  rw [traffic_append, ← traffic_outside t₁, hnone, traffic_outside]
  rfl

/-- What was asked of the grant before the guest ran: a grant to sign was refused `ENCRYPT`. -/
def Checked : ServiceEndpoint → List Request → Prop
  | .Keystore, requests => ∃ request, requests = [⟨Crates.OP_ENCRYPT, request, .ok Crates.crypto_ACCESS⟩]
  | .Filesystem, requests => requests = []

omit [Abi] in
theorem attenuated_checked (h : Attenuated s true tr) : Checked s (traffic tr) := by
  cases h with
  | filesystem => exact rfl
  | refused h => exact encrypt_traffic 0 (.from_raw 0) h

omit [Crates] [Abi] in
theorem verified_silent {len : Nat} {p : PackageRef} (h : Verified len p tr) : traffic tr = [] := by
  refine traffic_only (verify_package_only len) ?_ (verify_package_ok.2 ⟨p, rfl, h⟩)
  intro c hc
  cases c <;> first | rfl | cases hc

omit [Crates] in
theorem asked_silent {interface : Nat} (h : Asked interface granted tr) : traffic tr = [] := by
  cases h <;> rfl

/-- What a launch that came to a second report asked of the service, with the two runs of the guest's program
that it asked it for. -/
structure Probed (T : ResourceTable) (debug : ErrorCode → String) (s : ServiceEndpoint) (report : String)
    (pre mid post : Confined.Events) : Prop where
  granted : ⟨.bind ENDPOINT_CPTR DEST_CPTR (interfaceNumber s) 0, .ok true⟩ ∈ pre
  revoked : Revoked (probeOf s).open_op mid
  used : ∃ checked used, traffic pre = checked ++ used ∧ Checked s checked ∧ Used s used
  again : ∃ (st st' : RuntimeState T World) (wit : Events) (own : Confined.Events), Serviced st s ∧
    Runs (guestOf debug s) wit (.ret report) ∧ Carried st wit own st' ∧ traffic post = traffic own

variable {debug : ErrorCode → String} {len : Nat} {report : String}

/-- A launch of a probe guest that comes to a second report had a grant, for the interface of that guest. -/
theorem launched_probed (haccess : contains (debug .Access) "\"access\"" = true)
    (hinvalid : contains (debug .Invalid) "\"access\"" = false) (h : Launched T len s' granted report tr)
    (hplays : Plays (guestOf debug s) current tr) :
    s' = s ∧ ∃ pre mid post, tr = pre ++ (mid ++ post) ∧ Probed T debug s report pre mid post := by
  obtain @⟨package, plan, s', granted, x, report, tr₁, tr₂, tr₃, tr₄, _, hverified, hdeclared, hasked, hattenuated,
    hstarted, hended⟩ := h
  obtain @⟨store, mid, post, hrevoked, hagain⟩ := hended
  obtain ⟨_, h₁⟩ := plays_right hplays
  obtain ⟨_, h₂⟩ := plays_cons h₁
  obtain ⟨_, h₃⟩ := plays_right h₂
  obtain ⟨_, h₄⟩ := plays_right h₃
  obtain ⟨_, h₅⟩ := plays_right h₄
  obtain ⟨_, h₆⟩ := plays_right h₅
  have hst : Attached granted (stateOf T s' (plan.requests s') granted) := attached_state T s' _ granted
  obtain ⟨report₁, wit₁, own₁, hwit₁, hcarried₁, hpasses, hlinked, htraffic⟩ :=
    started_carried hstarted hst (plays_left h₄)
  -- The guest can only call the one interface that was linked, so that is the one it was written for.
  have hs : s' = s := by
    have hmem := guest_linked hwit₁ hlinked
    rw [linker_declared (declared_requests hdeclared).1 (build_linker_ok.2 ⟨rfl, rfl⟩), List.mem_singleton] at hmem
    cases s <;> cases s' <;> first | rfl | cases hmem
  subst hs
  have hpassed : Passed s' wit₁ := (guest_verdicts haccess hinvalid hwit₁).1.1 hpasses
  obtain rfl := hcarried₁.granted hst hpassed
  have hserviced : Serviced (stateOf T s' (plan.requests s') true) s' := serviced_state s' _
  obtain ⟨wit₂, hwit₂, hcarried₂, -⟩ := carried_of_run (hcarried₁.attached hst) hagain h₆
  refine ⟨rfl, tr₁ ++ ⟨.parse_bytes package.manifest_bytes, some plan⟩ :: (tr₂ ++ (tr₃ ++ tr₄)), mid, post, by simp, ?_⟩
  refine ⟨?_, hrevoked, ⟨traffic tr₃, traffic tr₄, ?_, ?_, ?_⟩, ?_⟩
  · cases hasked
    simp
  · rw [traffic_append, verified_silent hverified, List.nil_append]
    change traffic (tr₂ ++ (tr₃ ++ tr₄)) = _
    rw [traffic_append, asked_silent hasked, List.nil_append, traffic_append]
  · exact attenuated_checked hattenuated
  · rw [htraffic]
    exact (probe_traffic hcarried₁ hserviced hwit₁).1 hpassed
  · exact ⟨_, _, wit₂, _, hcarried₁.serviced hserviced, hwit₂, hcarried₂, (traffic_outside post).symm⟩

/-- `SUCCESS` is signalled only at the end of a launch that went as required. -/
theorem runs_success {o : Outcome Unit} (h : Runs (run_and_report len (host_the_guest T)) tr o) {stage detail : Nat}
    (hsignal : ⟨.signal_with SUCCESS_CPTR stage detail, ()⟩ ∈ tr) :
    ∃ mid top, tr = preamble ++ (mid ++ success top) ∧ AsRequired T len mid := by
  obtain ⟨mid, rest, rfl, hhost⟩ := runs_run_and_report.1 h
  have hquiet : ∀ {o'}, Runs (host_the_guest T len).run mid o' →
      (⟨.signal_with SUCCESS_CPTR stage detail, ()⟩ : Event World) ∉ mid := by
    intro o' hmid hmem
    obtain ⟨before, after, rfl⟩ := List.append_of_mem hmem
    cases ((host_the_guest_quiet T len).sound hmid).2 before _ after rfl
  have hpreamble : (⟨.signal_with SUCCESS_CPTR stage detail, ()⟩ : Event World) ∉ preamble := by
    rw [preamble, List.mem_cons, List.mem_singleton]
    rintro (he | he) <;> cases he
  simp only [List.mem_append, hpreamble, false_or] at hsignal
  rcases hhost with ⟨result, hmid, hrest⟩ | ⟨msg, hmid, -, rfl⟩
  · obtain ⟨-, hrest⟩ := runs_report_result.1 hrest
    rcases result with ⟨stage', detail'⟩ | ⟨⟩
    · obtain rfl := hrest
      rcases hsignal with hmem | hmem
      · exact absurd hmem (hquiet hmid)
      · -- The one signal of a failure goes elsewhere.
        cases List.mem_singleton.1 hmem
    · obtain ⟨top, rfl⟩ := hrest
      exact ⟨mid, top, rfl, host_the_guest_ok.1 hmid⟩
  · exact absurd (hsignal.resolve_right List.not_mem_nil) (hquiet hmid)

/-- A launch of a probe guest signals `SUCCESS` only if the binder granted it the service, the guest used the
service before the grant was revoked, and the service itself denied it after. These were all the requests. -/
theorem success_earned (haccess : contains (debug .Access) "\"access\"" = true)
    (hinvalid : contains (debug .Invalid) "\"access\"" = false) {o : Outcome Unit}
    (h : Runs (run_and_report len (host_the_guest T)) tr o) (hplays : Plays (guestOf debug s) current tr)
    {stage detail : Nat} (hsignal : ⟨.signal_with SUCCESS_CPTR stage detail, ()⟩ ∈ tr) :
    ∃ pre mid post, tr = pre ++ (mid ++ post) ∧
      ⟨.bind ENDPOINT_CPTR DEST_CPTR (interfaceNumber s) 0, .ok true⟩ ∈ pre ∧
      (∃ checked used, traffic pre = checked ++ used ∧ Checked s checked ∧ Used s used) ∧
      Revoked (probeOf s).open_op mid ∧ Shut s (traffic post) := by
  obtain ⟨launch, top, rfl, s', granted, report, hlaunched, hrefusal⟩ := runs_success h hsignal
  obtain ⟨_, h₁⟩ := plays_right hplays
  obtain ⟨rfl, pre, mid, post, rfl, hprobed⟩ := launched_probed haccess hinvalid hlaunched (plays_left h₁)
  refine ⟨preamble ++ pre, mid, post ++ success top, by simp, List.mem_append_right _ hprobed.granted, hprobed.used,
    hprobed.revoked, ?_⟩
  obtain ⟨st, st', wit, own, hserviced, hwit, hcarried, htraffic⟩ := hprobed.again
  have hdenied := (guest_verdicts haccess hinvalid hwit).2.1 hrefusal
  have hpost : traffic (post ++ success top) = traffic own := by
    rw [traffic_append, htraffic]
    exact List.append_nil _
  rw [hpost]
  exact (probe_traffic hcarried hserviced hwit).2 hdenied

end Launch

/-- The keystore demo asks for one signature before the grant is revoked, and for one after. -/
theorem success_earned_demo :
    letI := lengthPrefixed
    letI := abiNumbers
    ∃ tr pre mid post, Runs (run_and_report 16 (host_the_guest demoTable)) tr (.ret ()) ∧ tr = pre ++ (mid ++ post) ∧
      ⟨.bind ENDPOINT_CPTR DEST_CPTR (interfaceNumber .Keystore) 0, .ok true⟩ ∈ pre ∧
      (∃ checked used, traffic pre = checked ++ used ∧ Checked .Keystore checked ∧ Used .Keystore used) ∧
      Revoked (probeOf .Keystore).open_op mid ∧ Shut .Keystore (traffic post) := by
  let _ := lengthPrefixed
  let _ := abiNumbers
  have hrun := runs_run demoOutside (run_and_report 16 (host_the_guest demoTable)) .start
  have hhonest := demo_honest (run_and_report 16 (host_the_guest demoTable))
  obtain ⟨hend, launch, top, htr, -⟩ := runs_reported demo_assured hrun hhonest
  rw [hend] at hrun
  have hsignal : ⟨.signal_with SUCCESS_CPTR Stage.Done.code (top - HEAP_BASE), ()⟩ ∈
      (run_and_report 16 (host_the_guest demoTable)).trace demoOutside .start := by
    rw [htr, success]
    simp
  obtain ⟨pre, mid, post, hsplit, hearned⟩ :=
    success_earned (s := .Keystore) demo_access demo_invalid hrun (holds_plays hhonest) hsignal
  exact ⟨_, pre, mid, post, hrun, hsplit, hearned⟩

end LanternRuntime.Guests

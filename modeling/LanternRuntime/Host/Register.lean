import LanternRuntime.Host.Reference
import LanternRuntime.Host.Routing
/-!
# Files as registers

A `FileStore` is a service that keeps a map from files to contents and checks
every call on its own. Over it, `files_are_registers` says what a guest reads:
the last write any handle of the same file got an `Ok` for, whatever handles,
slots and badges the calls in between went through.
-/
open ProgLib

namespace LanternRuntime.Host

variable {T : ResourceTable} {σ : Type}

/-- A service that keeps files. A call answered with an error was refused, for a badge or
any other reason. -/
structure FileStore (h : Handler Services σ) where
  content : σ → FileId → Option Bytes
  read_ok : ∀ {badge file buffer s out n}, (h (.read badge file buffer) s).1 = (out, .ok n) →
    content s file = some (out.val.take n)
  read_empty : ∀ {badge file buffer s out}, (h (.read badge file buffer) s).1 = (out, .error .FileEmpty) →
    content s file = none
  write_ok : ∀ {badge file data s}, (h (.write badge file data) s).1 = .ok () →
    content (h (.write badge file data) s).2 = Function.update (content s) file (some data)
  write_refused : ∀ {badge file data s e}, (h (.write badge file data) s).1 = .error e →
    content (h (.write badge file data) s).2 = content s
  other : ∀ {sc s}, (∀ badge file data, sc ≠ .write badge file data) → content (h sc s).2 = content s

/-! ## What was written last -/

/-- The record a handle was last opened from, as a file. -/
def fileOf (m : GrantManifest) (hist : List (HostStep Services)) (r : Handle) : Option HostFile :=
  match lastEvent hist r with
  | some (.opened .Filesystem _ slot) => m.filesystem_files[slot.toNat]?.join
  | _ => none

/-- The write that the step, served after `hist`, got an `Ok` for. -/
def writeOf (m : GrantManifest) (hist : List (HostStep Services)) (e : HostStep Services) : Option (FileId × Bytes) :=
  match e.call, e.reply with
  | .write r bytes, .written (.ok ()) => (fileOf m hist r).map fun cap => (cap.file, bytes.val)
  | _, _ => none

/-- The bytes last written to `file` in a history, the latest step first, or what it
held at the start. -/
def lastWritten (m : GrantManifest) (init : FileId → Option Bytes) (file : FileId) :
    List (HostStep Services) → Option Bytes
  | [] => init file
  | e :: before =>
    match writeOf m before.reverse e with
    | some (written, bytes) => if written = file then some bytes else lastWritten m init file before
    | none => lastWritten m init file before

theorem lastWritten_snoc (m : GrantManifest) (init : FileId → Option Bytes) (file : FileId)
    (hist : List (HostStep Services)) (e : HostStep Services) :
    lastWritten m init file (hist ++ [e]).reverse = match writeOf m hist e with
      | some (written, bytes) => if written = file then some bytes else lastWritten m init file hist.reverse
      | none => lastWritten m init file hist.reverse := by
  rw [List.reverse_append, List.reverse_singleton, List.singleton_append, lastWritten, List.reverse_reverse]

theorem Ledger.fileOf {m : GrantManifest} {ks : Option (KeystoreService Services)}
    {fs : Option (FilesystemService Services)} {hist : List (HostStep Services)} {st : RuntimeState T Services}
    (hl : Ledger m ks fs hist st) {r : Handle} {cap : HostFile} (hg : T.get st.table r = some (.file cap)) :
    fileOf m hist r = some cap := by
  obtain ⟨slot, hlast, hgr⟩ := hl.live r _ hg
  have hlast' : lastEvent hist r = some (.opened .Filesystem r slot) := hlast
  obtain ⟨cap', hcap, he⟩ := Option.map_eq_some_iff.1 hgr
  cases he
  simp only [Host.fileOf, hlast', hcap]

/-! ## One call -/

section Step
variable [Crates] {h : Handler Services σ} {m : GrantManifest} {ks : Option (KeystoreService Services)}
  {fs : Option (FilesystemService Services)} {hist : List (HostStep Services)} {st st' : RuntimeState T Services}
  {w w' : σ} {c : GuestCall} {reply : GuestReply}

/-- A served call, seen from the services: an operation asked them what `Asks` says, any
other call left them alone. -/
theorem asked_of_run (ho : Outside st) (hr : (call st c).run h w = (.ret (st', reply), w')) :
    ∃ tr, w' = after h tr w ∧ Answered h tr w ∧
      (Asks st c tr reply ∨ (c.isOperation = false ∧ tr = [])) := by
  have hrun := runs_run h (call st c) w
  have hw := run_snd h (call st c) w
  rw [hr] at hrun hw
  refine ⟨_, hw, trace_answered h (call st c) w, ?_⟩
  by_cases hop : c.isOperation = true
  · exact .inl (asks_of ho hop hrun).2
  · exact .inr ⟨by simpa using hop, trace_of_not_operation (by simpa using hop) hrun⟩

/-- A read that is `Ok` shows the content of the file behind its handle. -/
theorem read_shows (F : FileStore h) (hl : Ledger m ks fs hist st) (ho : Outside st) {r : Handle} {bytes : Bytes}
    (hr : (call st (.read r)).run h w = (.ret (st', .bytes (.ok bytes)), w')) :
    ∃ cap, fileOf m hist r = some cap ∧ bytes = (F.content w cap.file).getD [] := by
  obtain ⟨tr, rfl, hans, ha | ⟨hop, -⟩⟩ := asked_of_run ho hr
  · generalize hreply : GuestReply.bytes (.ok bytes) = reply at ha
    cases ha with
    | refused => cases hreply
    | @forwarded _ i _ x sc a hh hg hi hf =>
      cases hf with
      | @read _ cap =>
        cases hh
        obtain ⟨ha, -⟩ := hans
        refine ⟨cap, hl.fileOf hg, ?_⟩
        obtain ⟨out, e | n⟩ := a
        · by_cases he : e = .FileEmpty
          · subst he
            cases hreply
            rw [F.read_empty ha.symm]
            rfl
          · -- Any other error is shown as one, and this read was `Ok`.
            have hshown := GuestReply.bytes.inj hreply
            rw [readBack_error he] at hshown
            cases hshown
        · cases hreply
          rw [F.read_ok ha.symm]
          rfl
  · cases hop

/-- A write that is `Ok` went through a handle that names a file. -/
theorem write_names (hl : Ledger m ks fs hist st) (ho : Outside st) {r : Handle} {data : WitList}
    (hr : (call st (.write r data)).run h w = (.ret (st', .written (.ok ())), w')) :
    ∃ cap, fileOf m hist r = some cap := by
  obtain ⟨tr, -, -, ha | ⟨hop, -⟩⟩ := asked_of_run ho hr
  · generalize hreply : GuestReply.written (.ok ()) = reply at ha
    cases ha with
    | refused => cases hreply
    | @forwarded _ i _ x sc a hh hg hi hf =>
      cases hf with
      | @write _ _ cap =>
        cases hh
        exact ⟨cap, hl.fileOf hg⟩
  · cases hop

/-- What a call does to the files: an `Ok` write replaces one content, nothing else does. -/
theorem content_step (F : FileStore h) (hl : Ledger m ks fs hist st) (ho : Outside st)
    (hr : (call st c).run h w = (.ret (st', reply), w')) (tr : List (Event Services)) :
    F.content w' = match writeOf m hist ⟨c, reply, tr⟩ with
      | some (file, bytes) => Function.update (F.content w) file (some bytes)
      | none => F.content w := by
  obtain ⟨tr', rfl, hans, ha | ⟨hop, rfl⟩⟩ := asked_of_run ho hr
  · cases ha with
    | refused => cases c <;> rfl
    | clock => exact F.other fun _ _ _ hne => nomatch hne
    | resolution => rfl
    | @forwarded _ i r x sc a hh hg hi hf =>
      cases hf with
      | encrypt | decrypt | sign | read => exact F.other fun _ _ _ hne => nomatch hne
      | @write r bytes cap =>
        cases hh
        obtain ⟨ha, -⟩ := hans
        have hfile := hl.fileOf hg
        obtain e | _ := a
        · exact F.write_refused ha.symm
        · simp only [ServiceCall.shown, written, Except.mapError, writeOf, hfile, Option.map_some]
          exact F.write_ok ha.symm
  · cases c with
    | keystoreOpen | filesystemOpen | keyDrop | fileDrop => rfl
    | _ => cases hop

end Step

/-! ## Every call of every session -/

/-- The files hold what the history says was written last. -/
theorem contents_of [Crates] {h : Handler Services σ} (F : FileStore h) {m : GrantManifest} {ks fs : Bool}
    {hist : List (HostStep Services)} {st : RuntimeState T Services} {w₀ w : σ}
    (hs : Served h call (RuntimeState.attach m (if ks then some outsideKeystore else none)
      (if fs then some outsideFilesystem else none)) w₀ hist st w) (file : FileId) :
    F.content w file = lastWritten m (F.content w₀) file hist.reverse := by
  -- By induction on the session: the last step writes what `writeOf` says.
  induction hs with
  | nil => rfl
  | @snoc hist st w c st' reply w' hs hr ih =>
    have hl := ledger_of hs.session
    rw [lastWritten_snoc, content_step F hl (outside_attach hl) hr]
    cases writeOf m hist ⟨c, reply, (call st c).trace h w⟩ with
    | none => exact ih
    | some fb =>
      by_cases hf : fb.1 = file
      · simp [hf]
      · simp [Function.update_of_ne (Ne.symm hf), hf, ih]

/-- What a call after `hist` sees of the files, and does to them. -/
structure RegisterStep {h : Handler Services σ} (F : FileStore h) (m : GrantManifest) (w₀ : σ)
    (hist : List (HostStep Services)) (w : σ) (c : GuestCall) (reply : GuestReply) (w' : σ) : Prop where
  /-- An `Ok` read shows the last `Ok` write to the file its handle names, through whatever
  handle, and else the content it started with. -/
  read : ∀ r bytes, c = .read r → reply = .bytes (.ok bytes) → ∃ cap, fileOf m hist r = some cap ∧
    bytes = (lastWritten m (F.content w₀) cap.file hist.reverse).getD []
  /-- An `Ok` write replaces the content of the file its handle names. -/
  written : ∀ r data, c = .write r data → reply = .written (.ok ()) → ∃ cap, fileOf m hist r = some cap ∧
    F.content w' = Function.update (F.content w) cap.file (some data.val)
  /-- A write that fails changes no file. -/
  refused : ∀ r data e, c = .write r data → reply = .written (.error e) → F.content w' = F.content w
  /-- A write changes no other file than its own. -/
  separate : ∀ r data, c = .write r data → ∀ file, (∀ cap, fileOf m hist r = some cap → cap.file ≠ file) →
    F.content w' file = F.content w file
  /-- No other call changes a file. -/
  quiet : (∀ r data, c ≠ .write r data) → F.content w' = F.content w

theorem writeOf_write {m : GrantManifest} {hist : List (HostStep Services)} {r : Handle} {data : WitList}
    {reply : GuestReply} {tr : List (Event Services)} {file : FileId} {bytes : Bytes}
    (h : writeOf m hist ⟨.write r data, reply, tr⟩ = some (file, bytes)) :
    reply = .written (.ok ()) ∧ ∃ cap, fileOf m hist r = some cap ∧ cap.file = file ∧ bytes = data.val := by
  unfold writeOf at h
  split at h
  · next r' data' hc hr =>
    cases hc
    obtain ⟨cap, hcap, he⟩ := Option.map_eq_some_iff.1 h
    cases he
    exact ⟨hr, cap, hcap, rfl, rfl⟩
  · cases h

/-- After every session of every guest, whatever handles it opened and dropped and
whatever the store refused, each next call treats each file as a register. -/
theorem files_are_registers [Crates] (T : ResourceTable) (m : GrantManifest) (ks fs : Bool)
    (h : Handler Services σ) (F : FileStore h) (w₀ w w' : σ) (hist : List (HostStep Services))
    (st st' : RuntimeState T Services) (c : GuestCall) (reply : GuestReply)
    (hs : Served h call (RuntimeState.attach m (if ks then some outsideKeystore else none)
      (if fs then some outsideFilesystem else none)) w₀ hist st w)
    (hr : (call st c).run h w = (.ret (st', reply), w')) : RegisterStep F m w₀ hist w c reply w' := by
  have hl := ledger_of hs.session
  have ho := outside_attach hl
  have hstep := content_step F hl ho hr []
  constructor
  · rintro r bytes rfl rfl
    obtain ⟨cap, hcap, hb⟩ := read_shows F hl ho hr
    exact ⟨cap, hcap, by rw [hb, contents_of F hs]⟩
  · rintro r data rfl rfl
    obtain ⟨cap, hcap⟩ := write_names hl ho hr
    refine ⟨cap, hcap, ?_⟩
    rw [hstep]
    simp only [writeOf, hcap, Option.map_some]
  · rintro r data e rfl rfl
    exact hstep
  · rintro r data rfl file hfile
    cases hw : writeOf m hist ⟨.write r data, reply, []⟩ with
    | none => rw [hstep, hw]
    | some fb =>
      -- The write is to the file of its own handle, which is not `file`.
      obtain ⟨-, cap, hcap, hf, -⟩ := writeOf_write hw
      rw [hstep, hw]
      exact Function.update_of_ne (fun he => hfile cap hcap (hf.trans he.symm)) _ _
  · intro hne
    cases hw : writeOf m hist ⟨c, reply, []⟩ with
    | none => rw [hstep, hw]
    | some fb =>
      cases c with
      | write r data => exact absurd rfl (hne r data)
      | _ => cases hw

/-- The reference store is one. -/
def referenceStore : FileStore reference where
  content s file := (s file).map Subtype.val
  read_ok := by
    intro badge file buffer s out n h
    unfold reference at h
    cases hb : mayRead badge <;> simp only [hb] at h
    · cases h
    · exact readContent_ok h
  read_empty := by
    intro badge file buffer s out h
    unfold reference at h
    cases hb : mayRead badge <;> simp only [hb] at h
    · cases h
    · rw [readContent_empty h, Option.map_none]
  write_ok := by
    intro badge file data s h
    unfold reference at h ⊢
    by_cases hb : mayWrite badge = true ∧ data.length ≤ MAX_BLOCK_LEN
    · simp only [dif_pos hb]
      funext f
      by_cases hf : f = file
      · subst hf
        simp
      · simp [Function.update_of_ne hf]
    · simp only [dif_neg hb] at h
      cases h
  write_refused := by
    intro badge file data s e h
    unfold reference at h ⊢
    by_cases hb : mayWrite badge = true ∧ data.length ≤ MAX_BLOCK_LEN
    · simp only [dif_pos hb] at h
      cases h
    · simp only [dif_neg hb]
  other := by
    intro sc s hne
    cases sc with
    | write badge file data => exact absurd rfl (hne badge file data)
    | _ => rfl

/-- One file behind two badges, the second of which may only read. -/
def sharedFile : GrantManifest :=
  ⟨[], [some (.filesystem_file 7 (.from_raw 3)), some (.filesystem_file 8 (.from_raw 3))], none⟩

/-- It is written through the first handle, and a write through the second is refused. -/
def sharedCalls : List GuestCall :=
  [.filesystemOpen 0, .filesystemOpen 1, .write 0 ⟨[1, 2], by decide⟩, .write 1 ⟨[3], by decide⟩]

set_option maxRecDepth 4000 in
/-- Then a read through the second handle shows what went through the first. -/
theorem files_are_registers_shared :
    letI := lengthPrefixed
    ∃ hist st st' w w', replay reference call sharedCalls
        (RuntimeState.attach (T := slabTable Entry 4 (by decide)) sharedFile none (some outsideFilesystem))
        (fun _ => none) = some (hist, st, w) ∧
      (call st (.read 1)).run reference w = (.ret (st', .bytes (.ok [1, 2])), w') ∧
      RegisterStep referenceStore sharedFile (fun _ => none) hist w (.read 1) (.bytes (.ok [1, 2])) w' := by
  let _ := lengthPrefixed
  refine ⟨_, _, _, _, _, rfl, rfl, ?_⟩
  apply files_are_registers (slabTable Entry 4 (by decide)) sharedFile false true
  · exact replay_served reference call sharedCalls _ _ rfl
  · rfl

end LanternRuntime.Host

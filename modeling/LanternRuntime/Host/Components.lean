import LanternRuntime.ProgLib.Tenants
import LanternRuntime.Host.Register
/-!
# Components side by side

Any number of hosted components, each with a manifest, a handle table and a
guest of its own, share the services. Their calls are served one at a time: a
host function asks a service at most once, and touches nothing else that is
shared. `components_isolated`: a group of them is not touched by the rest,
whatever those do, unless one of the rest was granted an object that the group
was granted too and that some call can change.

Components that do share files see them as registers: `components_share_files`
is `files_are_registers` across any number of tables.
-/
open ProgLib

namespace LanternRuntime.Host

variable {T : ResourceTable} {σ ι O V : Type}

/-- What a component is launched with. -/
structure Hosted where
  manifest : GrantManifest
  keystore : Bool
  filesystem : Bool

variable (T) in
def Hosted.start (c : Hosted) : RuntimeState T Services :=
  RuntimeState.attach c.manifest (if c.keystore then some outsideKeystore else none)
    (if c.filesystem then some outsideFilesystem else none)

section Ledger
variable [Crates] {m : GrantManifest} {ks : Option (KeystoreService Services)}
  {fs : Option (FilesystemService Services)} {hist : List (HostStep Services)} {st : RuntimeState T Services}

omit [Crates] in
/-- What a live entry forwards to, the manifest grants. -/
theorem Ledger.granted_of_get (hl : Ledger m ks fs hist st) {r : Handle} {x : Entry} (hg : T.get st.table r = some x)
    {c : GuestCall} {sc : ServiceCall} (hf : Forwards c x sc) : sc.GrantedBy m := by
  obtain ⟨slot, -, hgr⟩ := hl.live r x hg
  exact forwards_granted hgr hf

/-- Whatever it is answered, a host function asks only for what the manifest grants. -/
theorem Ledger.call_only (hl : Ledger m ks fs hist st) (ho : Outside st) (c : GuestCall) :
    Only (fun sc : ServiceCall => sc.GrantedBy m) (call st c) := by
  by_cases hop : c.isOperation = true
  · obtain ⟨p, hs, hp⟩ := serves_of st hop
    rw [hp]
    refine Only.bind ?_ fun _ => trivial
    cases hs with
    | dead | malformed | unattached | resolution | unclocked => trivial
    | encrypt hg hn hb =>
      obtain rfl := ho.keystore _ hb
      exact ⟨hl.granted_of_get hg (.encrypt (r := 0) hn), fun _ => trivial⟩
    | decrypt hg hn ht hb =>
      obtain rfl := ho.keystore _ hb
      exact ⟨hl.granted_of_get hg (.decrypt (r := 0) hn ht), fun _ => trivial⟩
    | sign hg hb =>
      obtain rfl := ho.keystore _ hb
      exact ⟨hl.granted_of_get hg (.sign (r := 0)), fun _ => trivial⟩
    | read hg hb =>
      obtain rfl := ho.filesystem _ hb
      exact ⟨hl.granted_of_get hg (.read (r := 0)), fun _ => trivial⟩
    | write hg hlen hb =>
      obtain rfl := ho.filesystem _ hb
      exact ⟨hl.granted_of_get hg (.write (r := 0) hlen), fun _ => trivial⟩
    | @now clock hk => exact ⟨⟨clock, hl.clock ▸ hk, rfl⟩, fun _ => trivial⟩
  · cases c with
    | keystoreOpen | keyDrop | filesystemOpen | fileDrop => trivial
    | _ => exact absurd rfl hop

end Ledger

/-! ## Isolation -/

/-- Some call that the component is granted is about the object. -/
def Hosted.Names (of : ServiceCall → O) (c : Hosted) (o : O) : Prop :=
  ∃ sc : ServiceCall, sc.GrantedBy c.manifest ∧ of sc = o

/-- In every session, a component asks only about objects that it names. -/
theorem Hosted.call_only [Crates] (c : Hosted) (of : ServiceCall → O) {hist : List (HostStep Services)}
    {st : RuntimeState T Services} (hs : Session call (c.start T) hist st) (gc : GuestCall) :
    Only (fun sc : ServiceCall => c.Names of (of sc)) (call st gc) := by
  have hl := ledger_of hs
  exact (hl.call_only (outside_attach hl) gc).mono fun sc hsc => ⟨sc, hsc, rfl⟩

/-- In every run of any number of components, with any guests and in any order of their calls: take
out all steps of those outside of a group that shares with them only objects that no call changes.
What is left is a run, in which the group got the same replies, and it ends with the same handle tables
and the same objects for the group. -/
theorem components_isolated [Crates] [DecidableEq ι] (T : ResourceTable) (h : ι → Handler Services σ)
    (of : ι → ServiceCall → O) (B : Objects h of V) (hosted : ι → Hosted) (group : ι → Bool)
    (hsep : ∀ i j o, group i = true → group j = false → (hosted i).Names (of i) o → (hosted j).Names (of j) o →
      B.Fixed o)
    (w₀ w : σ) (hist : List (ι × HostStep Services)) (s : ι → Option (RuntimeState T Services))
    (hs : Shared h call (fun i => (hosted i).start T) w₀ hist s w) :
    ∃ s' w', Shared h call (fun i => (hosted i).start T) w₀ (hist.filter fun e => group e.1) s' w' ∧
      SameTo B (fun i => (hosted i).Names (of i)) group s s' w w' :=
  hs.isolated (fun i => (hosted i).Names (of i)) group B
    (fun hsession c => (hosted _).call_only (of _) hsession c) hsep

/-- What a service call is about. -/
inductive HostObject where
  | key (key : KeyId)
  | file (file : FileId)
  | clock (now_ns : FnPtr)

def ServiceCall.object : ServiceCall → HostObject
  | .encrypt _ key _ _ _ | .decrypt _ key _ _ _ _ | .sign _ key _ => .key key
  | .read _ file _ | .write _ file _ => .file file
  | .now_ns f => .clock f

/-- What the reference services keep of an object. -/
def contentOf (files : Files) : HostObject → Option Content
  | .file file => files file
  | _ => none

/-- They keep their objects apart. -/
def referenceObjects : Objects (fun _ : ι => reference) (fun _ => ServiceCall.object) (Option Content) where
  view := contentOf
  answers := by
    intro i c w w' hw
    cases c with
    | encrypt | decrypt | sign | now_ns => exact ⟨rfl, rfl⟩
    | read badge file buffer =>
      change w file = w' file at hw
      refine ⟨?_, hw⟩
      simp only [reference, hw]
    | write badge file data =>
      simp only [reference, ServiceCall.object, contentOf] at hw ⊢
      split
      · refine ⟨rfl, ?_⟩
        change Function.update w file _ file = Function.update w' file _ file
        rw [Function.update_self, Function.update_self]
      · exact ⟨rfl, hw⟩
  others := by
    intro i c w o ho
    cases c with
    | encrypt | decrypt | sign | now_ns | read => rfl
    | write badge file data =>
      simp only [reference]
      split
      · cases o with
        | key | clock => rfl
        | file other => exact Function.update_of_ne (fun he => ho (congrArg HostObject.file he)) _ _
      · rfl

/-- Only files change. -/
theorem referenceObjects_fixed {o : HostObject} (ho : ∀ file, o ≠ .file file) :
    (referenceObjects (ι := ι)).Fixed o := by
  intro i c w _
  cases o with
  | file file => exact absurd rfl (ho file)
  | key | clock => rfl

/-- A key that both components have, and a file. -/
def keyAndFile (file : Nat) : GrantManifest :=
  ⟨[some (.keystore_key 7 (.from_raw 1))], [some (.filesystem_file 7 (.from_raw file))], none⟩

/-- Two components with a key in common and a file each. -/
def neighbours (i : Bool) : Hosted := ⟨keyAndFile (if i then 3 else 4), true, true⟩

theorem neighbours_names {i : Bool} {file : FileId} (hn : (neighbours i).Names ServiceCall.object (.file file)) :
    file = .from_raw (if i then 3 else 4) := by
  obtain ⟨sc, hg, ho⟩ := hn
  cases sc with
  | encrypt | decrypt | sign | now_ns => cases ho
  | read | write =>
    cases ho
    obtain ⟨cap, hcap, -, rfl⟩ := hg
    cases List.mem_singleton.1 hcap
    rfl

set_option maxRecDepth 4000 in
/-- Each opens its file, one writes, the other reads. -/
theorem components_isolated_neighbours :
    letI := lengthPrefixed
    let T := slabTable Entry 4 (by decide)
    ∃ (hist : List (Bool × HostStep Services)) (s : Bool → Option (RuntimeState T Services)) (w : Files),
      hist.map visible = [(true, .filesystemOpen 0, .opened (some 0)), (false, .filesystemOpen 0, .opened (some 0)),
        (false, .write 0 ⟨[9], by decide⟩, .written (.ok ())), (true, .read 0, .bytes (.ok []))] ∧
      ∃ s' w', Shared (fun _ => reference) call (fun i => (neighbours i).start T) (fun _ => none)
          (hist.filter fun e => e.1) s' w' ∧
        SameTo referenceObjects (fun i => (neighbours i).Names ServiceCall.object) id s s' w w' := by
  let _ := lengthPrefixed
  refine ⟨_, _, _, ?_, components_isolated (slabTable Entry 4 (by decide)) (fun _ => reference)
    (fun _ => ServiceCall.object) referenceObjects neighbours id ?_ (fun _ => none) _ _ _
    ((((Shared.nil.served (i := true) (c := .filesystemOpen 0) rfl rfl).served (i := false)
      (c := .filesystemOpen 0) rfl rfl).served (i := false) (c := .write 0 ⟨[9], by decide⟩) rfl rfl).served
      (i := true) (c := .read 0) rfl rfl)⟩
  · rfl
  · intro i j o hi hj hni hnj
    refine referenceObjects_fixed fun file hfile => ?_
    subst hfile
    have he := (neighbours_names hni).symm.trans (neighbours_names hnj)
    rw [show i = true from hi, show j = false from hj] at he
    cases he

/-! ## Files that components share -/

section Files
variable [Crates] {h : Handler Services σ} {st st' : RuntimeState T Services} {w w' : σ} {c : GuestCall}

/-- A host function that panics has called no service. -/
theorem panic_quiet (ho : Outside st) {msg : String} (hr : (call st c).run h w = (.panic msg, w')) : w' = w := by
  by_cases hop : c.isOperation = true
  · obtain ⟨p, hs, hp⟩ := serves_of st hop
    rw [hp] at hr
    cases hs with
    | dead | malformed | unattached | resolution => cases hr
    | encrypt hg hn hb | decrypt hg hn ht hb | sign hg hb =>
      obtain rfl := ho.keystore _ hb
      cases hr
    | read hg hb | write hg hlen hb =>
      obtain rfl := ho.filesystem _ hb
      cases hr
    | now hk => cases hr
    | unclocked =>
      cases hr
      rfl
  · cases c with
    | keystoreOpen | keyDrop | filesystemOpen | fileDrop => cases hr
    | _ => exact absurd rfl hop

/-- The write that a step after `before` got an `Ok` for. -/
def writeBy [DecidableEq ι] (hosted : ι → Hosted) (before : List (ι × HostStep Services)) (e : ι × HostStep Services) :
    Option (FileId × Bytes) :=
  writeOf (hosted e.1).manifest (stepsOf e.1 before) e.2

/-- The bytes any component last wrote to `file`, the latest step first, or what it held at the start. -/
def lastWrittenBy [DecidableEq ι] (hosted : ι → Hosted) (init : FileId → Option Bytes) (file : FileId) :
    List (ι × HostStep Services) → Option Bytes
  | [] => init file
  | e :: before =>
    match writeBy hosted before.reverse e with
    | some (written, bytes) => if written = file then some bytes else lastWrittenBy hosted init file before
    | none => lastWrittenBy hosted init file before

variable [DecidableEq ι] {hosted : ι → Hosted} {w₀ : σ} {hist : List (ι × HostStep Services)}
  {s : ι → Option (RuntimeState T Services)}

omit [Crates] in
theorem lastWrittenBy_snoc (init : FileId → Option Bytes) (file : FileId) (e : ι × HostStep Services) :
    lastWrittenBy hosted init file (hist ++ [e]).reverse = match writeBy hosted hist e with
      | some (written, bytes) => if written = file then some bytes else lastWrittenBy hosted init file hist.reverse
      | none => lastWrittenBy hosted init file hist.reverse := by
  rw [List.reverse_append, List.reverse_singleton, List.singleton_append, lastWrittenBy, List.reverse_reverse]

/-- Each file holds what was written to it last, by whichever component. -/
theorem contents_shared (F : FileStore h)
    (hs : Shared (fun _ => h) call (fun i => (hosted i).start T) w₀ hist s w) (file : FileId) :
    F.content w file = lastWrittenBy hosted (F.content w₀) file hist.reverse := by
  refine hs.inv (I := fun hist w => F.content w file = lastWrittenBy hosted (F.content w₀) file hist.reverse) rfl ?_ ?_
  · intro hist s w i x c x' r w' hs ih hx hr
    have hl := ledger_of (hs.session hx)
    rw [lastWrittenBy_snoc, content_step F hl (outside_attach hl) hr ((call x c).trace h w), writeBy]
    cases writeOf (hosted i).manifest (stepsOf i hist) ⟨c, r, (call x c).trace h w⟩ with
    | none => exact ih
    | some fb =>
      by_cases hf : fb.1 = file
      · simp [hf]
      · simp [Function.update_of_ne (Ne.symm hf), hf, ih]
  · intro hist s w i x c msg w' hs ih hx hr
    rw [panic_quiet (outside_attach (ledger_of (hs.session hx))) hr]
    exact ih

end Files

/-- In every run of any number of components over one store, each file holds what was written to it last, and an
`Ok` read, by whichever component and through whichever handle, shows that. -/
theorem components_share_files [Crates] [DecidableEq ι] (T : ResourceTable) (h : Handler Services σ) (F : FileStore h)
    (hosted : ι → Hosted) (w₀ w : σ) (hist : List (ι × HostStep Services)) (s : ι → Option (RuntimeState T Services))
    (hs : Shared (fun _ => h) call (fun i => (hosted i).start T) w₀ hist s w) :
    (∀ file, F.content w file = lastWrittenBy hosted (F.content w₀) file hist.reverse) ∧
    ∀ pre post i r bytes tr, hist = pre ++ (i, ⟨.read r, .bytes (.ok bytes), tr⟩) :: post →
      ∃ cap, fileOf (hosted i).manifest (stepsOf i pre) r = some cap ∧
        bytes = (lastWrittenBy hosted (F.content w₀) cap.file pre.reverse).getD [] := by
  refine ⟨contents_shared F hs, ?_⟩
  rintro pre post i r bytes tr rfl
  obtain ⟨s₁, w₁, x, x', w₂, hpre, hx, hr⟩ := hs.at
  have hl := ledger_of (hpre.session hx)
  obtain ⟨cap, hcap, hb⟩ := read_shows F hl (outside_attach hl) hr
  exact ⟨cap, hcap, by rw [hb, contents_shared F hpre]⟩

set_option maxRecDepth 4000 in
/-- One component writes, and another, which may only read, reads that. -/
theorem components_share_files_read :
    letI := lengthPrefixed
    let both (_ : Bool) : Hosted := ⟨sharedFile, false, true⟩
    ∃ (pre : List (Bool × HostStep Services)) (cap : HostFile),
      pre.map visible = [(true, .filesystemOpen 0, .opened (some 0)), (false, .filesystemOpen 1, .opened (some 0)),
        (true, .write 0 ⟨[1, 2], by decide⟩, .written (.ok ()))] ∧
      fileOf (both false).manifest (stepsOf false pre) 0 = some cap ∧
      [1, 2] = (lastWrittenBy both (referenceStore.content fun _ => none) cap.file pre.reverse).getD [] := by
  let _ := lengthPrefixed
  have hnil : Shared (fun _ : Bool => reference) call
      (fun _ => Hosted.start (slabTable Entry 4 (by decide)) ⟨sharedFile, false, true⟩) (fun _ => none) [] _ _ := .nil
  have hs := (((hnil.served (i := true) (c := .filesystemOpen 0) rfl rfl).served (i := false)
    (c := .filesystemOpen 1) rfl rfl).served (i := true) (c := .write 0 ⟨[1, 2], by decide⟩) rfl rfl).served
    (i := false) (c := .read 0) rfl rfl
  obtain ⟨cap, hcap, hb⟩ := (components_share_files (slabTable Entry 4 (by decide)) reference referenceStore
    (fun _ => ⟨sharedFile, false, true⟩) _ _ _ _ hs).2 _ [] false 0 [1, 2] _ rfl
  exact ⟨_, cap, rfl, hcap, hb⟩

end LanternRuntime.Host

import LanternRuntime.Host.Components
import LanternRuntime.Guests.Placement
/-!
# Confined runtimes side by side

Any number of confined runtimes run at a time, each a process of its own with
an endpoint of its own, and the endpoints lead to services that share a state.
`confined_side_by_side`: in any order of their host calls this is the same as
to host all of them next to those services. With `Shared.isolated`, what holds
of components in one process holds of these: `confined_isolated`.
-/
open ProgLib

namespace LanternRuntime.Guests
open Host Confined

variable [Crates] {T : ResourceTable} {σ τ ι O V : Type}

/-! ## One of them -/

/-- What a confined runtime makes its state of. -/
structure Confinement where
  interface : ServiceEndpoint
  requests : List ResourceRequest
  granted : Bool

namespace Confinement

variable (T) in
/-- The state of its host functions. -/
def there (c : Confinement) : RuntimeState T World := stateOf T c.interface c.requests c.granted

/-- The same component, next to its service. -/
def hosted (c : Confinement) : Hosted where
  manifest := grantsOf c.interface c.requests c.granted
  keystore := c.interface = .Keystore
  filesystem := c.interface = .Filesystem

omit [Crates] in
theorem hosted_start (c : Confinement) : c.hosted.start T = inside T c.interface c.requests c.granted := by
  obtain ⟨s, requests, granted⟩ := c
  cases s <;> rfl

end Confinement

section Step
variable {h : Handler Services σ} {g : Handler World τ} {view : τ → σ}

/-- The states agree but for their services, and have no clock. -/
structure Beside (h : Handler Services σ) (g : Handler World τ) (view : τ → σ) (here : RuntimeState T Services)
    (there : RuntimeState T World) : Prop where
  twins : Twins h g (fun s t => view t = s) Named here there
  unclocked : here.clock = none

theorem Endpoint.beside (c : Confinement) (he : Endpoint c.interface h g view) :
    Beside h g view (c.hosted.start T) (c.there T) where
  twins := c.hosted_start (T := T) ▸ he.twins c.requests c.granted
  unclocked := by
    rw [c.hosted_start]
    cases hi : c.interface <;> rfl

variable (h g view) in
/-- Every host call is served alike on both sides. Without a clock, `now` panics on both. -/
theorem beside_sim : StepSim (fun _ => True) h g (fun s t => view t = s) (Beside (T := T) h g view) call call := by
  intro c _ here there hv
  by_cases hc : c = .now
  · subst hc
    have hpanic : call here .now = .panic "monotonic-clock linked without a source" := by
      simp only [call, monotonic_clock.now, hv.unclocked]
      rfl
    have hpanic' : call there .now = .panic "monotonic-clock linked without a source" := by
      simp only [call, monotonic_clock.now, hv.twins.clock, hv.unclocked]
      rfl
    rw [hpanic, hpanic']
    exact .panic _
  · intro s t hst
    obtain ⟨hout, hview⟩ := call_sim T h g _ Named c (fun hn => absurd hn hc) here there hv.twins s t hst
    refine ⟨?_, hview⟩
    have hrun := runs_run h (call here c) s
    generalize (call here c).run h s = x at hout hrun ⊢
    generalize (call there c).run g t = y at hout ⊢
    obtain ⟨⟨here', reply⟩ | msg, s'⟩ := x <;> obtain ⟨⟨there', reply'⟩ | msg', t'⟩ := y <;>
      simp only [OutcomeRel] at hout ⊢
    · obtain ⟨table, rfl, -⟩ := moves_of hrun
      exact ⟨⟨hout.1, hv.unclocked⟩, hout.2⟩
    · exact hout

end Step

/-! ## All of them -/

section Neighbours
variable [DecidableEq ι] {h : ι → Handler Services σ} {g : ι → Handler World τ} {view : τ → σ} {cs : ι → Confinement}
  {t₀ t : τ} {w : σ}

/-- The components have the same handles on both sides, and have panicked alike. -/
def TablesAlike {E E' : Sig} (x : ι → Option (RuntimeState T E)) (y : ι → Option (RuntimeState T E')) : Prop :=
  ∀ i, (x i).map RuntimeState.table = (y i).map RuntimeState.table

/-- What runs confined runs next to the services. -/
theorem brought_here (he : ∀ i, Endpoint (cs i).interface (h i) (g i) view)
    {hist : List (ι × Step World GuestCall GuestReply)} {there : ι → Option (RuntimeState T World)}
    (hs : Shared g call (fun i => (cs i).there T) t₀ hist there t) :
    ∃ hist' here, Shared h call (fun i => (cs i).hosted.start T) (view t₀) hist' here (view t) ∧
      hist'.map visible = hist.map visible ∧ TablesAlike here there := by
  obtain ⟨hist', here, w, hs', hvisible, hv, rfl⟩ :=
    hs.sim (fun i => (beside_sim (h i) (g i) view).flip) (fun i => (he i).beside (cs i)) rfl
  exact ⟨hist', here, hs', hvisible, fun i => (rel_map (fun _ _ hb => hb.twins.table) (hv i)).symm⟩

/-- And the other way. -/
theorem brought_there (he : ∀ i, Endpoint (cs i).interface (h i) (g i) view)
    {hist : List (ι × HostStep Services)} {here : ι → Option (RuntimeState T Services)}
    (hs : Shared h call (fun i => (cs i).hosted.start T) (view t₀) hist here w) :
    ∃ hist' there t, Shared g call (fun i => (cs i).there T) t₀ hist' there t ∧ view t = w ∧
      hist'.map visible = hist.map visible ∧ TablesAlike there here := by
  obtain ⟨hist', there, t, hs', hvisible, hv, ht⟩ :=
    hs.sim (fun i => beside_sim (h i) (g i) view) (fun i => (he i).beside (cs i)) rfl
  exact ⟨hist', there, t, hs', ht, hvisible, fun i => (rel_map (fun _ _ hb => hb.twins.table.symm) (hv i)).symm⟩

end Neighbours

/-! ## Two files behind two endpoints -/

/-- The reference store as an endpoint shows it: whatever the caller names, it is `file`. -/
def behind (file : FileId) : Handler Services Files
  | .read _ _ buffer, s => reference (.read 7 file buffer) s
  | .write _ _ data, s => reference (.write 7 file data) s
  | c, s => reference c s

/-- The endpoint. -/
def behindWorld (file : FileId) : Handler World Files
  | .channel _ op request reply, s =>
    letI := lengthPrefixed
    remoteStore reference 7 file storeStatus (.channel op request reply) s
  | c, s => ((keystoreWorld c false).1, s)

omit [Crates] in
theorem behind_endpoint (file : FileId) :
    letI := lengthPrefixed
    Endpoint .Filesystem (behind file) (behindWorld file) id := by
  let _ := lengthPrefixed
  obtain ⟨hread, hwrite⟩ := remoteStore_reference 7 file
  -- The answers are equal, under calls that differ in what they name.
  refine ⟨fun reply t => ?_, fun data reply hdata t => ?_⟩
  · obtain ⟨r, t', hrun, hview, hsent⟩ := hread reply t
    refine ⟨r, t', hrun, hview, ?_⟩
    rcases hx : (reference (.read 7 file (zeros MAX_BLOCK_LEN).val) t).1 with ⟨content, e | n⟩
    · have hx' : (behind file (.read 0 (.from_raw 0) (zeros MAX_BLOCK_LEN).val) t).1 = (content, .error e) := hx
      simp only [id_eq, hx] at hsent
      simp only [id_eq, hx']
      cases e <;> exact hsent
    · have hx' : (behind file (.read 0 (.from_raw 0) (zeros MAX_BLOCK_LEN).val) t).1 = (content, .ok n) := hx
      simp only [id_eq, hx] at hsent
      simp only [id_eq, hx']
      exact hsent
  · obtain ⟨r, t', hrun, hview, hsent⟩ := hwrite data reply hdata t
    refine ⟨r, t', hrun, hview, ?_⟩
    rcases hx : (reference (.write 7 file data) t).1 with e | ⟨⟩
    · have hx' : (behind file (.write 0 (.from_raw 0) data) t).1 = .error e := hx
      simp only [id_eq, hx] at hsent
      simp only [id_eq, hx']
      exact hsent
    · have hx' : (behind file (.write 0 (.from_raw 0) data) t).1 = .ok () := hx
      simp only [id_eq, hx] at hsent
      simp only [id_eq, hx']
      exact hsent

/-- What a call reaches there. -/
def reached (file : FileId) : ServiceCall → HostObject
  | .read .. | .write .. => .file file
  | c => c.object

omit [Crates] in
theorem reached_file {file : FileId} {requests : List ResourceRequest} {granted : Bool} {o : HostObject}
    (hn : (Confinement.mk .Filesystem requests granted).hosted.Names (reached file) o) : o = .file file := by
  obtain ⟨sc, hg, rfl⟩ := hn
  cases sc with
  | read | write => rfl
  | encrypt | decrypt | sign =>
    obtain ⟨cap, hcap, -⟩ := hg
    cases hcap
  | now_ns =>
    obtain ⟨clock, hclock, -⟩ := hg
    cases hclock

def behindObjects (files : ι → FileId) :
    Objects (fun i => behind (files i)) (fun i => reached (files i)) (Option Content) where
  view := contentOf
  answers i c w w' hw := by
    cases c with
    | read badge file buffer => exact (referenceObjects (ι := ι)).answers i (.read 7 (files i) buffer) w w' hw
    | write badge file data => exact (referenceObjects (ι := ι)).answers i (.write 7 (files i) data) w w' hw
    | encrypt | decrypt | sign | now_ns => exact ⟨rfl, rfl⟩
  others i c w o ho := by
    cases c with
    | read badge file buffer => exact (referenceObjects (ι := ι)).others i (.read 7 (files i) buffer) w o ho
    | write badge file data => exact (referenceObjects (ι := ι)).others i (.write 7 (files i) data) w o ho
    | encrypt | decrypt | sign | now_ns => rfl

/-- Two confined runtimes with a file each. -/
def twoFiles (i : Bool) : FileId := .from_raw (if i then 3 else 4)

def oneFile : Confinement := ⟨.Filesystem, [⟨"notes"⟩], true⟩

omit [Crates] in
theorem two_files_apart {i j : Bool} {o : HostObject} (hi : i = true) (hj : j = false)
    (hni : oneFile.hosted.Names (reached (twoFiles i)) o) (hnj : oneFile.hosted.Names (reached (twoFiles j)) o) :
    False := by
  have he := (reached_file hni).symm.trans (reached_file hnj)
  rw [hi, hj] at he
  cases he

/-- Both open their file, one writes, both read. -/
def twoFilesSeen : List (Bool × GuestCall × GuestReply) :=
  [(true, .filesystemOpen 0, .opened (some 0)), (false, .filesystemOpen 0, .opened (some 0)),
    (false, .write 0 ⟨[9], by decide⟩, .written (.ok ())), (true, .read 0, .bytes (.ok [])),
    (false, .read 0, .bytes (.ok [9]))]

omit [Crates] in
set_option maxRecDepth 8000 in
theorem two_files_run :
    letI := lengthPrefixed
    ∃ hist there t, Shared (fun i => behindWorld (twoFiles i)) call (fun _ => oneFile.there demoTable) (fun _ => none)
      hist there t ∧ hist.map visible = twoFilesSeen := by
  let _ := lengthPrefixed
  have hnil : Shared (fun i => behindWorld (twoFiles i)) call (fun _ => oneFile.there demoTable) (fun _ => none)
    [] _ _ := .nil
  refine ⟨_, _, _, ((((hnil.served (i := true) (c := .filesystemOpen 0) rfl rfl).served (i := false)
    (c := .filesystemOpen 0) rfl rfl).served (i := false) (c := .write 0 ⟨[9], by decide⟩) rfl rfl).served
    (i := true) (c := .read 0) rfl rfl).served (i := false) (c := .read 0) rfl rfl, ?_⟩
  rfl

/-! ## In every order -/

/-- Any number of confined runtimes, each behind an endpoint to its service: in every order of their host calls, what
they do is what the same components do next to those services, call by call, with the same handles and the same
state of the services, and nothing else. -/
theorem confined_side_by_side [DecidableEq ι] (T : ResourceTable) (h : ι → Handler Services σ)
    (g : ι → Handler World τ) (view : τ → σ) (cs : ι → Confinement)
    (he : ∀ i, Endpoint (cs i).interface (h i) (g i) view) (t₀ : τ) :
    (∀ (hist : List (ι × Step World GuestCall GuestReply)) there t,
      Shared g call (fun i => (cs i).there T) t₀ hist there t →
      ∃ hist' here, Shared h call (fun i => (cs i).hosted.start T) (view t₀) hist' here (view t) ∧
        hist'.map visible = hist.map visible ∧ TablesAlike here there) ∧
    ∀ (hist : List (ι × HostStep Services)) here w,
      Shared h call (fun i => (cs i).hosted.start T) (view t₀) hist here w →
      ∃ hist' there t, Shared g call (fun i => (cs i).there T) t₀ hist' there t ∧ view t = w ∧
        hist'.map visible = hist.map visible ∧ TablesAlike there here :=
  ⟨fun _ _ _ hs => brought_here he hs, fun _ _ _ hs => brought_there he hs⟩

/-- Confined runtimes do not touch each other: take out all host calls of those outside of a group that shares with
them only objects that no call changes. What is left is a run with the same replies for the group, and it ends
with the same handles and the same objects for the group. -/
theorem confined_isolated [DecidableEq ι] (T : ResourceTable) (h : ι → Handler Services σ) (g : ι → Handler World τ)
    (view : τ → σ) (cs : ι → Confinement) (he : ∀ i, Endpoint (cs i).interface (h i) (g i) view)
    (of : ι → ServiceCall → O) (B : Objects h of V) (group : ι → Bool)
    (hsep : ∀ i j o, group i = true → group j = false → (cs i).hosted.Names (of i) o → (cs j).hosted.Names (of j) o →
      B.Fixed o)
    (t₀ t : τ) (hist : List (ι × Step World GuestCall GuestReply)) (there : ι → Option (RuntimeState T World))
    (hs : Shared g call (fun i => (cs i).there T) t₀ hist there t) :
    ∃ hist' there' t', Shared g call (fun i => (cs i).there T) t₀ hist' there' t' ∧
      hist'.map visible = (hist.filter fun e => group e.1).map visible ∧
      (∀ i, group i = true → (there' i).map RuntimeState.table = (there i).map RuntimeState.table) ∧
      ∀ i o, group i = true → (cs i).hosted.Names (of i) o → B.view (view t') o = B.view (view t) o := by
  -- Next to the services, without the others, and back behind the endpoints.
  obtain ⟨hist₁, here₁, hs₁, hvisible₁, htables₁⟩ := brought_here he hs
  obtain ⟨here₂, w, hs₂, hsame⟩ := hs₁.isolated (fun i => (cs i).hosted.Names (of i)) group B
    (fun hsession c => (cs _).hosted.call_only (of _) hsession c) hsep
  obtain ⟨hist', there', t', hs', rfl, hvisible, htables⟩ := brought_there he hs₂
  refine ⟨hist', there', t', hs', hvisible.trans (visible_filter hvisible₁ group), fun i hi => ?_, hsame.objects⟩
  rw [htables i, hsame.states i hi, htables₁ i]

omit [Crates] in
/-- What the two do, they do next to their services too. -/
theorem confined_side_by_side_files :
    letI := lengthPrefixed
    ∃ (hist' : List (Bool × HostStep Services)) (here : Bool → Option (RuntimeState demoTable Services)) (w : Files),
      Shared (fun i => behind (twoFiles i)) call (fun _ => oneFile.hosted.start demoTable) (fun _ => none)
        hist' here w ∧
      hist'.map visible = twoFilesSeen := by
  let _ := lengthPrefixed
  obtain ⟨hist, there, t, hs, hseen⟩ := two_files_run
  obtain ⟨hist', here, hs', hvisible, -⟩ := (confined_side_by_side demoTable (fun i => behind (twoFiles i))
    (fun i => behindWorld (twoFiles i)) id (fun _ => oneFile) (fun i => behind_endpoint (twoFiles i))
    fun _ => none).1 hist there t hs
  exact ⟨hist', here, t, hs', hvisible.trans hseen⟩

omit [Crates] in
/-- Without the writer, the reader has read the same. -/
theorem confined_isolated_files :
    letI := lengthPrefixed
    ∃ hist' there' t', Shared (fun i => behindWorld (twoFiles i)) call (fun _ => oneFile.there demoTable)
        (fun _ => none) hist' there' t' ∧
      hist'.map visible = [(true, .filesystemOpen 0, .opened (some 0)), (true, .read 0, .bytes (.ok []))] := by
  let _ := lengthPrefixed
  obtain ⟨hist, there, t, hs, hseen⟩ := two_files_run
  obtain ⟨hist', there', t', hs', hvisible, -⟩ := confined_isolated demoTable (fun i => behind (twoFiles i))
    (fun i => behindWorld (twoFiles i)) id (fun _ => oneFile) (fun i => behind_endpoint (twoFiles i))
    (fun i => reached (twoFiles i)) (behindObjects twoFiles) id
    (fun _ _ _ hi hj hni hnj => (two_files_apart hi hj hni hnj).elim) _ t hist there hs
  have hfilter := congrArg (List.filter fun v => v.1) hseen
  rw [List.filter_map] at hfilter
  exact ⟨hist', there', t', hs', hvisible.trans hfilter⟩

end LanternRuntime.Guests

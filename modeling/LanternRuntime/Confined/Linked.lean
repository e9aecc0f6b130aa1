import LanternRuntime.Host.Routing
import LanternRuntime.Host.Totality
import LanternRuntime.Confined.Wiring
/-!
# What a linked guest can call

`build_linker` and `RuntimeState::new` read the same manifest, each on its own.
They agree on the clock: it is linked only where the state has a source, and no
call takes the source away. So no call of a linked interface panics.
-/
open ProgLib

namespace LanternRuntime.Confined
open Host

section Linked
variable [Crates] {T : ResourceTable} {E : Sig} [Clocked E] {m : GrantManifest} {ks : Option (KeystoreService E)}
  {fs : Option (FilesystemService E)} {linker : Linker} {tr : Events} {hist : List (Step E GuestCall GuestReply)}
  {st : RuntimeState T E}

omit [Crates] in
/-- A linked clock has a source. -/
theorem clock_of_linked (hl : Runs (build_linker m).run tr (.ret (.ok linker)))
    (hc : Interface.monotonic_clock ∈ linker) : m.monotonic_clock ≠ none := by
  intro hnone
  obtain ⟨rfl, -⟩ := build_linker_ok.1 hl
  rw [interfacesOf, hnone] at hc
  cases hk : m.keystore_keys.isEmpty <;> cases hf : m.filesystem_files.isEmpty <;> simp [hk, hf] at hc

/-- What a session leaves alone: the backends and the clock. -/
theorem session_attached (hs : Session call (RuntimeState.attach m ks fs : RuntimeState T E) hist st) :
    st.keystore = ks ∧ st.filesystem = fs ∧ st.clock = m.monotonic_clock := by
  refine hs.inv (I := fun _ st => st.keystore = ks ∧ st.filesystem = fs ∧ st.clock = m.monotonic_clock)
    ⟨rfl, rfl, rfl⟩ ?_
  rintro hist s c tr s' r ⟨hk, hf, hc⟩ hr
  obtain ⟨table, rfl, -⟩ := moves_of hr
  exact ⟨hk, hf, hc⟩

end Linked

/-- How the next call of a linked guest goes, after the calls that led to `st`. -/
structure Survives [Crates] {T : ResourceTable} {E : Sig} [Clocked E] (st : RuntimeState T E)
    (c : GuestCall) : Prop where
  /-- It does not panic, whatever it is answered. -/
  returns : ∀ {tr o}, Runs (call st c) tr o → ∃ st' reply, o = .ret (st', reply)
  /-- If it reads the clock, there is one. -/
  clocked : c = .now ∨ c = .resolution → ∃ clock, st.clock = some clock
  /-- On a live handle without a backend it reads `access`, if it is well formed. -/
  unattached : ∀ {i r x}, c.handle? = some (i, r) → T.get st.table r = some x → x.interface = i →
    c.wellFormed = true → st.attached i = false → call st c = .ret (st, c.fail .Access)
  /-- If it is not, it reads `invalid` and no backend is called, attached or not. -/
  malformed : ∀ {i r x}, c.handle? = some (i, r) → T.get st.table r = some x → x.interface = i →
    c.wellFormed = false → call st c = .ret (st, c.fail .Invalid)

/-- For every manifest, with any backends that do not panic and whatever they answer: after every
session with the guest, every call of an interface that `build_linker` links comes back. -/
theorem linked_calls_return [Crates] (T : ResourceTable) {E : Sig} [Clocked E] (m : GrantManifest)
    (ks : Option (KeystoreService E)) (fs : Option (FilesystemService E))
    (hks : ∀ backend, ks = some backend → backend.Total fun _ => True)
    (hfs : ∀ backend, fs = some backend → backend.Total fun _ => True)
    (hclock : ∀ f, Returns (fun _ => True) (fun _ => True) (Clocked.callFn f : Prog E UInt64))
    {linker : Linker} {tr : Events} (hl : Runs (build_linker m).run tr (.ret (.ok linker)))
    {hist : List (Step E GuestCall GuestReply)} {st : RuntimeState T E}
    (hs : Session call (RuntimeState.attach m ks fs) hist st) {c : GuestCall} (hc : interfaceOf c ∈ linker) :
    Survives st c := by
  obtain ⟨hk, hf, hck⟩ := session_attached hs
  have hsource : c = .now ∨ c = .resolution → st.clock ≠ none := by
    rintro (rfl | rfl) <;> exact hck ▸ clock_of_linked hl hc
  have hst : st.Total fun _ => True := ⟨fun hb => hks _ (hk ▸ hb), fun hb => hfs _ (hf ▸ hb)⟩
  refine ⟨fun hr => ?_, fun h => Option.ne_none_iff_exists'.1 (hsource h),
    fun hh _ _ => call_unattached hh, call_malformed⟩
  obtain ⟨⟨st', reply⟩, rfl, -⟩ := (call_returns hst hclock hsource).runs hr fun _ _ => trivial
  exact ⟨st', reply, rfl⟩

/-- A file and a clock: the file is opened, and then a read and a look at the clock come back. -/
theorem linked_calls_return_file :
    letI := lengthPrefixed
    letI m : GrantManifest := ⟨[], [some (.filesystem_file 7 (.from_raw 3))], some ⟨⟨0⟩, 100⟩⟩
    ∃ hist st, Session call (RuntimeState.attach (T := slabTable Entry 1 (by decide)) m none (some outsideFilesystem))
      hist st ∧
      Survives st (.read 0) ∧ Survives st .now := by
  let : Crates := lengthPrefixed
  let m : GrantManifest := ⟨[], [some (.filesystem_file 7 (.from_raw 3))], some ⟨⟨0⟩, 100⟩⟩
  have hlinker : Runs (build_linker m).run ((build_linker m).run.trace keystoreWorld false)
      (.ret (.ok [.monotonic_clock, .filesystem])) := runs_run keystoreWorld _ false
  have hsession := (replay_served (refusing .BadgeRevoked .BadgeRevoked) call [.filesystemOpen 0]
    (s := RuntimeState.attach (T := slabTable Entry 1 (by decide)) m none (some outsideFilesystem)) () () rfl).session
  have hfs : ∀ backend, some outsideFilesystem = some backend → backend.Total fun _ => True := by
    rintro _ ⟨⟩
    exact outsideFilesystem_total
  have hclock : ∀ f, Returns (fun _ => True) (fun _ => True) (Clocked.callFn f : Prog Services UInt64) :=
    fun _ _ _ => trivial
  exact ⟨_, _, hsession, linked_calls_return _ m none _ nofun hfs hclock hlinker hsession (by decide),
    linked_calls_return _ m none _ nofun hfs hclock hlinker hsession (by decide)⟩

end LanternRuntime.Confined

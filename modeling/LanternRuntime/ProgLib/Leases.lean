import Mathlib.Data.List.Nodup
import LanternRuntime.ProgLib.HandleTable
/-!
# Leases

A client of a handle table takes handles, uses them, and gives them back.
`Lease` is what it may do with the handles that it holds. `Lent` relates them to
the table: what is held is live and of its kind, and everything else is as it
was. So a client that gave everything back left the table as it found it
(`Lent.returned`).
-/

namespace ProgLib

variable {K H Entry : Type}

/-- What a client does with a handle of a kind. -/
inductive Act (K H : Type) where
  | take (k : K) (h : H)
  | use (k : K) (h : H)
  | give (k : K) (h : H)
  | pass

/-- What it may do with the handles that it holds, and which it holds then. -/
inductive Lease [DecidableEq K] [DecidableEq H] : List (K × H) → Act K H → List (K × H) → Prop
  | take {held k h} : Lease held (.take k h) ((k, h) :: held)
  | use {held k h} : (k, h) ∈ held → Lease held (.use k h) held
  | give {held k h} : (k, h) ∈ held → Lease held (.give k h) (held.erase (k, h))
  | pass {held} : Lease held .pass held

/-- What is held was lent by the table since it was `t₀`, and the rest is as it was then. -/
structure Lent (T : HandleTable H Entry) (kind : Entry → K) (t₀ : T.Table) (held : List (K × H)) (t : T.Table) :
    Prop where
  distinct : (held.map Prod.snd).Nodup
  live : ∀ {k h}, (k, h) ∈ held → T.get t₀ h = none ∧ ∃ e, T.get t h = some e ∧ kind e = k
  rest : ∀ {h}, (∀ k, (k, h) ∉ held) → T.get t h = T.get t₀ h

section Lent
variable {T : HandleTable H Entry} {kind : Entry → K} {t₀ t t' : T.Table} {held : List (K × H)} {k : K} {h : H}

theorem lent_nil : Lent T kind t₀ [] t₀ where
  distinct := .nil
  live := nofun
  rest := fun _ => rfl

theorem Lent.returned (hl : Lent T kind t₀ [] t) (h : H) : T.get t h = T.get t₀ h := hl.rest fun _ => nofun

/-- A handle that is handed out is not held. -/
theorem Lent.push (hl : Lent T kind t₀ held t) {e : Entry} (hp : T.push t e = some (h, t')) :
    Lent T kind t₀ ((kind e, h) :: held) t' := by
  have hfresh := T.push_fresh hp
  have hnot : ∀ k, (k, h) ∉ held := by
    intro k hk
    obtain ⟨-, e', he', -⟩ := hl.live hk
    rw [hfresh] at he'
    cases he'
  refine ⟨List.nodup_cons.2 ⟨?_, hl.distinct⟩, ?_, ?_⟩
  · intro hmem
    obtain ⟨⟨k, _⟩, hk, rfl⟩ := List.mem_map.1 hmem
    exact hnot k hk
  · intro k h' hmem
    rcases List.mem_cons.1 hmem with heq | hheld
    · cases heq
      exact ⟨(hl.rest hnot).symm.trans hfresh, e, T.get_push_self hp, rfl⟩
    · have hne : h' ≠ h := by
        rintro rfl
        exact hnot k hheld
      rw [T.get_push_other hp hne]
      exact hl.live hheld
  · intro h' hrest
    have hne : h' ≠ h := by
      rintro rfl
      exact hrest _ List.mem_cons_self
    rw [T.get_push_other hp hne]
    exact hl.rest fun k hk => hrest k (List.mem_cons_of_mem _ hk)

variable [DecidableEq K] [DecidableEq H]

/-- A handle that is held can be given back, and then it is as it was. -/
theorem Lent.delete (hl : Lent T kind t₀ held t) (hk : (k, h) ∈ held) {want : Entry → Bool}
    (hwant : ∀ e, kind e = k → want e = true) :
    (T.delete t want h).1 = true ∧ Lent T kind t₀ (held.erase (k, h)) (T.delete t want h).2 := by
  obtain ⟨hwas, e, he, hkind⟩ := hl.live hk
  obtain ⟨hfound, hgone⟩ := T.delete_present he (hwant e hkind)
  have hnodup : held.Nodup := hl.distinct.of_map
  -- No other handle that is held is the same one.
  have hother : ∀ {k' h'}, (k', h') ∈ held.erase (k, h) → h' ≠ h := by
    rintro k' h' hmem rfl
    obtain ⟨hne, hmem⟩ := hnodup.mem_erase_iff.1 hmem
    exact hne (List.inj_on_of_nodup_map hl.distinct hmem hk rfl)
  refine ⟨hfound, (hl.distinct.sublist ((List.erase_sublist).map _)), ?_, ?_⟩
  · intro k' h' hmem
    rw [T.get_delete_other (hother hmem)]
    exact hl.live (List.mem_of_mem_erase hmem)
  · intro h' hrest
    by_cases hh : h' = h
    · subst hh
      rw [hgone, hwas]
    · rw [T.get_delete_other hh]
      refine hl.rest fun k' hk' => hrest k' (hnodup.mem_erase_iff.2 ⟨?_, hk'⟩)
      rintro ⟨⟩
      exact hh rfl

end Lent

end ProgLib

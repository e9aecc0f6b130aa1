import Mathlib.Algebra.Group.Nat.Defs
import Mathlib.Data.List.Nodup
import Mathlib.Data.List.GetD
/-!
# Handle tables

A handle table hands out handles to entries and forgets them again, and may
hand the same handle out later. Entries carry a type of their own, so a
`delete` names the entries it accepts.

`HandleTable` states what a client may rely on. `Slab` is a table that keeps
it: slots with a free list, the most recently freed slot first.
-/

namespace ProgLib

/-- A handle table. `push` hands out a handle that no entry has, and fails only
when it has none left. A `delete` of an entry of the wrong type fails, and may
or may not forget the entry. -/
structure HandleTable (H Entry : Type) where
  Table : Type
  new : Table
  push : Table → Entry → Option (H × Table)
  get : Table → H → Option Entry
  delete : Table → (Entry → Bool) → H → Bool × Table
  get_new : ∀ h, get new h = none
  push_fresh : ∀ {t e h t'}, push t e = some (h, t') → get t h = none
  get_push_self : ∀ {t e h t'}, push t e = some (h, t') → get t' h = some e
  get_push_other : ∀ {t e h t' h'}, push t e = some (h, t') → h' ≠ h → get t' h' = get t h'
  get_delete_other : ∀ {t want h h'}, h' ≠ h → get (delete t want h).2 h' = get t h'
  delete_absent : ∀ {t want h}, get t h = none →
    (delete t want h).1 = false ∧ get (delete t want h).2 h = none
  delete_present : ∀ {t want h e}, get t h = some e → want e = true →
    (delete t want h).1 = true ∧ get (delete t want h).2 h = none
  delete_foreign : ∀ {t want h e}, get t h = some e → want e = false →
    (delete t want h).1 = false ∧ ∀ e', get (delete t want h).2 h = some e' → e' = e

namespace HandleTable
variable {H Entry : Type} (T : HandleTable H Entry) {t t' : T.Table} {h h' : H} {e e' : Entry}
  {want : Entry → Bool}

/-- Whatever a table holds after a push is the pushed entry or was there before. -/
theorem get_push (hp : T.push t e = some (h, t')) (hg : T.get t' h' = some e') :
    (h' = h ∧ e' = e) ∨ (h' ≠ h ∧ T.get t h' = some e') := by
  by_cases hh : h' = h
  · subst hh
    rw [T.get_push_self hp] at hg
    exact .inl ⟨rfl, (Option.some.inj hg).symm⟩
  · exact .inr ⟨hh, by rwa [T.get_push_other hp hh] at hg⟩

/-- A delete invents no entry. -/
theorem get_delete (hg : T.get (T.delete t want h).2 h' = some e') : T.get t h' = some e' := by
  by_cases hh : h' = h
  · subst hh
    cases hb : T.get t h' with
    | none => rw [(T.delete_absent hb).2] at hg; cases hg
    | some e =>
      cases hw : want e with
      | true => rw [(T.delete_present hb hw).2] at hg; cases hg
      | false => rw [(T.delete_foreign hb hw).2 _ hg]
  · rwa [T.get_delete_other hh] at hg

/-- A delete that succeeds leaves nothing at its handle. -/
theorem get_delete_self (hd : (T.delete t want h).1 = true) : T.get (T.delete t want h).2 h = none := by
  cases hb : T.get t h with
  | none => exact (T.delete_absent hb).2
  | some e =>
    cases hw : want e with
    | true => exact (T.delete_present hb hw).2
    | false => rw [(T.delete_foreign hb hw).1] at hd; cases hd

end HandleTable

/-! ## A slab -/

/-- Slots with a stack of free ones. -/
structure Slab (cap : Nat) (Entry : Type) where
  slots : List (Option Entry)
  free : List Nat
  free_empty : ∀ i ∈ free, slots[i]? = some none
  free_nodup : free.Nodup
  bounded : slots.length ≤ cap

namespace Slab
variable {cap : Nat} {Entry : Type}

def empty (cap : Nat) (Entry : Type) : Slab cap Entry :=
  ⟨[], [], by simp, .nil, by simp⟩

def get (t : Slab cap Entry) (i : Nat) : Option Entry := t.slots[i]?.join

theorem slot_of_get {t : Slab cap Entry} {i : Nat} {e : Entry} (h : t.get i = some e) :
    t.slots[i]? = some (some e) := by
  unfold get at h
  cases hs : t.slots[i]? with
  | none => rw [hs] at h; cases h
  | some o => rw [hs] at h; exact congrArg some h

/-- Fill the slot freed last, or open a new one. -/
def push (t : Slab cap Entry) (e : Entry) : Option (Nat × Slab cap Entry) :=
  match hf : t.free with
  | i :: rest => some (i, {
      slots := t.slots.set i (some e)
      free := rest
      free_empty := by
        intro j hj
        have hn := t.free_nodup
        rw [hf, List.nodup_cons] at hn
        have hij : i ≠ j := fun h => hn.1 (h ▸ hj)
        rw [List.getElem?_set_ne hij]
        exact t.free_empty j (by simp [hf, hj])
      free_nodup := by
        have hn := t.free_nodup
        rw [hf] at hn
        exact hn.of_cons
      bounded := by simpa using t.bounded })
  | [] =>
    if h : t.slots.length < cap then
      some (t.slots.length, ⟨t.slots ++ [some e], [], by simp, .nil, by simpa using Nat.succ_le_of_lt h⟩)
    else none

/-- Free a slot. The answer says whether its entry was one of the wanted ones. -/
def delete (t : Slab cap Entry) (want : Entry → Bool) (i : Nat) : Bool × Slab cap Entry :=
  match hg : t.get i with
  | none => (false, t)
  | some e => (want e, {
      slots := t.slots.set i none
      free := i :: t.free
      free_empty := by
        have hi := slot_of_get hg
        have hl : i < t.slots.length := (List.getElem?_eq_some_iff.1 hi).1
        intro j hj
        by_cases hij : i = j
        · subst hij; simp [hl]
        · rw [List.getElem?_set_ne hij]
          rcases List.mem_cons.1 hj with rfl | hj
          · exact absurd rfl hij
          · exact t.free_empty j hj
      free_nodup := by
        refine List.nodup_cons.2 ⟨fun hm => ?_, t.free_nodup⟩
        have hi := t.free_empty i hm
        rw [slot_of_get hg] at hi
        cases hi
      bounded := by simpa using t.bounded })

/-- What a push does, in one place: the index was empty, and only it changes. -/
theorem push_spec {t t' : Slab cap Entry} {e : Entry} {i : Nat} (h : t.push e = some (i, t')) :
    i < cap ∧ t.get i = none ∧ ∀ j, t'.get j = if j = i then some e else t.get j := by
  unfold push at h
  split at h
  · next k rest hf =>
    simp only [Option.some.injEq, Prod.mk.injEq] at h
    obtain ⟨rfl, rfl⟩ := h
    have hk := t.free_empty k (by simp [hf])
    have hl : k < t.slots.length := (List.getElem?_eq_some_iff.1 hk).1
    refine ⟨Nat.lt_of_lt_of_le hl t.bounded, by simp [get, hk], fun j => ?_⟩
    by_cases hj : j = k
    · subst hj; simp [get, hl]
    · simp [get, hj, List.getElem?_set_ne (Ne.symm hj)]
  · split at h
    · next hlt =>
      simp only [Option.some.injEq, Prod.mk.injEq] at h
      obtain ⟨rfl, rfl⟩ := h
      refine ⟨hlt, by simp [get], fun j => ?_⟩
      rcases Nat.lt_trichotomy j t.slots.length with hj | hj | hj
      · simp [get, List.getElem?_append_left hj, Nat.ne_of_lt hj]
      · simp [get, hj]
      · simp only [get, if_neg (Nat.ne_of_gt hj)]
        rw [List.getElem?_eq_none (by simp; omega), List.getElem?_eq_none (by omega)]
    · cases h

theorem delete_spec (t : Slab cap Entry) (want : Entry → Bool) (i : Nat) :
    (t.delete want i).1 = (t.get i).any want ∧
      ∀ j, (t.delete want i).2.get j = if j = i then none else t.get j := by
  unfold delete
  split
  · next hg =>
    refine ⟨by simp [hg], fun j => ?_⟩
    by_cases hj : j = i
    · subst hj; simp [hg]
    · simp [hj]
  · next e hg =>
    have hl : i < t.slots.length := (List.getElem?_eq_some_iff.1 (slot_of_get hg)).1
    refine ⟨by simp [hg], fun j => ?_⟩
    by_cases hj : j = i
    · subst hj; simp [get, hl]
    · simp [get, hj, List.getElem?_set_ne (Ne.symm hj)]

end Slab

/-- A slab of at most `cap` entries behind 32-bit handles. It forgets an entry
even when the delete names the wrong type. -/
def slabTable (Entry : Type) (cap : Nat) (hcap : cap ≤ 2 ^ 32) : HandleTable UInt32 Entry where
  Table := Slab cap Entry
  new := .empty cap Entry
  push t e := (t.push e).map fun (i, t') => (UInt32.ofNat i, t')
  get t h := t.get h.toNat
  delete t want h := t.delete want h.toNat
  get_new h := by simp [Slab.get, Slab.empty]
  push_fresh := by
    intro t e h t' hp
    obtain ⟨⟨i, u⟩, hi, heq⟩ := Option.map_eq_some_iff.1 hp
    cases heq
    obtain ⟨hlt, hg, -⟩ := Slab.push_spec hi
    rwa [UInt32.toNat_ofNat_of_lt' (by simp [UInt32.size]; omega)]
  get_push_self := by
    intro t e h t' hp
    obtain ⟨⟨i, u⟩, hi, heq⟩ := Option.map_eq_some_iff.1 hp
    cases heq
    obtain ⟨hlt, -, hg⟩ := Slab.push_spec hi
    rw [UInt32.toNat_ofNat_of_lt' (by simp [UInt32.size]; omega), hg, if_pos rfl]
  get_push_other := by
    intro t e h t' h' hp hne
    obtain ⟨⟨i, u⟩, hi, heq⟩ := Option.map_eq_some_iff.1 hp
    cases heq
    obtain ⟨hlt, -, hg⟩ := Slab.push_spec hi
    rw [hg, if_neg]
    intro he
    apply hne
    rw [← he, UInt32.ofNat_toNat]
  get_delete_other := by
    intro t want h h' hne
    rw [(Slab.delete_spec t want h.toNat).2, if_neg fun he => hne (UInt32.toNat_inj.1 he)]
  delete_absent := by
    intro t want h hg
    obtain ⟨h1, h2⟩ := Slab.delete_spec t want h.toNat
    exact ⟨by rw [h1, hg]; rfl, by rw [h2, if_pos rfl]⟩
  delete_present := by
    intro t want h e hg hw
    obtain ⟨h1, h2⟩ := Slab.delete_spec t want h.toNat
    exact ⟨by rw [h1, hg]; exact hw, by rw [h2, if_pos rfl]⟩
  delete_foreign := by
    intro t want h e hg hw
    obtain ⟨h1, h2⟩ := Slab.delete_spec t want h.toNat
    refine ⟨by rw [h1, hg]; exact hw, fun e' he => ?_⟩
    rw [h2, if_pos rfl] at he
    cases he

end ProgLib

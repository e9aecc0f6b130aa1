import LanternRuntime.Platform.Fallback
import LanternRuntime.ProgLib.Tiling
/-!
# Callers that race

Any number of calls of the fallback `alloc`, one access at a time in any order.
`arena_tiled` shows that no byte is lost and none is given twice: the regions
lie end to end below `ARENA_NEXT`. What a caller computed from an offset that
others have moved since never takes effect, because its exchange then fails.
-/
open ProgLib

namespace LanternRuntime.Platform.fallback

variable {ι : Type} [DecidableEq ι] {base : ArenaBase} {sizes : ι → Usize} {places : ι → Place} {next : Usize}
  {hist : List (Move AtomicUsize ι Usize)}

/-- The call of `i` has come back, and its region goes from `lo` to `hi`, relative to the arena. -/
def Holds (base : ArenaBase) (sizes : ι → Usize) (places : ι → Place) (i : ι) (lo hi : Nat) : Prop :=
  ∃ p, alloc base (places i) = .done (some p) ∧ p.toNat = base.addr.toNat + lo ∧
    hi = lo + (round_up (sizes i)).toNat

/-- The access told its caller that the offset is `off`. -/
def Observed (off : Usize) : Event AtomicUsize → Prop
  | ⟨.load, ans⟩ => ans = off
  | ⟨.compare_exchange_weak _ _, ans⟩ => ans = Except.error off

/-- The last access of `i` told it `off`, and none of its accesses moved the offset. -/
structure LastSaw (hist : List (Move AtomicUsize ι Usize)) (i : ι) (off : Usize) : Prop where
  last : ∃ m, (movesOf i hist).getLast? = some m ∧ Observed off m.event
  still : ∀ m ∈ movesOf i hist, m.after = m.before

/-- What the accesses of `hist` have made of the arena. -/
structure Tiled (base : ArenaBase) (sizes : ι → Usize) (hist : List (Move AtomicUsize ι Usize)) (places : ι → Place)
    (next : Usize) : Prop where
  bounded : next.toNat ≤ ARENA_BYTES.toNat
  tiles : Tiles (Holds base sizes places) next.toNat
  aligned : ∀ {i lo hi}, Holds base sizes places i lo hi → lo % 4096 = 0
  large : ∀ {i lo hi}, Holds base sizes places i lo hi → lo + (sizes i).toNat ≤ hi
  granted : ∀ {i p}, alloc base (places i) = .done (some p) → ∃ lo hi, Holds base sizes places i lo hi
  refused : ∀ {i}, alloc base (places i) = .done none →
    ∃ off, LastSaw hist i off ∧ ARENA_BYTES.toNat < off.toNat + (round_up (sizes i)).toNat

/-! ## What every access keeps -/

/-- How far the call of `i` is, and what it has to show for it. -/
inductive Sound (sizes : ι → Usize) (hist : List (Move AtomicUsize ι Usize)) (next : Usize) (i : ι) : Place → Prop
  | start : movesOf i hist = [] → Sound sizes hist next i (.start (sizes i))
  | trying {off} : LastSaw hist i off → Sound sizes hist next i (.trying (round_up (sizes i)) off)
  | granted {off} : off.toNat % 4096 = 0 → off.toNat + (round_up (sizes i)).toNat ≤ next.toNat →
      Sound sizes hist next i (.granted off)

structure Inv (base : ArenaBase) (sizes : ι → Usize) (hist : List (Move AtomicUsize ι Usize)) (places : ι → Place)
    (next : Usize) : Prop where
  bounded : next.toNat ≤ ARENA_BYTES.toNat
  pages : next.toNat % 4096 = 0
  sound : ∀ i, Sound sizes hist next i (places i)
  tiles : Tiles (Holds base sizes places) next.toNat

omit [DecidableEq ι] in
theorem holds_granted {i : ι} {off : Usize} (hp : places i = .granted off) (hle : off.toNat ≤ ARENA_BYTES.toNat)
    {lo hi : Nat} : Holds base sizes places i lo hi ↔ lo = off.toNat ∧ hi = off.toNat + (round_up (sizes i)).toNat := by
  have haddr := base.add_toNat hle
  unfold Holds
  rw [hp]
  constructor
  · rintro ⟨p, ⟨⟩, hlo, rfl⟩
    have hoff : lo = off.toNat := by omega
    exact ⟨hoff, hoff ▸ rfl⟩
  · rintro ⟨rfl, rfl⟩
    exact ⟨_, rfl, haddr, rfl⟩

omit [DecidableEq ι] in
/-- A region is held only by a call that was granted one. -/
theorem Holds.place {i : ι} {lo hi : Nat} (h : Holds base sizes places i lo hi) : ∃ off, places i = .granted off := by
  obtain ⟨p, hp, -⟩ := h
  rcases alloc_done hp with ⟨_, _, -, -, ⟨⟩⟩ | ⟨off, hpl, -⟩
  exact ⟨off, hpl⟩

/-- The moves of others, and a larger offset, leave a call where it is. -/
theorem Sound.other {i j : ι} {p : Place} {e : Event AtomicUsize} {s s' next' : Usize} (h : Sound sizes hist next i p)
    (hne : j ≠ i) (hle : next.toNat ≤ next'.toNat) : Sound sizes (hist ++ [⟨j, e, s, s'⟩]) next' i p := by
  cases h with
  | start hm => exact .start (by rw [movesOf_snoc_ne hne, hm])
  | trying hsaw =>
    obtain ⟨hlast, hstill⟩ := hsaw
    exact .trying ⟨by rwa [movesOf_snoc_ne hne], by rwa [movesOf_snoc_ne hne]⟩
  | granted hpages hin => exact .granted hpages (Nat.le_trans hin hle)

/-- An access that only looks. -/
theorem LastSaw.look {i : ι} {off : Usize} {e : Event AtomicUsize} (hstill : ∀ m ∈ movesOf i hist, m.after = m.before)
    (he : Observed off e) (s : Usize) : LastSaw (hist ++ [⟨i, e, s, s⟩]) i off where
  last := ⟨⟨i, e, s, s⟩, by simp, he⟩
  still := by
    intro m hm
    rw [movesOf_snoc_self] at hm
    rcases List.mem_append.1 hm with hm | hm
    · exact hstill m hm
    · cases List.mem_singleton.1 hm
      rfl

section Update
variable {i j : ι} {q : Place} {lo hi : Nat}

theorem holds_update_ne (hne : j ≠ i) :
    Holds base sizes (Function.update places i q) j lo hi ↔ Holds base sizes places j lo hi := by
  unfold Holds
  rw [Function.update_of_ne hne]

omit [DecidableEq ι] in
/-- Before it is granted one, a call holds no region. -/
theorem not_holds_trying {size off : Usize} (hp : places i = .trying size off) : ¬ Holds base sizes places i lo hi := by
  intro h
  obtain ⟨off', hoff⟩ := h.place
  rw [hp] at hoff
  cases hoff

omit [DecidableEq ι] in
theorem not_holds_start {size : Usize} (hp : places i = .start size) : ¬ Holds base sizes places i lo hi := by
  intro h
  obtain ⟨off, hoff⟩ := h.place
  rw [hp] at hoff
  cases hoff

end Update

/-- A load and a failing exchange only move their own caller, to an offset that was just seen. -/
theorem Inv.look (h : Inv base sizes hist places next) {i : ι} {e : Event AtomicUsize}
    (hnone : ∀ lo hi, ¬ Holds base sizes places i lo hi) (hstill : ∀ m ∈ movesOf i hist, m.after = m.before)
    (he : Observed next e) :
    Inv base sizes (hist ++ [⟨i, e, next, next⟩])
      (Function.update places i (.trying (round_up (sizes i)) next)) next where
  bounded := h.bounded
  pages := h.pages
  sound := by
    intro j
    by_cases hj : j = i
    · subst hj
      rw [Function.update_self]
      exact .trying (LastSaw.look hstill he next)
    · rw [Function.update_of_ne hj]
      exact (h.sound j).other (Ne.symm hj) (Nat.le_refl _)
  tiles := by
    refine h.tiles.congr fun j lo hi => ?_
    by_cases hj : j = i
    · subst hj
      exact iff_of_false (not_holds_trying (Function.update_self ..)) (hnone lo hi)
    · exact holds_update_ne hj

/-- An exchange that succeeds gives its caller the bytes from the offset on, which is the one the
caller computed from. -/
theorem Inv.exchange (h : Inv base sizes hist places next) {i : ι} {next' : Usize} (e : Event AtomicUsize)
    (hp : places i = .trying (round_up (sizes i)) next) (hb : bump next (round_up (sizes i)) = some next') :
    Inv base sizes (hist ++ [⟨i, e, next, next'⟩]) (Function.update places i (.granted next)) next' := by
  obtain ⟨hle, hnext⟩ := bump_eq_some.1 hb
  have hpages := h.pages
  have haligned := round_up_aligned (sizes i)
  refine ⟨by omega, by omega, ?_, ?_⟩
  · intro j
    by_cases hj : j = i
    · subst hj
      rw [Function.update_self]
      exact .granted hpages (Nat.le_of_eq hnext.symm)
    · rw [Function.update_of_ne hj]
      exact (h.sound j).other (Ne.symm hj) (by omega)
  · rw [hnext]
    refine h.tiles.grow (i := i) (fun lo hi => not_holds_trying hp) fun j lo hi => ?_
    by_cases hj : j = i
    · subst hj
      rw [holds_granted (Function.update_self ..) h.bounded]
      simp only [not_holds_trying hp, true_and, false_or]
    · rw [holds_update_ne hj]
      simp only [hj, false_and, or_false]

theorem Inv.step (h : Inv base sizes hist places next) {i : ι} {e : Event AtomicUsize} {q : Place} {next' : Usize}
    (ha : Advance (alloc base) atomic (places i) next e q next') :
    Inv base sizes (hist ++ [⟨i, e, next, next'⟩]) (Function.update places i q) next' := by
  have hsound := h.sound i
  rcases advance_cases ha with ⟨size, hp, rfl, rfl, rfl⟩ | ⟨size, hp, hb, rfl, rfl⟩ |
    ⟨size, off, new, hp, hb, rfl, rfl, rfl⟩ <;> rw [hp] at hsound
  · cases hsound with
    | start hm => exact h.look (fun _ _ => not_holds_start hp) (by simp [hm]) rfl
  · cases hsound with
    | trying => exact h.exchange _ hp hb
  · cases hsound with
    | trying hsaw => exact h.look (fun _ _ => not_holds_trying hp) hsaw.still rfl

theorem inv_of_interleaved (h : Interleaved (alloc base) atomic (fun i => .start (sizes i)) 0 hist places next) :
    Inv base sizes hist places next := by
  refine h.inv ⟨Nat.zero_le _, rfl, fun i => .start rfl, ?_⟩ ?_
  · exact .zero fun i lo hi => not_holds_start rfl
  · intro hist places next i e q next' hinv ha
    exact hinv.step ha

/-! ## The arena under any interleaving -/

/-- No access moves the offset back. -/
theorem advance_le {p q : Place} {s s' : Usize} {e : Event AtomicUsize} (ha : Advance (alloc base) atomic p s e q s') :
    s.toNat ≤ s'.toNat := by
  rcases advance_cases ha with ⟨_, -, -, -, rfl⟩ | ⟨_, -, hb, -, -⟩ | ⟨_, _, _, -, -, -, -, rfl⟩
  · exact Nat.le_refl _
  · obtain ⟨-, hs'⟩ := bump_eq_some.1 hb
    omega
  · exact Nat.le_refl _

theorem offset_grows {places' : ι → Place} {next' : Usize}
    (h : Interleaved (alloc base) atomic places next hist places' next') : next.toNat ≤ next'.toNat :=
  h.inv (Nat.le_refl _) fun _ _ _ _ _ _ _ hle ha => Nat.le_trans hle (advance_le ha)

theorem Inv.tiled (h : Inv base sizes hist places next) (hsizes : ∀ i, InRange (sizes i)) :
    Tiled base sizes hist places next where
  bounded := h.bounded
  tiles := h.tiles
  aligned := by
    intro i lo hi hh
    obtain ⟨off, hp⟩ := hh.place
    have hsound := h.sound i
    rw [hp] at hsound
    cases hsound with
    | granted hpages hin =>
      have hbounded := h.bounded
      obtain ⟨rfl, -⟩ := (holds_granted hp (by omega)).1 hh
      exact hpages
  large := by
    rintro i lo hi ⟨p, -, -, rfl⟩
    exact Nat.add_le_add_left (le_round_up (hsizes i)) lo
  granted := by
    intro i p hdone
    rcases alloc_done hdone with ⟨_, _, -, -, ⟨⟩⟩ | ⟨off, hp, -⟩
    have hsound := h.sound i
    rw [hp] at hsound
    cases hsound with
    | granted hpages hin =>
      have hbounded := h.bounded
      exact ⟨_, _, (holds_granted hp (by omega)).2 ⟨rfl, rfl⟩⟩
  refused := by
    intro i hdone
    rcases alloc_done hdone with ⟨size, off, hp, hb, -⟩ | ⟨_, -, ⟨⟩⟩
    have hsound := h.sound i
    rw [hp] at hsound
    cases hsound with
    | trying hsaw => exact ⟨off, hsaw, bump_eq_none.1 hb⟩

/-- Two callers load the same offset. The exchange of the second one fails, and the next one succeeds. -/
theorem race : Interleaved (alloc lowArena) atomic (fun i : Bool => .start (if i then 4096 else 1)) 0
    [⟨true, ⟨.load, (0 : Usize)⟩, 0, 0⟩, ⟨false, ⟨.load, (0 : Usize)⟩, 0, 0⟩,
      ⟨true, ⟨.compare_exchange_weak 0 4096, Except.ok 0⟩, 0, 4096⟩,
      ⟨false, ⟨.compare_exchange_weak 0 4096, Except.error 4096⟩, 4096, 4096⟩,
      ⟨false, ⟨.compare_exchange_weak 4096 8192, Except.ok 4096⟩, 4096, 8192⟩]
    (fun i => .granted (if i then 0 else 4096)) 8192 := by
  have h0 : Interleaved (alloc lowArena) atomic (fun i : Bool => .start (if i then 4096 else 1)) 0 []
    (fun i => .start (if i then 4096 else 1)) 0 := .nil
  have h1 := h0.snoc (i := true) (advance_load lowArena 4096 0)
  have h2 := h1.snoc (i := false) (advance_load lowArena 1 0)
  have h3 := h2.snoc (i := true) (advance_exchange (by decide : bump 0 4096 = some 4096))
  have h4 := h3.snoc (i := false) (advance_fail (by decide : bump 0 4096 = some 4096) 4096)
  have h5 := h4.snoc (i := false) (advance_exchange (by decide : bump 4096 4096 = some 8192))
  convert h5 using 1
  · rfl
  · funext i
    cases i <;> rfl

/-- Any number of callers with sizes in range, and any interleaving of their accesses: at every
point the regions given so far tile the arena up to its offset, a caller that was refused had no
room where it looked last and moved nothing, and from there on the offset never falls. -/
theorem arena_tiled (base : ArenaBase) (sizes : ι → Usize) (hsizes : ∀ i, InRange (sizes i))
    (h : Interleaved (alloc base) atomic (fun i => .start (sizes i)) 0 hist places next) :
    Tiled base sizes hist places next ∧
    ∀ {hist' : List (Move AtomicUsize ι Usize)} {places' : ι → Place} {next' : Usize},
      Interleaved (alloc base) atomic places next hist' places' next' → next.toNat ≤ next'.toNat :=
  ⟨(inv_of_interleaved h).tiled hsizes, offset_grows⟩

/-- Two callers load the same offset. The exchange of the second one fails, and the next one succeeds. -/
theorem arena_tiled_two_callers :
    let sizes : Bool → Usize := fun i => if i then 4096 else 1
    let hist : List (Move AtomicUsize Bool Usize) :=
      [⟨true, ⟨.load, (0 : Usize)⟩, 0, 0⟩, ⟨false, ⟨.load, (0 : Usize)⟩, 0, 0⟩,
      ⟨true, ⟨.compare_exchange_weak 0 4096, Except.ok 0⟩, 0, 4096⟩,
      ⟨false, ⟨.compare_exchange_weak 0 4096, Except.error 4096⟩, 4096, 4096⟩,
      ⟨false, ⟨.compare_exchange_weak 4096 8192, Except.ok 4096⟩, 4096, 8192⟩]
    let places : Bool → Place := fun i => .granted (if i then 0 else 4096)
    Tiled lowArena sizes hist places 8192 ∧
    ∀ {hist' : List (Move AtomicUsize Bool Usize)} {places' : Bool → Place} {next' : Usize},
      Interleaved (alloc lowArena) atomic places 8192 hist' places' next' → (8192 : Usize).toNat ≤ next'.toNat := by
  intro sizes hist places
  refine arena_tiled lowArena sizes (fun i => ?_) race
  cases i <;> unfold InRange <;> decide

end LanternRuntime.Platform.fallback

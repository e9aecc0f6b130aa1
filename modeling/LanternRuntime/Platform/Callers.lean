import LanternRuntime.Platform.Race
import LanternRuntime.ProgLib.Linear
/-!
# What racing callers come to

The fallback `alloc`, called by any number of callers at once, is as good as
called by one after the other (`alloc_linearizable`). No caller holds up
another: each is done after a bounded number of its own accesses, except for
exchanges that failed although nobody had moved the offset (`alloc_wait_free`).
-/
open ProgLib

namespace LanternRuntime.Platform.fallback

variable {ι : Type} [DecidableEq ι] {base : ArenaBase} {sizes : ι → Usize} {places : ι → Place}
  {next next' size s s' : Usize} {hist : List (Move AtomicUsize ι Usize)} {i : ι} {p q : Place} {e : Event AtomicUsize}
  {r : Option Usize}

/-! ## One by one -/

/-- A call of `alloc` with nobody else at the arena. -/
def Alloc (base : ArenaBase) (next size : Usize) (r : Option Usize) (next' : Usize) : Prop :=
  ∃ p, Alone (alloc base) atomic (.start size) next p next' ∧ alloc base p = .done r

theorem alloc_full (hb : bump next size = none) : alloc base (.trying size next) = .done none := by
  simp only [alloc, hb]

theorem alloc_refused (hb : bump next (round_up size) = none) : Alloc base next size none next :=
  ⟨.trying (round_up size) next, .one (advance_load base size next), alloc_full hb⟩

theorem alloc_granted (hb : bump next (round_up size) = some next') :
    Alloc base next size (some (base.addr + next)) next' :=
  ⟨.granted next, (Alone.one (advance_load base size next)).step (advance_exchange hb), rfl⟩

/-- A caller knows its size. -/
def Knows (sizes : ι → Usize) (i : ι) : Place → Prop
  | .start size => size = sizes i
  | .trying size _ => size = round_up (sizes i)
  | .granted _ => True

omit [DecidableEq ι] in
/-- With an offset that it was just told, a caller is done where a call by itself would be refused. -/
theorem trying_cases (base : ArenaBase) (i : ι) (s : Usize) :
    (∃ r, alloc base (.trying (round_up (sizes i)) s) = .done r ∧ Alloc base s (sizes i) r s) ∨
      ∀ r, alloc base (.trying (round_up (sizes i)) s) ≠ .done r := by
  cases hb : bump s (round_up (sizes i)) with
  | none => exact .inl ⟨none, alloc_full hb, alloc_refused hb⟩
  | some new =>
    refine .inr fun r hdone => ?_
    rw [alloc_trying hb] at hdone
    cases hdone

omit [DecidableEq ι] in
/-- Only the exchange that succeeds, and the access that shows there is no room, do what the call is there to do. -/
theorem access_cases (hk : Knows sizes i p) (ha : Advance (alloc base) atomic p s e q s') : Knows sizes i q ∧
    ((∃ r, alloc base q = .done r ∧ Alloc base s (sizes i) r s') ∨ (∀ r, alloc base q ≠ .done r) ∧ s' = s) := by
  have htrying : (∃ r, alloc base (.trying (round_up (sizes i)) s) = .done r ∧ Alloc base s (sizes i) r s) ∨
      (∀ r, alloc base (.trying (round_up (sizes i)) s) ≠ .done r) ∧ s = s :=
    (trying_cases base i s).imp_right fun h => ⟨h, rfl⟩
  rcases advance_cases ha with ⟨size, rfl, -, rfl, rfl⟩ | ⟨size, rfl, hb, -, rfl⟩ |
    ⟨size, off, new, rfl, -, -, rfl, rfl⟩
  · obtain rfl : size = sizes i := hk
    exact ⟨rfl, htrying⟩
  · obtain rfl : size = round_up (sizes i) := hk
    exact ⟨trivial, .inl ⟨_, rfl, alloc_granted hb⟩⟩
  · obtain rfl : size = round_up (sizes i) := hk
    exact ⟨rfl, htrying⟩

/-! ## The order of the calls -/

/-- Any number of callers with any sizes, and any interleaving of their accesses: the calls that came back got the
answers, and left the offset, that calls by themselves would have, one after the other in an order in which no call
is put before one that was over when it began. -/
theorem alloc_linearizable (base : ArenaBase) (sizes : ι → Usize)
    (h : Interleaved (alloc base) atomic (fun i => .start (sizes i)) 0 hist places next) :
    ∃ order, Linearizes (alloc base) (fun i s r s' => Alloc base s (sizes i) r s') 0 hist places next order :=
  h.linearizes (I := fun i => Knows sizes i) (fun _ => rfl) (fun _ _ => nofun)
    fun _ _ _ _ _ _ hk ha => access_cases hk ha

/-- The two callers, in the order of their exchanges. -/
theorem alloc_linearizable_race :
    let sizes : Bool → Usize := fun i => if i then 4096 else 1
    let hist : List (Move AtomicUsize Bool Usize) :=
      [⟨true, ⟨.load, (0 : Usize)⟩, 0, 0⟩, ⟨false, ⟨.load, (0 : Usize)⟩, 0, 0⟩,
      ⟨true, ⟨.compare_exchange_weak 0 4096, Except.ok 0⟩, 0, 4096⟩,
      ⟨false, ⟨.compare_exchange_weak 0 4096, Except.error 4096⟩, 4096, 4096⟩,
      ⟨false, ⟨.compare_exchange_weak 4096 8192, Except.ok 4096⟩, 4096, 8192⟩]
    ∃ order, Linearizes (alloc lowArena) (fun i s r s' => Alloc lowArena s (sizes i) r s') 0 hist
      (fun i => .granted (if i then 0 else 4096)) 8192 order :=
  alloc_linearizable lowArena _ race

/-! ## How long a call takes -/

/-- An exchange that failed although the offset was the expected one. -/
def spurious : Event AtomicUsize → Bool
  | ⟨.load, _⟩ => false
  | ⟨.compare_exchange_weak current _, ans⟩ =>
    match (ans : Except Usize Usize) with
    | .ok _ => false
    | .error found => found = current

/-- The pages below an offset. -/
def pages (off : Usize) : Nat := off.toNat / 4096

/-- What a caller has to show for its accesses: each but the last one brought it to a higher page, or failed for
no reason. -/
inductive Paid (next : Usize) (moves : List (Move AtomicUsize ι Usize)) : Place → Prop
  | start {size : Usize} : moves = [] → Paid next moves (.start size)
  | trying {size off : Usize} : off.toNat % 4096 = 0 → off.toNat ≤ next.toNat →
      moves.length ≤ 1 + pages off + moves.countP (spurious ·.event) → Paid next moves (.trying size off)
  | granted {off : Usize} : off.toNat ≤ next.toNat →
      moves.length ≤ 2 + pages off + moves.countP (spurious ·.event) → Paid next moves (.granted off)

omit [DecidableEq ι] in
theorem Paid.later {moves : List (Move AtomicUsize ι Usize)} (h : Paid next moves p) (hle : next.toNat ≤ next'.toNat) :
    Paid next' moves p := by
  cases h with
  | start hm => exact .start hm
  | trying hpages hoff hpaid => exact .trying hpages (Nat.le_trans hoff hle) hpaid
  | granted hoff hpaid => exact .granted (Nat.le_trans hoff hle) hpaid

/-- A page for an access, unless the exchange failed for no reason. -/
theorem pages_lt {off : Usize} (hoff : off.toNat % 4096 = 0) (hs : s.toNat % 4096 = 0) (hle : off.toNat ≤ s.toNat)
    (hne : off ≠ s) : pages off < pages s := by
  have hne' : off.toNat ≠ s.toNat := fun h => hne (UInt64.toNat_inj.1 h)
  unfold pages
  omega

omit [DecidableEq ι] in
theorem Paid.access {moves : List (Move AtomicUsize ι Usize)} (h : Paid s moves p) (hs : s.toNat % 4096 = 0)
    (ha : Advance (alloc base) atomic p s e q s') : Paid s' (moves ++ [⟨i, e, s, s'⟩]) q := by
  rcases advance_cases ha with ⟨size, rfl, rfl, rfl, rfl⟩ | ⟨size, rfl, hb, rfl, rfl⟩ |
    ⟨size, off, new, rfl, -, rfl, rfl, rfl⟩
  · cases h with
    | start hm =>
      subst hm
      exact .trying hs (Nat.le_refl _) (by simp [spurious])
  · cases h with
    | trying hpages hoff hpaid =>
      obtain ⟨-, hs'⟩ := bump_eq_some.1 hb
      refine .granted (by omega) ?_
      simp only [List.length_append, List.length_singleton, List.countP_append]
      omega
  · cases h with
    | trying hpages hoff hpaid =>
      refine .trying hs (Nat.le_refl _) ?_
      simp only [List.length_append, List.length_singleton, List.countP_append]
      by_cases heq : off = s'
      · subst heq
        have hone : ([⟨i, ⟨.compare_exchange_weak off new, Except.error off⟩, off, off⟩] :
            List (Move AtomicUsize ι Usize)).countP (spurious ·.event) = 1 := by simp [spurious]
        omega
      · have hlt := pages_lt hpages hs hoff heq
        omega

theorem paid_of_interleaved (h : Interleaved (alloc base) atomic (fun i => .start (sizes i)) 0 hist places next) (i : ι) :
    Paid next (movesOf i hist) (places i) := by
  induction h with
  | nil => exact .start rfl
  | @snoc hist places s j e q s' h ha ih =>
    by_cases hj : j = i
    · subst hj
      rw [movesOf_snoc_self, Function.update_self]
      exact ih.access (inv_of_interleaved h).pages ha
    · rw [movesOf_snoc_ne hj, Function.update_of_ne (Ne.symm hj)]
      exact ih.later (advance_le ha)

omit [DecidableEq ι] in
/-- Nobody waits for anybody. -/
theorem alloc_advances (base : ArenaBase) (p : Place) (s : Usize) :
    (∃ r, alloc base p = .done r) ∨ ∃ e q s', Advance (alloc base) atomic p s e q s' := by
  cases p with
  | start size => exact .inr ⟨_, _, _, .call rfl .load⟩
  | trying size off =>
    cases hb : bump off size with
    | none => exact .inl ⟨none, alloc_full hb⟩
    | some new => exact .inr ⟨_, _, _, advance_fail hb s⟩
  | granted off => exact .inl ⟨_, rfl⟩

/-- Any number of callers, and any interleaving of their accesses: a caller that is not done can make its next access,
and it makes at most one to look, one for every page of the arena, and one that is granted; not counting exchanges
that failed although nobody had moved the offset. -/
theorem alloc_wait_free (base : ArenaBase) (sizes : ι → Usize)
    (h : Interleaved (alloc base) atomic (fun i => .start (sizes i)) 0 hist places next) (i : ι) :
    ((∃ r, alloc base (places i) = .done r) ∨ ∃ e q next', Advance (alloc base) atomic (places i) next e q next') ∧
    (movesOf i hist).length ≤ 1 + ARENA_BYTES.toNat / 4096 + 1 + (movesOf i hist).countP (spurious ·.event) := by
  refine ⟨alloc_advances base _ _, ?_⟩
  have hbounded := (inv_of_interleaved h).bounded
  have hpaid := paid_of_interleaved h i
  generalize movesOf i hist = moves at hpaid ⊢
  generalize places i = p at hpaid
  cases hpaid with
  | start hm =>
    subst hm
    exact Nat.zero_le _
  | trying _ hoff hpaid =>
    unfold pages at hpaid
    omega
  | granted hoff hpaid =>
    unfold pages at hpaid
    omega

/-- The one that lost the race. -/
theorem alloc_wait_free_race :
    let hist : List (Move AtomicUsize Bool Usize) :=
      [⟨true, ⟨.load, (0 : Usize)⟩, 0, 0⟩, ⟨false, ⟨.load, (0 : Usize)⟩, 0, 0⟩,
      ⟨true, ⟨.compare_exchange_weak 0 4096, Except.ok 0⟩, 0, 4096⟩,
      ⟨false, ⟨.compare_exchange_weak 0 4096, Except.error 4096⟩, 4096, 4096⟩,
      ⟨false, ⟨.compare_exchange_weak 4096 8192, Except.ok 4096⟩, 4096, 8192⟩]
    ((∃ r, alloc lowArena (.granted 4096) = .done r) ∨
      ∃ e q next', Advance (alloc lowArena) atomic (.granted 4096) 8192 e q next') ∧
    (movesOf false hist).length ≤ 1 + ARENA_BYTES.toNat / 4096 + 1 + (movesOf false hist).countP (spurious ·.event) :=
  alloc_wait_free lowArena _ race false

end LanternRuntime.Platform.fallback

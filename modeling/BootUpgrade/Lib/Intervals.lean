/-!
# Sets of addresses as lists of intervals

An interval is a pair of its start and its exclusive end. A list of intervals
that do not touch lists the maximal runs of the addresses it covers.
-/

namespace BootUpgrade.Intervals

/-- No interval of the list overlaps the next one. -/
def neighboursOverlap (is : List (Nat × Nat)) : Bool :=
  (is.zip is.tail).any fun pair => pair.1.2 > pair.2.1

/-- Intervals that are not empty follow one another if each follows the one before it. -/
theorem neighboursOverlap_iff {is : List (Nat × Nat)} (nonempty : ∀ i ∈ is, i.1 < i.2) :
    neighboursOverlap is = false ↔ is.Pairwise fun i j => i.2 ≤ j.1 := by
  unfold neighboursOverlap
  induction is with
  | nil => exact iff_of_true rfl List.Pairwise.nil
  | cons i rest ih =>
    obtain ⟨-, others⟩ := List.forall_mem_cons.1 nonempty
    have ih := ih others
    cases rest with
    | nil => exact iff_of_true rfl (List.pairwise_singleton ..)
    | cons next rest =>
      rw [List.pairwise_cons, ← ih]
      simp only [List.tail_cons, List.zip_cons_cons, List.any_cons, Bool.or_eq_false_iff,
        gt_iff_lt, decide_eq_false_iff_not, Nat.not_lt]
      refine and_congr_left ?_
      intro pairwise
      constructor
      · intro first j hj
        rcases List.mem_cons.1 hj with rfl | hj
        · exact first
        · have follow := (List.pairwise_cons.1 (ih.1 (by simpa using pairwise))).1 j hj
          have := others next List.mem_cons_self
          omega
      · intro all
        exact all next List.mem_cons_self

/-- `a` lies in one of the intervals. -/
def Covered (is : List (Nat × Nat)) (a : Nat) : Prop := ∃ i ∈ is, i.1 ≤ a ∧ a < i.2

/-- `start` to `stop` are covered, their neighbours are not. -/
structure MaximalRun (covered : Nat → Prop) (start stop : Nat) : Prop where
  nonempty : start < stop
  inside : ∀ a, start ≤ a → a < stop → covered a
  before : ∀ a, a + 1 = start → ¬ covered a
  after : ¬ covered stop

theorem MaximalRun.congr {covered covered' : Nat → Prop} (h : ∀ a, covered a ↔ covered' a)
    {start stop : Nat} : MaximalRun covered start stop ↔ MaximalRun covered' start stop := by
  obtain rfl : covered = covered' := funext fun a => propext (h a)
  rfl

/-- No interval is empty, and between two of them there is a gap. -/
structure Separated (is : List (Nat × Nat)) : Prop where
  nonempty : ∀ i ∈ is, i.1 < i.2
  apart : is.Pairwise fun i j => i.2 < j.1

section
variable {is : List (Nat × Nat)} {i j : Nat × Nat}

/-- Two intervals are equal or there is a gap between them. -/
theorem Separated.cases (sep : Separated is) (hi : i ∈ is) (hj : j ∈ is) :
    i = j ∨ i.2 < j.1 ∨ j.2 < i.1 := by
  obtain ⟨-, apart⟩ := sep
  induction apart with
  | nil => cases hi
  | cons first _ ih =>
    rcases List.mem_cons.1 hi with rfl | hi'
    · rcases List.mem_cons.1 hj with rfl | hj'
      · exact .inl rfl
      · exact .inr (.inl (first j hj'))
    · rcases List.mem_cons.1 hj with rfl | hj'
      · exact .inr (.inr (first i hi'))
      · exact ih hi' hj'

/-- Intervals that touch or overlap are the same. -/
theorem Separated.unique (sep : Separated is) (hi : i ∈ is) (hj : j ∈ is) (h : i.1 ≤ j.2)
    (h' : j.1 ≤ i.2) : i = j := by
  rcases sep.cases hi hj with same | before | after
  · exact same
  · omega
  · omega

/-- What is covered without a gap from inside an interval on ends with the interval. -/
theorem Separated.goesOn (sep : Separated is) (hi : i ∈ is) {a d : Nat} (ha : i.1 ≤ a ∧ a < i.2)
    (inside : ∀ b, a ≤ b → b ≤ a + d → Covered is b) : a + d < i.2 := by
  induction d with
  | zero => exact ha.2
  | succ d ih =>
    have before : a + d < i.2 := ih fun b lo hi => inside b lo (by omega)
    obtain ⟨j, hj, lo, hi'⟩ := inside (a + (d + 1)) (by omega) (Nat.le_refl _)
    by_cases h : a + (d + 1) < i.2
    · exact h
    · obtain rfl := sep.unique hi hj (by omega) (by omega)
      exact hi'

/-- The intervals of a separated list are the maximal runs of what it covers. -/
theorem Separated.maximalRun (sep : Separated is) {start stop : Nat} :
    MaximalRun (Covered is) start stop ↔ (start, stop) ∈ is := by
  constructor
  · intro run
    obtain ⟨i, hi, lo, hi'⟩ := run.inside start (Nat.le_refl _) run.nonempty
    have first : i.1 = start := by
      apply Nat.le_antisymm lo
      apply Nat.le_of_not_lt
      intro earlier
      exact run.before (start - 1) (by omega) ⟨i, hi, by omega, by omega⟩
    have long : start + (stop - 1 - start) < i.2 := by
      apply sep.goesOn hi ⟨lo, hi'⟩
      intro b lo hi
      exact run.inside b lo (by have := run.nonempty; omega)
    have last : i.2 = stop := by
      apply Nat.le_antisymm _ (by have := run.nonempty; omega)
      apply Nat.le_of_not_lt
      intro later
      exact run.after ⟨i, hi, by have := run.nonempty; omega, later⟩
    obtain rfl : i = (start, stop) := Prod.ext first last
    exact hi
  · intro h
    constructor
    · exact sep.nonempty _ h
    · intro a lo hi
      exact ⟨_, h, lo, hi⟩
    · rintro a rfl ⟨j, hj, lo, hi⟩
      have nonempty : a + 1 < stop := sep.nonempty _ h
      obtain rfl := sep.unique h hj (show a + 1 ≤ j.2 by omega) (show j.1 ≤ stop by omega)
      have : a + 1 ≤ a := lo
      omega
    · rintro ⟨j, hj, lo, hi⟩
      have nonempty : start < stop := sep.nonempty _ h
      obtain rfl := sep.unique h hj (show start ≤ j.2 by omega) (show j.1 ≤ stop by omega)
      have : stop < stop := hi
      omega

end

/-! ## Room -/

/-- The number of addresses of the intervals from `e` on, each counted for every interval. -/
def room : List (Nat × Nat) → Nat → Nat
  | [], _ => 0
  | r :: rs, e => (r.2 - max r.1 e) + room rs e

/-- The sum of their lengths. -/
def lengths : List (Nat × Nat) → Nat
  | [] => 0
  | i :: is => (i.2 - i.1) + lengths is

section
variable {rs : List (Nat × Nat)}

theorem room_antitone {e e' : Nat} (le : e ≤ e') : room rs e' ≤ room rs e := by
  induction rs with
  | nil => exact Nat.le_refl 0
  | cons r rs ih =>
    unfold room
    omega

/-- An interval inside one of them takes its length away. -/
theorem room_inside {r : Nat × Nat} (mem : r ∈ rs) {a b e : Nat} (lower : r.1 ≤ a) (upper : b ≤ r.2)
    (behind : e ≤ a) (le : a ≤ b) : b - a + room rs b ≤ room rs e := by
  induction rs with
  | nil => cases mem
  | cons s rs ih =>
    have antitone : room rs b ≤ room rs e := room_antitone (Nat.le_trans behind le)
    unfold room
    rcases List.mem_cons.1 mem with rfl | mem
    · omega
    · have := ih mem
      omega

/-- Intervals in order, each inside one of `rs`, have no more addresses than `rs`. -/
theorem lengths_le_room {is : List (Nat × Nat)} (ordered : is.Pairwise fun i j => i.2 ≤ j.1)
    (nonempty : ∀ i ∈ is, i.1 ≤ i.2) (inside : ∀ i ∈ is, ∃ r ∈ rs, r.1 ≤ i.1 ∧ i.2 ≤ r.2) {e : Nat}
    (behind : ∀ i ∈ is, e ≤ i.1) : lengths is ≤ room rs e := by
  induction is generalizing e with
  | nil => exact Nat.zero_le _
  | cons i is ih =>
    obtain ⟨first, ordered⟩ := List.pairwise_cons.1 ordered
    obtain ⟨some, nonempty⟩ := List.forall_mem_cons.1 nonempty
    obtain ⟨⟨r, mem, lower, upper⟩, inside⟩ := List.forall_mem_cons.1 inside
    have rest := ih ordered nonempty inside first
    have taken := room_inside mem lower upper (behind i List.mem_cons_self) some
    unfold lengths
    omega

end

end BootUpgrade.Intervals

/-!
# The first occurrence of a pattern

The place where a pattern first occurs in a list, and the `iff` that says so.
-/

namespace BootUpgrade.Search

variable {α : Type} [DecidableEq α] {pattern xs : List α} {p : Nat}

def find (pattern : List α) : List α → Option Nat
  | [] => none
  | x :: xs => if pattern.isPrefixOf (x :: xs) then some 0 else (find pattern xs).map (· + 1)

/-- The pattern occurs at `p` and nowhere before. -/
structure First (pattern xs : List α) (p : Nat) : Prop where
  here : pattern <+: xs.drop p
  before : ∀ i < p, ¬ pattern <+: xs.drop i

omit [DecidableEq α] in
theorem First.unique {q : Nat} (h : First pattern xs p) (h' : First pattern xs q) : p = q := by
  apply Nat.le_antisymm
  · exact Nat.le_of_not_lt fun lt => h.before q lt h'.here
  · exact Nat.le_of_not_lt fun lt => h'.before p lt h.here

omit [DecidableEq α] in
theorem First.lt_length (ne : pattern ≠ []) (h : First pattern xs p) :
    p + pattern.length ≤ xs.length := by
  have length := h.here.length_le
  have := List.length_pos_iff.2 ne
  rw [List.length_drop] at length
  omega

theorem find_none (ne : pattern ≠ []) : find pattern xs = none ↔ ∀ i, ¬ pattern <+: xs.drop i := by
  induction xs with
  | nil =>
    constructor
    · intro _ i occurs
      rw [List.drop_nil] at occurs
      exact ne (List.prefix_nil.1 occurs)
    · exact fun _ => rfl
  | cons x xs ih =>
    unfold find
    by_cases here : pattern <+: x :: xs
    · rw [if_pos (List.isPrefixOf_iff_prefix.2 here)]
      constructor
      · intro found
        cases found
      · exact fun nowhere => absurd here (nowhere 0)
    · rw [if_neg (mt List.isPrefixOf_iff_prefix.1 here), Option.map_eq_none_iff, ih]
      constructor
      · intro later i
        cases i with
        | zero => exact here
        | succ i => exact later i
      · exact fun nowhere i => nowhere (i + 1)

theorem find_some (ne : pattern ≠ []) : find pattern xs = some p ↔ First pattern xs p := by
  induction xs generalizing p with
  | nil =>
    constructor
    · intro found
      cases found
    · intro first
      have := first.lt_length ne
      have := List.length_pos_iff.2 ne
      simp only [List.length_nil] at *
      omega
  | cons x xs ih =>
    unfold find
    by_cases here : pattern <+: x :: xs
    · rw [if_pos (List.isPrefixOf_iff_prefix.2 here), Option.some.injEq]
      have start : First pattern (x :: xs) 0 := ⟨here, fun i hi => absurd hi (Nat.not_lt_zero i)⟩
      constructor
      · rintro rfl
        exact start
      · exact fun first => start.unique first
    · rw [if_neg (mt List.isPrefixOf_iff_prefix.1 here), Option.map_eq_some_iff]
      constructor
      · rintro ⟨q, found, rfl⟩
        obtain ⟨at_q, before⟩ := ih.1 found
        constructor
        · exact at_q
        · intro i hi
          cases i with
          | zero => exact here
          | succ i => exact before i (Nat.lt_of_succ_lt_succ hi)
      · intro first
        cases p with
        | zero => exact absurd first.here here
        | succ q =>
          refine ⟨q, ih.2 ⟨first.here, ?_⟩, rfl⟩
          exact fun i hi => first.before (i + 1) (Nat.succ_lt_succ hi)

end BootUpgrade.Search

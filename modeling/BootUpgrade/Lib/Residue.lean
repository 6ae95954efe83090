/-!
# What is left of a stream

A reader that looks for items in a list may drop what no item can begin at,
whatever comes after. `live` is the list without that; a reader that sees only
the live part sees enough, also when the list grows.
-/

namespace BootUpgrade.Residue

variable {α : Type} (Begins : List α → Prop)

open Classical in
/-- The list from the first place on where an item may begin. -/
noncomputable def live : List α → List α
  | [] => []
  | x :: xs => if Begins (x :: xs) then x :: xs else live xs

variable {Begins} {xs ys : List α} {n : Nat}

theorem live_of_begins (h : Begins xs) : live Begins xs = xs := by
  cases xs with
  | nil => rfl
  | cons x xs => exact if_pos h

theorem live_of_not_begins {x : α} (h : ¬ Begins (x :: xs)) : live Begins (x :: xs) = live Begins xs :=
  if_neg h

theorem live_suffix (xs : List α) : live Begins xs <:+ xs := by
  induction xs with
  | nil => exact List.suffix_refl _
  | cons x xs ih =>
    by_cases h : Begins (x :: xs)
    · exact ⟨[], by rw [live_of_begins h, List.nil_append]⟩
    · rw [live_of_not_begins h]
      exact ih.trans (List.suffix_cons x xs)

/-- Something can begin at the live part, if there is one. -/
theorem begins_live (ne : live Begins xs ≠ []) : Begins (live Begins xs) := by
  induction xs with
  | nil => exact absurd rfl ne
  | cons x xs ih =>
    by_cases h : Begins (x :: xs)
    · rw [live_of_begins h]
      exact h
    · rw [live_of_not_begins h] at ne ⊢
      exact ih ne

theorem live_drop (dead : ∀ i < n, i < xs.length → ¬ Begins (xs.drop i)) :
    live Begins (xs.drop n) = live Begins xs := by
  induction n generalizing xs with
  | zero => rfl
  | succ n ih =>
    cases xs with
    | nil => rfl
    | cons x xs =>
      have head := dead 0 (Nat.zero_lt_succ n) (Nat.zero_lt_succ _)
      rw [live_of_not_begins head, List.drop_succ_cons]
      exact ih fun i hi inside => dead (i + 1) (Nat.succ_lt_succ hi) (Nat.succ_lt_succ inside)

theorem live_eq_nil : live Begins xs = [] ↔ ∀ i < xs.length, ¬ Begins (xs.drop i) := by
  induction xs with
  | nil =>
    constructor
    · exact fun _ i hi => absurd hi (Nat.not_lt_zero i)
    · exact fun _ => rfl
  | cons x xs ih =>
    constructor
    · intro empty
      have head : ¬ Begins (x :: xs) := by
        intro h
        rw [live_of_begins h] at empty
        cases empty
      rw [live_of_not_begins head, ih] at empty
      intro i hi
      cases i with
      | zero => exact head
      | succ i => exact empty i (Nat.lt_of_succ_lt_succ hi)
    · intro dead
      rw [live_of_not_begins (dead 0 (Nat.zero_lt_succ _)), ih]
      exact fun i hi => dead (i + 1) (Nat.succ_lt_succ hi)

/-- What is dead stays dead when the list grows. -/
theorem live_append (stays : ∀ xs ys, Begins (xs ++ ys) → Begins xs) (xs ys : List α) :
    live Begins (live Begins xs ++ ys) = live Begins (xs ++ ys) := by
  induction xs with
  | nil => rfl
  | cons x xs ih =>
    by_cases h : Begins (x :: xs)
    · rw [live_of_begins h]
    · rw [live_of_not_begins h, ih, List.cons_append, live_of_not_begins]
      exact fun longer => h (stays _ _ longer)

end BootUpgrade.Residue

import Mathlib.Data.List.Basic

/-!
# One request served a tick

Requests are served in order, at most one at each tick, and the `i`-th of them
at no tick before it is there. How many of them are served depends on how many
ticks are left behind the coming of each.
-/

namespace BootUpgrade.Serving

variable {α β : Type} {has : Nat → α → Bool}

/-- The number of requests that are served when the ticks `ps` are over, if it is `s`
before. -/
def served (has : Nat → α → Bool) : List α → Nat → Nat
  | [], s => s
  | p :: ps, s => served has ps (if has (s + 1) p then s + 1 else s)

theorem served_le (ps : List α) (s : Nat) : served has ps s ≤ s + ps.length := by
  induction ps generalizing s with
  | nil => exact Nat.le_refl s
  | cons p ps ih =>
    have waited := ih s
    have taken := ih (s + 1)
    unfold served
    rw [List.length_cons]
    by_cases here : has (s + 1) p
    · rw [if_pos here]
      omega
    · rw [if_neg here]
      omega

/-- Counting from the second request on. -/
theorem served_succ (ps : List α) (s : Nat) :
    served has ps (s + 1) = served (fun i => has (i + 1)) ps s + 1 := by
  induction ps generalizing s with
  | nil => rfl
  | cons p ps ih =>
    unfold served
    by_cases here : has (s + 1 + 1) p
    · simp only [here, if_true]
      exact ih (s + 1)
    · simp only [here, if_false, Bool.false_eq_true]
      exact ih s

theorem served_map (f : β → α) (ps : List β) (s : Nat) :
    served has (ps.map f) s = served (fun i p => has i (f p)) ps s := by
  induction ps generalizing s with
  | nil => rfl
  | cons p ps ih =>
    rw [List.map_cons, served, served]
    exact ih _

/-- Of two requests the first is there if the second is. -/
def Ordered (has : Nat → α → Bool) : Prop := ∀ i p, has (i + 1) p = true → has i p = true

/-- A request that is there stays there. -/
def Stays (has : Nat → α → Bool) (ps : List α) : Prop :=
  ps.Pairwise fun p q => ∀ i, has i p = true → has i q = true

theorem Ordered.of_le (ordered : Ordered has) {p : α} {i j : Nat} (le : i ≤ j)
    (later : has j p = true) : has i p = true := by
  induction le with
  | refl => exact later
  | step _ ih => exact ih (ordered _ _ later)

/-- From the tick on at which a request is there, it is there at every tick. -/
theorem Stays.countP {p : α} {ps : List α} (stays : Stays has (p :: ps)) {i : Nat}
    (here : has i p = true) : ps.countP (has i) = ps.length := by
  rw [List.countP_eq_length]
  intro q mem
  exact (List.pairwise_cons.1 stays).1 q mem i here

/-- `k` requests are served if and only if enough ticks are left for the requests from
the `i`-th to the `k`-th, whichever of them is the first to be served late. -/
theorem le_served_iff (ordered : Ordered has) {ps : List α} (stays : Stays has ps) (k s : Nat) :
    k ≤ served has ps s ↔ ∀ i, s < i → i ≤ k → k < i + ps.countP (has i) := by
  induction ps generalizing s with
  | nil =>
    constructor
    · intro done i after upto
      exact absurd (Nat.lt_of_lt_of_le after (Nat.le_trans upto done)) (Nat.lt_irrefl s)
    · intro enough
      apply Nat.le_of_not_lt
      intro waiting
      have none : k < k + 0 := enough k waiting (Nat.le_refl k)
      exact absurd none (Nat.lt_irrefl k)
  | cons p ps ih =>
    have later : Stays has ps := (List.pairwise_cons.1 stays).2
    rw [served, ih later]
    by_cases here : has (s + 1) p = true
    · rw [if_pos here]
      have all := stays.countP here
      constructor
      · intro enough i after upto
        rw [List.countP_cons]
        by_cases first : i = s + 1
        · subst first
          have rest : k ≤ served has ps (s + 1) := (ih later (s + 1)).2 enough
          have most : served has ps (s + 1) ≤ s + 1 + ps.length := served_le ps (s + 1)
          simp only [here, if_true]
          omega
        · have := enough i (by omega) upto
          omega
      · intro enough i after upto
        have counted := enough i (by omega) upto
        rw [List.countP_cons] at counted
        by_cases come : has i p = true
        · have first := enough (s + 1) (Nat.lt_succ_self s) (by omega)
          rw [List.countP_cons, all] at first
          rw [stays.countP come]
          simp only [here, if_true] at first
          omega
        · simpa [come] using counted
    · rw [if_neg here]
      have absent : ∀ i, s < i → (p :: ps).countP (has i) = ps.countP (has i) := by
        intro i after
        rw [List.countP_cons_of_neg]
        intro come
        exact here (ordered.of_le after come)
      constructor
      · intro enough i after upto
        rw [absent i after]
        exact enough i after upto
      · intro enough i after upto
        have counted := enough i after upto
        rwa [absent i after] at counted

end BootUpgrade.Serving

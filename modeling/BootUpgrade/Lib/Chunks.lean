/-!
# Lists cut into pieces of one size

Every piece but the last has the full size, and the pieces in order make up
the list.
-/

namespace BootUpgrade.Chunks

variable {α : Type}

/-- Piece `k` of size `m`. -/
def chunk (m : Nat) (xs : List α) (k : Nat) : List α := (xs.drop (m * k)).take m

/-- The number of pieces. -/
def count (m : Nat) (xs : List α) : Nat := (xs.length + m - 1) / m

section
variable {m k : Nat} {xs : List α}

theorem length_chunk : (chunk m xs k).length = min m (xs.length - m * k) := by
  rw [chunk, List.length_take, List.length_drop]

theorem lt_count (hm : 0 < m) : k < count m xs ↔ m * k < xs.length := by
  rw [count, Nat.lt_div_iff_mul_lt hm, Nat.mul_comm]
  omega

@[simp] theorem count_nil (hm : 0 < m) : count m ([] : List α) = 0 := by
  rw [count, List.length_nil]
  exact Nat.div_eq_of_lt (by omega)

theorem count_drop (hm : 0 < m) (hx : xs ≠ []) : count m xs = count m (xs.drop m) + 1 := by
  have positive := List.length_pos_iff.2 hx
  unfold count
  rw [List.length_drop, show xs.length + m - 1 = (xs.length - 1) + m by omega,
    Nat.add_div_right _ hm]
  congr 1
  by_cases long : m ≤ xs.length
  · rw [show xs.length - m + m - 1 = xs.length - 1 by omega]
  · rw [Nat.div_eq_of_lt (by omega), Nat.div_eq_of_lt (by omega)]

theorem chunk_succ : chunk m xs (k + 1) = chunk m (xs.drop m) k := by
  rw [chunk, chunk, List.drop_drop, Nat.mul_succ, Nat.add_comm]

/-- The first piece, then the pieces of the rest. -/
theorem map_chunk {β : Type} (f : Nat → List α → β) (hm : 0 < m) (hx : xs ≠ []) :
    (List.range (count m xs)).map (fun k => f k (chunk m xs k)) =
      f 0 (xs.take m) ::
        (List.range (count m (xs.drop m))).map fun k => f (k + 1) (chunk m (xs.drop m) k) := by
  rw [count_drop hm hx, List.range_succ_eq_map, List.map_cons, List.map_map]
  congr 1
  apply List.map_congr_left
  intro k _
  rw [Function.comp, chunk_succ]

/-- The pieces make up the list. -/
theorem flatMap_chunk (hm : 0 < m) : (List.range (count m xs)).flatMap (chunk m xs) = xs := by
  generalize hn : xs.length = n
  induction n using Nat.strongRecOn generalizing xs with
  | ind n ih =>
    by_cases hx : xs = []
    · rw [hx, count_nil hm]
      rfl
    · have positive := List.length_pos_iff.2 hx
      rw [List.flatMap_def, map_chunk (fun _ c => c) hm hx, List.flatten_cons,
        ← List.flatMap_def, ih (xs.drop m).length (by rw [List.length_drop]; omega) rfl,
        List.take_append_drop]

end

end BootUpgrade.Chunks

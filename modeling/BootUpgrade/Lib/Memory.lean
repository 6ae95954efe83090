/-!
# A memory of 16-bit words

Words at natural addresses, stored one block at a time. The lemmas say what a
store leaves inside and outside its block, and when two block stores make one.
-/

namespace BootUpgrade.Memory

/-- The words of a memory, by address. -/
abbrev Words := Nat → UInt16

/-- `data` stored from `address` on. -/
def store (m : Words) (address : Nat) (data : List UInt16) : Words :=
  fun a => if address ≤ a ∧ a < address + data.length then data.getD (a - address) 0 else m a

/-- One value stored in the words from `start` up to `stop`. -/
def fill (m : Words) (start stop : Nat) (value : UInt16) : Words :=
  fun a => if start ≤ a ∧ a < stop then value else m a

/-- The words from `address` on. -/
def load (m : Words) (address count : Nat) : List UInt16 :=
  (List.range count).map fun i => m (address + i)

section
variable {m : Words} {address a : Nat} {data xs ys : List UInt16}

theorem store_inside (h : address ≤ a) (h' : a < address + data.length) :
    store m address data a = data.getD (a - address) 0 := if_pos ⟨h, h'⟩

theorem store_outside (h : a < address ∨ address + data.length ≤ a) :
    store m address data a = m a := if_neg (by omega)

@[simp] theorem store_nil : store m address [] = m := by
  funext a
  exact store_outside (by simp only [List.length_nil]; omega)

theorem store_append : store m address (xs ++ ys) =
    store (store m address xs) (address + xs.length) ys := by
  funext a
  by_cases hx : address ≤ a ∧ a < address + xs.length
  · rw [store_inside hx.1 (by rw [List.length_append]; omega), store_outside (by omega),
      store_inside hx.1 hx.2]
    simp only [List.getD_eq_getElem?_getD, List.getElem?_append_left (show a - address < xs.length by omega)]
  · by_cases hy : address + xs.length ≤ a ∧ a < address + xs.length + ys.length
    · rw [store_inside (by omega) (by rw [List.length_append]; omega), store_inside hy.1 hy.2]
      simp only [List.getD_eq_getElem?_getD,
        List.getElem?_append_right (show xs.length ≤ a - address by omega)]
      rw [show a - address - xs.length = a - (address + xs.length) by omega]
    · rw [store_outside (by rw [List.length_append]; omega), store_outside (by omega),
        store_outside (by omega)]

theorem fill_inside {start stop : Nat} {value : UInt16} (h : start ≤ a) (h' : a < stop) :
    fill m start stop value a = value := if_pos ⟨h, h'⟩

theorem fill_outside {start stop : Nat} {value : UInt16} (h : a < start ∨ stop ≤ a) :
    fill m start stop value a = m a := if_neg (by omega)

end

end BootUpgrade.Memory

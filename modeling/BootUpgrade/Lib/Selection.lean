import Mathlib.Data.List.Induction

/-!
# Keeping the newest of what a scan reads

A scan that replaces its candidate only by one with a strictly greater key
ends with the newest element: the first one that carries the greatest key.
-/

namespace BootUpgrade.Selection

variable {α : Type} (key : α → Nat)

/-- The candidate after the scan has read one more element. -/
def newer (best : Option α) (x : α) : Option α :=
  match best with
  | none => some x
  | some b => if key b < key x then some x else some b

def newest (l : List α) : Option α := l.foldl (newer key) none

@[simp] theorem newest_nil : newest key ([] : List α) = none := rfl

theorem newest_append_singleton (l : List α) (x : α) :
    newest key (l ++ [x]) = newer key (newest key l) x := by
  simp [newest]

/-- One read keeps a candidate that is at least as new as both. -/
theorem newer_spec (best : Option α) (x : α) :
    ∃ b, newer key best x = some b ∧ (b = x ∨ best = some b) ∧ key x ≤ key b ∧
      ∀ c, best = some c → key c ≤ key b := by
  cases best with
  | none => exact ⟨x, rfl, .inl rfl, Nat.le_refl _, by simp⟩
  | some c =>
    by_cases h : key c < key x
    · refine ⟨x, by simp [newer, h], .inl rfl, Nat.le_refl _, ?_⟩
      rintro _ ⟨⟩
      omega
    · refine ⟨c, by simp [newer, h], .inr rfl, by omega, ?_⟩
      rintro _ ⟨⟩
      exact Nat.le_refl _

theorem foldl_newer_spec (l : List α) (best : Option α) {b : α}
    (h : l.foldl (newer key) best = some b) :
    (b ∈ l ∨ best = some b) ∧ (∀ x ∈ l, key x ≤ key b) ∧ ∀ c, best = some c → key c ≤ key b := by
  induction l generalizing best with
  | nil =>
    refine ⟨.inr h, by simp, ?_⟩
    rintro c rfl
    cases h
    exact Nat.le_refl _
  | cons x xs ih =>
    obtain ⟨n, hn, from', hx, hbest⟩ := newer_spec key best x
    rw [List.foldl_cons, hn] at h
    obtain ⟨mem, le, start⟩ := ih _ h
    have hnb := start n rfl
    refine ⟨?_, ?_, fun c hc => Nat.le_trans (hbest c hc) hnb⟩
    · rcases mem with mem | mem
      · exact .inl (List.mem_cons_of_mem _ mem)
      · cases mem
        rcases from' with rfl | from'
        · exact .inl List.mem_cons_self
        · exact .inr from'
    · intro y hy
      rcases List.mem_cons.1 hy with rfl | hy
      · exact Nat.le_trans hx hnb
      · exact le y hy

/-- The newest element is one of them and none has a greater key. -/
theorem newest_spec {l : List α} {b : α} (h : newest key l = some b) :
    b ∈ l ∧ ∀ x ∈ l, key x ≤ key b := by
  obtain ⟨mem, le, -⟩ := foldl_newer_spec key l none h
  exact ⟨mem.resolve_right (by simp), le⟩

theorem foldl_newer_isSome (l : List α) (b : α) : ∃ c, l.foldl (newer key) (some b) = some c := by
  induction l generalizing b with
  | nil => exact ⟨b, rfl⟩
  | cons x xs ih =>
    obtain ⟨n, hn, -⟩ := newer_spec key (some b) x
    rw [List.foldl_cons, hn]
    exact ih n

theorem newest_eq_none {l : List α} : newest key l = none ↔ l = [] := by
  constructor
  · intro h
    cases l with
    | nil => rfl
    | cons x xs =>
      obtain ⟨c, hc⟩ := foldl_newer_isSome key xs x
      have : newest key (x :: xs) = some c := hc
      rw [h] at this
      cases this
  · rintro rfl; rfl

/-- An element newer than all the others is the one that is kept. -/
theorem newest_concat {l : List α} {x : α} (h : ∀ y ∈ l, key y < key x) :
    newest key (l ++ [x]) = some x := by
  rw [newest_append_singleton]
  cases hl : newest key l with
  | none => rfl
  | some b => simp [newer, h b (newest_spec key hl).1]

/-! ## Other elements -/

section
variable {β : Type} (f : β → α) (l : List β)

theorem newer_map (best : Option β) (x : β) :
    newer key (best.map f) (f x) = (newer (fun y => key (f y)) best x).map f := by
  cases best with
  | none => rfl
  | some b =>
    simp only [newer, Option.map_some]
    split <;> rfl

/-- A selection among images is the image of a selection. -/
theorem newest_map : newest key (l.map f) = (newest (fun y => key (f y)) l).map f := by
  induction l using List.reverseRecOn with
  | nil => rfl
  | append_singleton l x ih =>
    rw [List.map_append, List.map_singleton, newest_append_singleton, newest_append_singleton, ih,
      newer_map]

end

/-- The greatest key is that of the newest element. -/
theorem foldl_max_key (l : List α) :
    (l.map key).foldl max 0 = ((newest key l).map key).getD 0 := by
  induction l using List.reverseRecOn with
  | nil => rfl
  | append_singleton l x ih =>
    rw [List.map_append, List.foldl_append, ih, newest_append_singleton]
    cases newest key l with
    | none => simp [newer]
    | some b =>
      by_cases h : key b < key x
      · simp [newer, h, Nat.max_eq_right (Nat.le_of_lt h)]
      · simp [newer, h, Nat.max_eq_left (Nat.not_lt.1 h)]

/-! ## Other orders of reading -/

/-- The greatest key does not depend on the order of the elements. -/
theorem newest_key_perm {l l' : List α} (h : l.Perm l') :
    (newest key l).map key = (newest key l').map key := by
  cases hl : newest key l with
  | none =>
    have empty : l' = [] := by
      rw [(newest_eq_none key).1 hl] at h
      exact h.nil_eq.symm
    simp [empty]
  | some b =>
    cases hl' : newest key l' with
    | none =>
      have empty : l = [] := by
        rw [(newest_eq_none key).1 hl'] at h
        exact h.eq_nil
      simp [empty] at hl
    | some b' =>
      obtain ⟨mem, greatest⟩ := newest_spec key hl
      obtain ⟨mem', greatest'⟩ := newest_spec key hl'
      have le := greatest' b (h.mem_iff.1 mem)
      have le' := greatest b' (h.mem_iff.2 mem')
      simp only [Option.map_some, Option.some.injEq]
      omega

/-- Neither does the element that carries it, where no key occurs twice. -/
theorem newest_perm {l l' : List α} (h : l.Perm l')
    (distinct : ∀ x ∈ l, ∀ y ∈ l, key x = key y → x = y) : newest key l = newest key l' := by
  have keys := newest_key_perm key h
  cases hl : newest key l with
  | none =>
    cases hl' : newest key l' with
    | none => rfl
    | some b' => simp [hl, hl'] at keys
  | some b =>
    cases hl' : newest key l' with
    | none => simp [hl, hl'] at keys
    | some b' =>
      simp only [hl, hl', Option.map_some, Option.some.injEq] at keys
      have mem' := h.mem_iff.2 (newest_spec key hl').1
      rw [distinct b (newest_spec key hl).1 b' mem' keys]

end BootUpgrade.Selection

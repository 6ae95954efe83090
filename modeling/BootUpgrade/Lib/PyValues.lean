import Mathlib.Data.List.Induction
import Mathlib.Data.List.Nodup
import Mathlib.Data.List.Perm.Subperm

/-!
# Values of a dynamically typed program

The values a JSON text can carry, together with the ones it cannot. A mapping
lists its items in insertion order; two mappings are equal whatever that order
is, as `==` has it.
-/

namespace BootUpgrade

/-- The key of a mapping: a string, or a value of another type. -/
inductive PyKey where
  | str (text : String)
  | other (typeName : String)
  deriving DecidableEq, Repr

inductive PyValue where
  | none
  | bool (value : Bool)
  | int (value : Int)
  | float (value : Float)
  | str (value : String)
  | list (items : List PyValue)
  | tuple (items : List PyValue)
  | mapping (fields : List (PyKey × PyValue))
  | other (typeName : String)

abbrev PyFields := List (PyKey × PyValue)

namespace PyValue

mutual

/-- `==`, with the types of both sides the same. -/
def Same : PyValue → PyValue → Prop
  | .none, w => w = .none
  | .bool value, w => w = .bool value
  | .int value, w => w = .int value
  | .float value, w => w = .float value
  | .str value, w => w = .str value
  | .list items, w => ∃ others, w = .list others ∧ SameItems items others
  | .tuple items, w => ∃ others, w = .tuple others ∧ SameItems items others
  | .mapping fields, w =>
    ∃ others, w = .mapping others ∧ fields.length = others.length ∧ SameFields fields others
  | .other typeName, w => w = .other typeName

def SameItems : List PyValue → List PyValue → Prop
  | [], others => others = []
  | item :: items, others =>
    ∃ other rest, others = other :: rest ∧ Same item other ∧ SameItems items rest

/-- Every item of the one mapping is in the other one. -/
def SameFields : PyFields → PyFields → Prop
  | [], _ => True
  | (key, value) :: fields, others =>
    (∃ other, others.lookup key = some other ∧ Same value other) ∧ SameFields fields others

end

mutual

/-- No mapping, at any depth, has a key twice. -/
def Distinct : PyValue → Prop
  | .list items => DistinctItems items
  | .tuple items => DistinctItems items
  | .mapping fields => (fields.map Prod.fst).Nodup ∧ DistinctFields fields
  | _ => True

def DistinctItems : List PyValue → Prop
  | [] => True
  | item :: items => Distinct item ∧ DistinctItems items

def DistinctFields : PyFields → Prop
  | [] => True
  | (_, value) :: fields => Distinct value ∧ DistinctFields fields

end

theorem distinctItems_iff {items : List PyValue} :
    DistinctItems items ↔ ∀ item ∈ items, Distinct item := by
  induction items with
  | nil => simp [DistinctItems]
  | cons item items ih => simp [DistinctItems, ih]

theorem distinctFields_iff {fields : PyFields} :
    DistinctFields fields ↔ ∀ item ∈ fields, Distinct item.2 := by
  induction fields with
  | nil => simp [DistinctFields]
  | cons item fields ih =>
    obtain ⟨key, value⟩ := item
    simp [DistinctFields, ih]

theorem sameFields_iff {fields others : PyFields} :
    SameFields fields others ↔
      ∀ item ∈ fields, ∃ other, others.lookup item.1 = some other ∧ Same item.2 other := by
  induction fields with
  | nil => simp [SameFields]
  | cons item fields ih =>
    obtain ⟨key, value⟩ := item
    simp [SameFields, ih]

end PyValue

/-! ## Looking a key up -/

namespace PyDict

section Lookup

variable {κ α : Type} [DecidableEq κ] {fields : List (κ × α)} {key : κ} {value : α}

theorem mem_of_lookup (found : fields.lookup key = some value) : (key, value) ∈ fields := by
  induction fields with
  | nil => simp at found
  | cons item fields ih =>
    obtain ⟨first, held⟩ := item
    by_cases here : key = first
    · subst here
      simp only [List.lookup_cons_self, Option.some.injEq] at found
      simp [found]
    · rw [List.lookup_cons, beq_false_of_ne here] at found
      exact List.mem_cons_of_mem _ (ih found)

theorem lookup_of_mem (nodup : (fields.map Prod.fst).Nodup) (mem : (key, value) ∈ fields) :
    fields.lookup key = some value := by
  induction fields with
  | nil => simp at mem
  | cons item fields ih =>
    obtain ⟨first, held⟩ := item
    rw [List.map_cons, List.nodup_cons] at nodup
    rcases List.mem_cons.1 mem with here | behind
    · cases here
      simp
    · have other : key ≠ first := by
        rintro rfl
        exact nodup.1 (List.mem_map.2 ⟨_, behind, rfl⟩)
      rw [List.lookup_cons, beq_false_of_ne other]
      exact ih nodup.2 behind

theorem lookup_eq_none : fields.lookup key = none ↔ key ∉ fields.map Prod.fst := by
  induction fields with
  | nil => simp
  | cons item fields ih =>
    obtain ⟨first, held⟩ := item
    by_cases here : key = first
    · simp [here]
    · rw [List.lookup_cons, beq_false_of_ne here]
      simpa [here] using ih

end Lookup

end PyDict

namespace PyValue

variable {fields others : PyFields}

/-- Equal mappings have the same keys, whatever the order. -/
theorem Same.keys (nodup : (fields.map Prod.fst).Nodup) (length : fields.length = others.length)
    (same : SameFields fields others) :
    (fields.map Prod.fst).Perm (others.map Prod.fst) := by
  have within : fields.map Prod.fst ⊆ others.map Prod.fst := by
    intro key mem
    obtain ⟨item, held, rfl⟩ := List.mem_map.1 mem
    obtain ⟨other, found, _⟩ := sameFields_iff.1 same item held
    exact List.mem_map.2 ⟨_, PyDict.mem_of_lookup found, rfl⟩
  apply (nodup.subperm within).perm_of_length_le
  simp [length]

/-- What an item of the other mapping is equal to. -/
theorem Same.back (nodup : (fields.map Prod.fst).Nodup)
    (distinct : (others.map Prod.fst).Nodup) (length : fields.length = others.length)
    (same : SameFields fields others) {key : PyKey} {other : PyValue}
    (mem : (key, other) ∈ others) : ∃ value, (key, value) ∈ fields ∧ Same value other := by
  have held : key ∈ fields.map Prod.fst :=
    (Same.keys nodup length same).mem_iff.2 (List.mem_map_of_mem mem)
  obtain ⟨⟨_, value⟩, inside, rfl⟩ := List.mem_map.1 held
  obtain ⟨found, lookup, equal⟩ := sameFields_iff.1 same _ inside
  have : found = other := by
    rw [PyDict.lookup_of_mem distinct mem] at lookup
    exact (Option.some.inj lookup).symm
  exact ⟨value, inside, this ▸ equal⟩

mutual

theorem Same.refl {value : PyValue} (distinct : Distinct value) : Same value value := by
  cases value with
  | none | bool | int | float | str | other => rfl
  | list items | tuple items => exact ⟨items, rfl, SameItems.refl distinct⟩
  | mapping fields =>
    refine ⟨fields, rfl, rfl, sameFields_iff.2 fun item mem => ?_⟩
    exact ⟨item.2, PyDict.lookup_of_mem distinct.1 mem, fields_refl distinct.2 item mem⟩

theorem SameItems.refl {items : List PyValue} (distinct : DistinctItems items) :
    SameItems items items := by
  cases items with
  | nil => rfl
  | cons item items => exact ⟨item, items, rfl, Same.refl distinct.1, SameItems.refl distinct.2⟩

theorem fields_refl {fields : PyFields} (distinct : DistinctFields fields) :
    ∀ item ∈ fields, Same item.2 item.2 := by
  cases fields with
  | nil => simp
  | cons item fields =>
    rw [List.forall_mem_cons]
    exact ⟨Same.refl distinct.1, fields_refl distinct.2⟩

end

end PyValue

/-! ## A dict made item by item -/

namespace PyDict

variable {κ α : Type} [DecidableEq κ]

/-- `mapping[key] = value`: a new key goes behind the others. -/
def assign (key : κ) (value : α) : List (κ × α) → List (κ × α)
  | [] => [(key, value)]
  | (first, held) :: fields =>
    if first = key then (key, value) :: fields else (first, held) :: assign key value fields

def ofItems (items : List (κ × α)) : List (κ × α) :=
  items.foldl (fun fields item => assign item.1 item.2 fields) []

variable {fields items : List (κ × α)} {key : κ} {value : α}

theorem assign_new (new : key ∉ fields.map Prod.fst) :
    assign key value fields = fields ++ [(key, value)] := by
  induction fields with
  | nil => rfl
  | cons item fields ih =>
    obtain ⟨first, held⟩ := item
    rw [List.map_cons, List.mem_cons, not_or] at new
    simp [assign, Ne.symm new.1, ih new.2]

theorem mem_keys_assign {other : κ} :
    other ∈ (assign key value fields).map Prod.fst ↔
      other = key ∨ other ∈ fields.map Prod.fst := by
  induction fields with
  | nil => simp [assign]
  | cons item fields ih =>
    obtain ⟨first, held⟩ := item
    by_cases here : first = key
    · simp [assign, here]
    · simp only [assign, here, ite_false, List.map_cons, List.mem_cons, ih]
      tauto

theorem nodup_assign (nodup : (fields.map Prod.fst).Nodup) :
    ((assign key value fields).map Prod.fst).Nodup := by
  induction fields with
  | nil => simp [assign]
  | cons item fields ih =>
    obtain ⟨first, held⟩ := item
    rw [List.map_cons, List.nodup_cons] at nodup
    by_cases here : first = key
    · subst here
      simpa [assign] using nodup
    · simp only [assign, here, ite_false, List.map_cons, List.nodup_cons]
      constructor
      · intro mem
        rcases mem_keys_assign.1 mem with equal | behind
        · exact here equal
        · exact nodup.1 behind
      · exact ih nodup.2

theorem mem_assign {item : κ × α} (mem : item ∈ assign key value fields) :
    item = (key, value) ∨ item ∈ fields := by
  induction fields with
  | nil => simpa [assign] using mem
  | cons held fields ih =>
    obtain ⟨first, old⟩ := held
    by_cases here : first = key
    · simp only [assign, here, ite_true, List.mem_cons] at mem
      rcases mem with equal | behind
      · exact Or.inl equal
      · exact Or.inr (List.mem_cons_of_mem _ behind)
    · simp only [assign, here, ite_false, List.mem_cons] at mem
      rcases mem with equal | behind
      · exact Or.inr (by simp [equal])
      · rcases ih behind with equal | inside
        · exact Or.inl equal
        · exact Or.inr (List.mem_cons_of_mem _ inside)

theorem ofItems_append (item : κ × α) :
    ofItems (items ++ [item]) = assign item.1 item.2 (ofItems items) := by
  simp [ofItems, List.foldl_append]

theorem ofItems_nodup (items : List (κ × α)) : ((ofItems items).map Prod.fst).Nodup := by
  induction items using List.reverseRecOn with
  | nil => simp [ofItems]
  | append_singleton items item ih =>
    rw [ofItems_append]
    exact nodup_assign ih

theorem mem_ofItems {item : κ × α} (mem : item ∈ ofItems items) : item ∈ items := by
  induction items using List.reverseRecOn with
  | nil => simp [ofItems] at mem
  | append_singleton items last ih =>
    rw [ofItems_append] at mem
    rcases mem_assign mem with equal | inside
    · simp [equal]
    · exact List.mem_append_left _ (ih inside)

/-- Items with keys of their own make the dict they are. -/
theorem ofItems_eq (nodup : (items.map Prod.fst).Nodup) : ofItems items = items := by
  induction items using List.reverseRecOn with
  | nil => rfl
  | append_singleton items last ih =>
    rw [List.map_append, List.nodup_append] at nodup
    obtain ⟨before, _, apart⟩ := nodup
    rw [ofItems_append, ih before, assign_new]
    intro mem
    exact apart _ mem _ (by simp) rfl

end PyDict

end BootUpgrade

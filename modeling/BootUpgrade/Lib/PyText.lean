import Mathlib.Data.List.DropRight

/-!
# Operations on text

`str.strip`, `str.replace` and `str.endswith` on the characters of a string.
-/

namespace BootUpgrade.PyText

/-- The characters `str.isspace` accepts. -/
def isSpace (c : Char) : Bool :=
  let n := c.toNat
  (9 ≤ n && n ≤ 13) || (28 ≤ n && n ≤ 32) || n == 0x85 || n == 0xA0 || n == 0x1680 ||
    (0x2000 ≤ n && n ≤ 0x200A) || n == 0x2028 || n == 0x2029 || n == 0x202F || n == 0x205F ||
    n == 0x3000

def strip (text : String) : String :=
  String.ofList ((text.toList.dropWhile isSpace).rdropWhile isSpace)

/-- The front of a text that starts without a space starts without one. -/
theorem dropWhile_prefix {α : Type} {p : α → Bool} {front xs : List α} (part : front <+: xs)
    (kept : xs.dropWhile p = xs) : front.dropWhile p = front := by
  obtain ⟨behind, rfl⟩ := part
  cases front with
  | nil => rfl
  | cons x front =>
    have start : ¬ p x := by
      have first := List.dropWhile_eq_self_iff.1 kept (by simp)
      simpa using first
    simp [start]

theorem strip_strip (text : String) : strip (strip text) = strip text := by
  have front := dropWhile_prefix (List.rdropWhile_prefix isSpace _)
    (List.dropWhile_idempotent isSpace text.toList)
  simp only [strip, String.toList_ofList, front, List.rdropWhile_idempotent]

/-- The characters of `replace`, with those of an occurrence still to be passed. -/
def replaceFrom (old new : List Char) : Nat → List Char → List Char
  | _, [] => []
  | skip + 1, _ :: text => replaceFrom old new skip text
  | 0, c :: text =>
    if old.isPrefixOf (c :: text) then new ++ replaceFrom old new (old.length - 1) text
    else c :: replaceFrom old new 0 text

def replace (text old new : String) : String :=
  String.ofList (replaceFrom old.toList new.toList 0 text.toList)

theorem replaceFrom_skip {old new : List Char} (text : List Char) :
    replaceFrom old new text.length text = [] := by
  induction text with
  | nil => rfl
  | cons c text ih => simpa [replaceFrom] using ih

/-- An occurrence at the end, with nothing that starts like it in front. -/
theorem replaceFrom_end {first : Char} {others new body : List Char} (absent : first ∉ body) :
    replaceFrom (first :: others) new 0 (body ++ first :: others) = body ++ new := by
  induction body with
  | nil => simp [replaceFrom, replaceFrom_skip]
  | cons c body ih =>
    rw [List.mem_cons, not_or] at absent
    simp [replaceFrom, absent.1, ih absent.2]

def endsWith (text : String) (last : Char) : Bool :=
  text.toList.getLast? == some last

/-- `text[:-1]`. -/
def withoutLast (text : String) : String :=
  String.ofList text.toList.dropLast

end BootUpgrade.PyText

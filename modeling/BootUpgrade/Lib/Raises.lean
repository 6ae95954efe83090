/-!
# What a call may raise

`Raises P call` bounds the exceptions of a call; a sequence of calls raises what
its steps raise.
-/

namespace BootUpgrade

/-- Every exception of the call is one of these. -/
def Raises {E α : Type} (P : E → Prop) (call : Except E α) : Prop :=
  ∀ error, call = .error error → P error

namespace Raises

variable {E α β : Type} {P : E → Prop}

theorem ok (a : α) : Raises P (.ok a : Except E α) := by
  intro error raised
  cases raised

theorem error {e : E} (holds : P e) : Raises P (.error e : Except E α) := by
  intro error raised
  cases raised
  exact holds

theorem bind {call : Except E α} {rest : α → Except E β} (first : Raises P call)
    (next : ∀ a, Raises P (rest a)) : Raises P (call >>= rest) := by
  intro error raised
  cases call with
  | error e =>
    cases raised
    exact first _ rfl
  | ok a => exact next a error raised

end Raises

end BootUpgrade

/-!
# Runs of a machine and what happened in them

A machine answers each input and moves to a next state; everything that is not
determined by the state (the environment) is part of the input. A run keeps
its whole history, so that a property of the present state can speak about the
step that brought it about:

* `run_induction`: an invariant of states;
* `history_induction`: an invariant that relates the state to its history;
* `Since`: the history has an event of one kind after which every event was
  of another kind. It starts with its event and lasts while quiet events
  follow.
-/

namespace BootUpgrade.Runs

/-- A step function with an output for each input. -/
structure Machine (S E O : Type) where
  step : S → E → O × S

/-- One step, with the states on both sides of it. -/
structure Event (S E O : Type) where
  before : S
  input : E
  output : O
  after : S

section
variable {S E O : Type} (m : Machine S E O)

namespace Machine

def event (s : S) (e : E) : Event S E O := ⟨s, e, (m.step s e).1, (m.step s e).2⟩

def run (s : S) : List E → S
  | [] => s
  | e :: es => run (m.step s e).2 es

def history (s : S) : List E → List (Event S E O)
  | [] => []
  | e :: es => m.event s e :: history (m.step s e).2 es

theorem run_append (s : S) (xs ys : List E) : m.run s (xs ++ ys) = m.run (m.run s xs) ys := by
  induction xs generalizing s with
  | nil => rfl
  | cons e es ih => exact ih _

theorem history_append (s : S) (xs ys : List E) :
    m.history s (xs ++ ys) = m.history s xs ++ m.history (m.run s xs) ys := by
  induction xs generalizing s with
  | nil => rfl
  | cons e es ih => simp only [List.cons_append, history, run, ih]

/-- A property that relates the state to its history is kept by every run from
a state that has it, once each step keeps it. -/
theorem extend_induction (P : List (Event S E O) → S → Prop)
    (next : ∀ h s e, P h s → P (h ++ [m.event s e]) (m.step s e).2) (es : List E)
    (h : List (Event S E O)) (s : S) (start : P h s) : P (h ++ m.history s es) (m.run s es) := by
  induction es generalizing h s with
  | nil => simpa [history, run] using start
  | cons e es ih =>
    have step := ih _ _ (next h s e start)
    simpa [history, run] using step

/-- It holds at the end of every run once it holds at the start. -/
theorem history_induction (s₀ : S) (P : List (Event S E O) → S → Prop) (start : P [] s₀)
    (next : ∀ h s e, P h s → P (h ++ [m.event s e]) (m.step s e).2) (es : List E) :
    P (m.history s₀ es) (m.run s₀ es) := by
  simpa using m.extend_induction P next es [] s₀ start

/-- As `extend_induction`, when every event of the run meets a condition. -/
theorem extend_induction_of (C : Event S E O → Prop) (P : List (Event S E O) → S → Prop)
    (next : ∀ h s e, P h s → C (m.event s e) → P (h ++ [m.event s e]) (m.step s e).2)
    (es : List E) (h : List (Event S E O)) (s : S) (start : P h s)
    (hc : ∀ ev ∈ m.history s es, C ev) : P (h ++ m.history s es) (m.run s es) := by
  induction es generalizing h s with
  | nil => simpa [history, run] using start
  | cons e es ih =>
    obtain ⟨first, rest⟩ := List.forall_mem_cons.1 hc
    have step := ih _ _ (next h s e start first) rest
    simpa [history, run] using step

theorem history_induction_of (s₀ : S) (C : Event S E O → Prop)
    (P : List (Event S E O) → S → Prop) (start : P [] s₀)
    (next : ∀ h s e, P h s → C (m.event s e) → P (h ++ [m.event s e]) (m.step s e).2)
    (es : List E) (hc : ∀ ev ∈ m.history s₀ es, C ev) :
    P (m.history s₀ es) (m.run s₀ es) := by
  simpa using m.extend_induction_of C P next es [] s₀ start hc

theorem history_input (s : S) (es : List E) : (m.history s es).map (·.input) = es := by
  induction es generalizing s with
  | nil => rfl
  | cons e es ih => simp only [history, List.map_cons, ih]; rfl

/-- A condition on the inputs is a condition on the events. -/
theorem forall_history_input {s : S} {es : List E} {C : E → Prop} (h : ∀ e ∈ es, C e) :
    ∀ ev ∈ m.history s es, C ev.input := by
  intro ev hev
  apply h
  rw [← m.history_input s es]
  exact List.mem_map_of_mem hev

/-- An invariant of states holds at the end of every run. -/
theorem run_induction {s₀ : S} (P : S → Prop) (start : P s₀)
    (next : ∀ s e, P s → P (m.step s e).2) (es : List E) : P (m.run s₀ es) :=
  m.history_induction s₀ (fun _ s => P s) start (fun _ s e hp => next s e hp) es

/-- An invariant of states holds on both sides of every event, when every event of the run
meets a condition. -/
theorem forall_history {s₀ : S} {C : S → E → Prop} (P : S → Prop) (start : P s₀)
    (next : ∀ s e, P s → C s e → P (m.step s e).2) (es : List E)
    (hc : ∀ ev ∈ m.history s₀ es, C ev.before ev.input) :
    ∀ ev ∈ m.history s₀ es, P ev.before ∧ P ev.after := by
  induction es generalizing s₀ with
  | nil =>
    intro ev hev
    cases hev
  | cons e es ih =>
    obtain ⟨first, rest⟩ := List.forall_mem_cons.1 hc
    have after : P (m.step s₀ e).2 := next s₀ e start first
    intro ev hev
    rcases List.mem_cons.1 hev with rfl | hev
    · exact ⟨start, after⟩
    · exact ih after rest ev hev

/-- Every event of a history is a step of the machine. -/
theorem history_event {s : S} {es : List E} {ev : Event S E O} (h : ev ∈ m.history s es) :
    ev = m.event ev.before ev.input := by
  induction es generalizing s with
  | nil => cases h
  | cons e es ih =>
    rcases List.mem_cons.1 h with rfl | h
    · rfl
    · exact ih h

/-- What follows an event of a history is the history of a run from where it led. -/
theorem history_split {s : S} {es : List E} {past later : List (Event S E O)}
    {ev : Event S E O} (h : m.history s es = past ++ ev :: later) :
    ∃ before after, past = m.history s before ∧ ev = m.event (m.run s before) ev.input ∧
      later = m.history ev.after after ∧ es = before ++ ev.input :: after := by
  induction es generalizing s past with
  | nil => cases past <;> cases h
  | cons e es ih =>
    cases past with
    | nil =>
      simp only [history, List.nil_append, List.cons.injEq] at h
      obtain ⟨rfl, rfl⟩ := h
      exact ⟨[], es, rfl, rfl, rfl, rfl⟩
    | cons first past =>
      simp only [history, List.cons_append, List.cons.injEq] at h
      obtain ⟨rfl, rest⟩ := h
      obtain ⟨before, after, rfl, here, next, same⟩ := ih rest
      exact ⟨e :: before, after, rfl, here, next, by rw [same, List.cons_append]⟩

end Machine

/-- The history has an event `b` that meets `start`, given what came before
it, and every event after `b` is `quiet`. -/
def Since (start : List (Event S E O) → Event S E O → Prop) (quiet : Event S E O → Prop)
    (h : List (Event S E O)) : Prop :=
  ∃ past b recent, h = past ++ b :: recent ∧ start past b ∧ ∀ ev ∈ recent, quiet ev

variable {start : List (Event S E O) → Event S E O → Prop} {quiet : Event S E O → Prop}
  {h : List (Event S E O)} {ev : Event S E O}

theorem Since.starts (hs : start h ev) : Since start quiet (h ++ [ev]) :=
  ⟨h, ev, [], rfl, hs, by simp⟩

theorem Since.lasts (hs : Since start quiet h) (hq : quiet ev) :
    Since start quiet (h ++ [ev]) := by
  obtain ⟨past, b, recent, rfl, hb, hr⟩ := hs
  refine ⟨past, b, recent ++ [ev], by simp, hb, ?_⟩
  intro x hx
  rcases List.mem_append.1 hx with hx | hx
  · exact hr x hx
  · rw [List.mem_singleton.1 hx]; exact hq

/-- The last event of the history is the starting one or a quiet one. -/
theorem Since.last (hs : Since start quiet (h ++ [ev])) : start h ev ∨ quiet ev := by
  obtain ⟨past, b, recent, he, hb, hr⟩ := hs
  rcases List.eq_nil_or_concat recent with rfl | ⟨init, last, rfl⟩
  · obtain ⟨rfl, tail⟩ := List.append_inj' he rfl
    obtain rfl : ev = b := by simpa using tail
    exact .inl hb
  · rw [List.concat_eq_append, ← List.cons_append, ← List.append_assoc] at he
    obtain ⟨-, tail⟩ := List.append_inj' he rfl
    obtain rfl : ev = last := by simpa using tail
    exact .inr (hr ev (by simp))

theorem Since.mono {start' : List (Event S E O) → Event S E O → Prop}
    {quiet' : Event S E O → Prop} (hs : Since start quiet h)
    (h₁ : ∀ past b, start past b → start' past b) (h₂ : ∀ ev, quiet ev → quiet' ev) :
    Since start' quiet' h := by
  obtain ⟨past, b, recent, he, hb, hr⟩ := hs
  exact ⟨past, b, recent, he, h₁ _ _ hb, fun ev hev => h₂ ev (hr ev hev)⟩

end

end BootUpgrade.Runs

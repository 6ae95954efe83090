/-!
# Procedures that change a state and may raise

What a procedure has done to the state stays when it raises.

* `Ends`: a postcondition of the result and the state, with a rule for each way
  to build a procedure;
* `Within`: whatever comes of a procedure, the states on both sides of it are
  related. For a preorder the parts of a procedure are enough.
-/

namespace BootUpgrade

/-- A value or an exception, and the state that is left. -/
def Procedure (S E α : Type) := S → Except E α × S

namespace Procedure

variable {S E α β : Type}

instance : Monad (Procedure S E) where
  pure value s := (.ok value, s)
  bind p f s :=
    match p s with
    | (.ok value, s') => f value s'
    | (.error error, s') => (.error error, s')

/-- A computation that reads the state. -/
def check (f : S → Except E α) : Procedure S E α := fun s => (f s, s)

def read (f : S → α) : Procedure S E α := check fun s => .ok (f s)

def raise (error : E) : Procedure S E α := check fun _ => .error error

def update (f : S → S) : Procedure S E Unit := fun s => (.ok (), f s)

/-- The procedure with its exception caught. -/
def attempt (p : Procedure S E α) : Procedure S E (Except E α) := fun s => (.ok (p s).1, (p s).2)

/-- Do `f` for each element in order. -/
def each (f : β → Procedure S E Unit) : List β → Procedure S E Unit
  | [] => pure ()
  | x :: xs => do
    f x
    each f xs

/-! ## Postconditions -/

/-- The procedure ends, with a value or an exception, as `post` says. -/
def Ends (p : Procedure S E α) (s : S) (post : Except E α → S → Prop) : Prop :=
  post (p s).1 (p s).2

section
variable {s : S} {p : Procedure S E α} {f : α → Procedure S E β}

theorem ends_pure {value : α} {post : Except E α → S → Prop} (h : post (.ok value) s) :
    Ends (pure value) s post := h

theorem ends_check {g : S → Except E α} {post : Except E α → S → Prop} (h : post (g s) s) :
    Ends (check g) s post := h

theorem ends_read {g : S → α} {post : Except E α → S → Prop} (h : post (.ok (g s)) s) :
    Ends (read g) s post := h

theorem ends_raise {error : E} {post : Except E α → S → Prop} (h : post (.error error) s) :
    Ends (raise error) s post := h

theorem ends_update {g : S → S} {post : Except E Unit → S → Prop} (h : post (.ok ()) (g s)) :
    Ends (update g) s post := h

theorem ends_attempt {post : Except E (Except E α) → S → Prop}
    (h : Ends p s fun caught s' => post (.ok caught) s') : Ends p.attempt s post := h

/-- The rest begins where the first part ends, with its value. -/
theorem ends_bind {mid : Except E α → S → Prop} {post : Except E β → S → Prop}
    (first : Ends p s mid) (raised : ∀ error s', mid (.error error) s' → post (.error error) s')
    (rest : ∀ value s', mid (.ok value) s' → Ends (f value) s' post) : Ends (p >>= f) s post := by
  unfold Ends at first
  show post (bind p f s).1 (bind p f s).2
  cases ran : p s with
  | mk result s' =>
    rw [ran] at first
    cases result with
    | ok value =>
      have is : bind p f s = f value s' := by
        show (match p s with | (.ok value, s') => f value s' | (.error error, s') => _) = _
        rw [ran]
      rw [is]
      exact rest value s' first
    | error error =>
      have is : bind p f s = (.error error, s') := by
        show (match p s with | (.ok value, s') => f value s' | (.error error, s') => _) = _
        rw [ran]
      rw [is]
      exact raised error s' first

theorem ends_update_bind {g : S → S} {f : Unit → Procedure S E β} {post : Except E β → S → Prop}
    (rest : Ends (f ()) (g s) post) : Ends (update g >>= f) s post := rest

theorem ends_read_bind {g : S → α} {post : Except E β → S → Prop}
    (rest : Ends (f (g s)) s post) : Ends (read g >>= f) s post := rest

theorem ends_check_bind {g : S → Except E α} {post : Except E β → S → Prop}
    (raised : ∀ error, g s = .error error → post (.error error) s)
    (rest : ∀ value, g s = .ok value → Ends (f value) s post) : Ends (check g >>= f) s post := by
  apply ends_bind ((@ends_check _ _ _ _ _ fun result s' => result = g s ∧ s' = s) ⟨rfl, rfl⟩)
  · rintro error _ ⟨is, rfl⟩
    exact raised error is.symm
  · rintro value _ ⟨is, rfl⟩
    exact rest value is.symm

/-- The first part ends with a value. -/
theorem ends_bind_ok {value : α} {mid : S → Prop} {post : Except E β → S → Prop}
    (first : Ends p s fun result s' => result = .ok value ∧ mid s')
    (rest : ∀ s', mid s' → Ends (f value) s' post) : Ends (p >>= f) s post := by
  apply ends_bind first
  · rintro error s' ⟨is, _⟩
    cases is
  · rintro other s' ⟨is, left⟩
    cases is
    exact rest s' left

/-- The rest goes on with the value or the exception that the first part has left. -/
theorem ends_attempt_bind {mid : Except E α → S → Prop} {f : Except E α → Procedure S E β}
    {post : Except E β → S → Prop} (first : Ends p s mid)
    (rest : ∀ caught s', mid caught s' → Ends (f caught) s' post) :
    Ends (p.attempt >>= f) s post := rest _ _ first

/-- A procedure whose result is replaced leaves the same state. -/
theorem ends_replace {left : S → Prop} {f : α → β} (h : Ends p s fun _ s' => left s') :
    Ends (do return f (← p)) s fun _ s' => left s' := by
  apply ends_bind h
  · exact fun _ _ is => is
  · exact fun _ _ is => ends_pure is

/-- The result of a procedure under a function. -/
theorem ends_return {f : α → β} {post : Except E α → S → Prop} (h : Ends p s post) :
    Ends (do return f (← p)) s fun answer s' => ∃ result, post result s' ∧ answer = result.map f := by
  apply ends_bind h
  · intro error s' left
    exact ⟨.error error, left, rfl⟩
  · intro value s' left
    exact ends_pure ⟨.ok value, left, rfl⟩

theorem Ends.mono {post post' : Except E α → S → Prop} (h : Ends p s post)
    (weaker : ∀ result s', post result s' → post' result s') : Ends p s post' :=
  weaker _ _ h

end

/-! ## Procedures within a relation -/

/-- The relation holds between the states before and after the procedure. -/
def Within (R : S → S → Prop) (p : Procedure S E α) : Prop := ∀ s, R s (p s).2

section
variable {R : S → S → Prop} {p : Procedure S E α} {f : α → Procedure S E β}

theorem Within.ends (h : Within R p) (s : S) : Ends p s fun _ s' => R s s' := h s

theorem Within.ends_mono (h : Within R p) {s : S} {post : Except E α → S → Prop}
    (weaker : ∀ result s', R s s' → post result s') : Ends p s post :=
  (h.ends s).mono weaker

theorem within_check (refl : ∀ s, R s s) (g : S → Except E α) : Within R (check g) := refl

theorem within_update {g : S → S} (h : ∀ s, R s (g s)) : Within R (update g : Procedure S E Unit) :=
  h

theorem Within.attempt (h : Within R p) : Within R p.attempt := h

theorem within_bind (trans : ∀ {a b c}, R a b → R b c → R a c) (first : Within R p)
    (rest : ∀ value, Within R (f value)) : Within R (p >>= f) := by
  intro s
  apply (@ends_bind _ _ _ _ _ _ _ _ fun _ s' => R s s') (first.ends s)
  · exact fun error s' h => h
  · exact fun value s' h => trans h (rest value s')

theorem within_each (refl : ∀ s, R s s) (trans : ∀ {a b c}, R a b → R b c → R a c)
    {f : β → Procedure S E Unit} (each' : ∀ x, Within R (f x)) (xs : List β) :
    Within R (each f xs) := by
  induction xs with
  | nil => exact refl
  | cons x xs ih => exact within_bind trans (each' x) fun _ => ih

end

end Procedure

end BootUpgrade

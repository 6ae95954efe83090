/-!
# The client's side of a protocol

A dialogue asks requests and goes on with the answers until it has a value or
fails. A server answers a request or refuses it; what a refusal leads to is up
to the dialogue, which may raise it as an exception or catch it.

* `run`: the result, the exchanges that led to it and the server's state;
* `Ends`: a postcondition of all three, with a rule for each way to build a
  dialogue;
* `Succeeds`: the dialogue ends with a value;
* `Always`: every request the dialogue may still ask is of one kind, whatever
  the answers are; servers that agree on that kind lead it to one result;
* `EndsWith`: as `Always`, but the last request is of another kind;
* `overLink`: the server behind a link that loses requests and answers.
-/

namespace BootUpgrade

inductive Dialogue (Q R E α : Type) where
  | done (value : α)
  | fail (error : E)
  | ask (request : Q) (next : Except E R → Dialogue Q R E α)

namespace Dialogue

variable {Q R E α β S : Type}

def bind : Dialogue Q R E α → (α → Dialogue Q R E β) → Dialogue Q R E β
  | done value, f => f value
  | fail error, _ => fail error
  | ask request next, f => ask request fun r => (next r).bind f

instance : Monad (Dialogue Q R E) where
  pure := done
  bind := bind

/-- Raise the error of a computation that needs no request. -/
def lift : Except E α → Dialogue Q R E α
  | .ok value => done value
  | .error error => fail error

/-- Ask one request; a refusal is raised. -/
def request (q : Q) : Dialogue Q R E R := ask q lift

/-- The dialogue with its exception caught. -/
def attempt : Dialogue Q R E α → Dialogue Q R E (Except E α)
  | done value => done (.ok value)
  | fail error => done (.error error)
  | ask request next => ask request fun r => (next r).attempt

/-- Do `f` for each element in order. -/
def each (f : β → Dialogue Q R E Unit) : List β → Dialogue Q R E Unit
  | [] => done ()
  | x :: xs => (f x).bind fun _ => each f xs

abbrev Server (Q R E S : Type) := S → Q → Except E R × S

/-- What a dialogue has led to. -/
structure Ran (Q R E S α : Type) where
  result : Except E α
  exchanges : List (Q × Except E R)
  state : S

def run (server : Server Q R E S) : Dialogue Q R E α → S → Ran Q R E S α
  | done value, s => ⟨.ok value, [], s⟩
  | fail error, s => ⟨.error error, [], s⟩
  | ask q next, s =>
    let answer := server s q
    let rest := (next answer.1).run server answer.2
    { rest with exchanges := (q, answer.1) :: rest.exchanges }

/-! ## Postconditions -/

/-- The dialogue ends, with a value or an exception, as `post` says. -/
def Ends (server : Server Q R E S) (d : Dialogue Q R E α) (s : S)
    (post : Except E α → List (Q × Except E R) → S → Prop) : Prop :=
  post (d.run server s).result (d.run server s).exchanges (d.run server s).state

section
variable {server : Server Q R E S} {s : S} {d : Dialogue Q R E α} {f : α → Dialogue Q R E β}

theorem ends_done {value : α} {post : Except E α → List (Q × Except E R) → S → Prop}
    (h : post (.ok value) [] s) : Ends server (done value) s post := h

theorem ends_lift {e : Except E α} {post : Except E α → List (Q × Except E R) → S → Prop}
    (h : post e [] s) : Ends server (lift e) s post := by
  cases e <;> exact h

theorem ends_request {q : Q} {post : Except E R → List (Q × Except E R) → S → Prop}
    (h : post (server s q).1 [(q, (server s q).1)] (server s q).2) :
    Ends server (request q) s post := by
  unfold Ends request
  simp only [run]
  cases answer : (server s q).1 <;> simpa only [lift, run, answer] using h

/-- The rest begins where the first part ends, with its value. -/
theorem ends_bind {mid : Except E α → List (Q × Except E R) → S → Prop}
    {post : Except E β → List (Q × Except E R) → S → Prop} (first : Ends server d s mid)
    (raised : ∀ error exchanges s', mid (.error error) exchanges s' →
      post (.error error) exchanges s')
    (rest : ∀ value exchanges s', mid (.ok value) exchanges s' →
      Ends server (f value) s' fun result more s'' => post result (exchanges ++ more) s'') :
    Ends server (d.bind f) s post := by
  induction d generalizing s mid post with
  | done value => exact rest value [] s first
  | fail error => exact raised error [] s first
  | ask q next ih =>
    apply @ih (server s q).1 (server s q).2
      (fun result exchanges => mid result ((q, (server s q).1) :: exchanges))
      (fun result exchanges => post result ((q, (server s q).1) :: exchanges)) first
    · exact fun error exchanges s' => raised error _ s'
    · exact fun value exchanges s' => rest value _ s'

theorem ends_attempt {post : Except E α → List (Q × Except E R) → S → Prop}
    (h : Ends server d s post) :
    Ends server d.attempt s fun result exchanges s' =>
      ∃ caught, result = .ok caught ∧ post caught exchanges s' := by
  induction d generalizing s post with
  | done value => exact ⟨.ok value, rfl, h⟩
  | fail error => exact ⟨.error error, rfl, h⟩
  | ask q next ih =>
    exact @ih (server s q).1 (server s q).2
      (fun result exchanges => post result ((q, (server s q).1) :: exchanges)) h

theorem Ends.mono {post post' : Except E α → List (Q × Except E R) → S → Prop}
    (h : Ends server d s post)
    (weaker : ∀ result exchanges s', post result exchanges s' → post' result exchanges s') :
    Ends server d s post' :=
  weaker _ _ _ h

end

/-! ## Success -/

/-- The dialogue ends with a value, which meets `post` with the server's state. -/
def Succeeds (server : Server Q R E S) (d : Dialogue Q R E α) (s : S) (post : α → S → Prop) : Prop :=
  ∃ value, (d.run server s).result = .ok value ∧ post value (d.run server s).state

section
variable {server : Server Q R E S} {s : S} {d : Dialogue Q R E α} {f : α → Dialogue Q R E β}

theorem succeeds_iff {post : α → S → Prop} : Succeeds server d s post ↔
    Ends server d s fun result _ s' => ∃ value, result = .ok value ∧ post value s' := Iff.rfl

theorem succeeds_done {value : α} {post : α → S → Prop} (h : post value s) :
    Succeeds server (done value) s post := ⟨value, rfl, h⟩

theorem succeeds_lift {e : Except E α} {value : α} {post : α → S → Prop} (he : e = .ok value)
    (h : post value s) : Succeeds server (lift e) s post := by
  rw [he]
  exact succeeds_done h

theorem succeeds_request {q : Q} {r : R} {post : R → S → Prop}
    (answer : (server s q).1 = .ok r) (h : post r (server s q).2) :
    Succeeds server (request q) s post := by
  rw [succeeds_iff]
  apply ends_request
  exact ⟨r, answer, h⟩

theorem Succeeds.mono {post post' : α → S → Prop} (h : Succeeds server d s post)
    (weaker : ∀ value s', post value s' → post' value s') : Succeeds server d s post' := by
  obtain ⟨value, result, h⟩ := h
  exact ⟨value, result, weaker value _ h⟩

@[simp] theorem succeeds_done_iff {value : α} {post : α → S → Prop} :
    Succeeds server (done value) s post ↔ post value s := by
  constructor
  · rintro ⟨_, same, h⟩
    cases same
    exact h
  · exact succeeds_done

@[simp] theorem not_succeeds_fail {error : E} {post : α → S → Prop} :
    ¬ Succeeds server (fail error) s post := by
  rintro ⟨_, raised, -⟩
  cases raised

/-- A sequence succeeds when its first part does, with a value and in a state
in which the rest succeeds. -/
theorem succeeds_bind_iff {post : β → S → Prop} : Succeeds server (d.bind f) s post ↔
    Succeeds server d s fun value s' => Succeeds server (f value) s' post := by
  induction d generalizing s with
  | done value =>
    rw [succeeds_done_iff]
    rfl
  | fail error => exact ⟨fun h => (not_succeeds_fail h).elim, fun h => (not_succeeds_fail h).elim⟩
  | ask q next ih => exact @ih (server s q).1 (server s q).2

theorem succeeds_bind {mid : α → S → Prop} {post : β → S → Prop} (first : Succeeds server d s mid)
    (rest : ∀ value s', mid value s' → Succeeds server (f value) s' post) :
    Succeeds server (d.bind f) s post :=
  succeeds_bind_iff.2 (first.mono rest)

theorem succeeds_lift_iff {e : Except E α} {post : α → S → Prop} :
    Succeeds server (lift e) s post ↔ ∃ value, e = .ok value ∧ post value s := by
  cases e with
  | ok value => simp [lift]
  | error error => simp [lift]

theorem succeeds_request_iff {q : Q} {post : R → S → Prop} : Succeeds server (request q) s post ↔
    ∃ r, (server s q).1 = .ok r ∧ post r (server s q).2 :=
  succeeds_lift_iff

/-- An exception that is caught is a value. -/
theorem succeeds_attempt_ok {post : Except E α → S → Prop}
    (h : Succeeds server d s fun value s' => post (.ok value) s') :
    Succeeds server d.attempt s post := by
  rw [succeeds_iff]
  apply (ends_attempt (succeeds_iff.1 h)).mono
  rintro result exchanges s' ⟨caught, rfl, value, rfl, h⟩
  exact ⟨_, rfl, h⟩

/-- A loop: what holds before the element `x` and after the elements before it
holds after `x` too. -/
theorem succeeds_each {f : β → Dialogue Q R E Unit} (inv : List β → S → Prop) {xs : List β}
    (step : ∀ before x after s, xs = before ++ x :: after → inv before s →
      Succeeds server (f x) s fun _ s' => inv (before ++ [x]) s')
    (start : inv [] s) : Succeeds server (each f xs) s fun _ s' => inv xs s' := by
  have loop : ∀ (rest before : List β) (s : S), xs = before ++ rest → inv before s →
      Succeeds server (each f rest) s fun _ s' => inv xs s' := by
    intro rest
    induction rest with
    | nil =>
      intro before s split h
      rw [List.append_nil] at split
      rw [split]
      exact succeeds_done h
    | cons x rest ih =>
      intro before s split h
      apply succeeds_bind (step before x rest s split h)
      intro _ s' h'
      apply ih (before ++ [x]) s' _ h'
      rw [split, List.append_assoc]
      rfl
  exact loop xs [] s rfl start

end

/-! ## What a dialogue may ask -/

/-- Every request the dialogue may ask meets `P`. -/
def Always (P : Q → Prop) : Dialogue Q R E α → Prop
  | done _ => True
  | fail _ => True
  | ask q next => P q ∧ ∀ r, (next r).Always P

/-- Every request meets `P`, or it meets `T` and is the last one. -/
def EndsWith (P T : Q → Prop) : Dialogue Q R E α → Prop
  | done _ => True
  | fail _ => True
  | ask q next => (P q ∧ ∀ r, (next r).EndsWith P T) ∨ (T q ∧ ∀ r, (next r).Always fun _ => False)

section
variable {P T : Q → Prop} {d : Dialogue Q R E α} {f : α → Dialogue Q R E β}

theorem always_lift (e : Except E α) : (lift e : Dialogue Q R E α).Always P := by
  cases e with
  | ok value => trivial
  | error error => trivial

theorem always_request {q : Q} (h : P q) : (request q : Dialogue Q R E R).Always P :=
  ⟨h, always_lift⟩

theorem Always.bind (hd : d.Always P) (hf : ∀ value, (f value).Always P) : (d.bind f).Always P := by
  induction d with
  | done value => exact hf value
  | fail error => trivial
  | ask q next ih => exact ⟨hd.1, fun r => ih r (hd.2 r)⟩

theorem Always.attempt (hd : d.Always P) : d.attempt.Always P := by
  induction d with
  | done value => trivial
  | fail error => trivial
  | ask q next ih => exact ⟨hd.1, fun r => ih r (hd.2 r)⟩

theorem Always.each {f : β → Dialogue Q R E Unit} {xs : List β} (hf : ∀ x ∈ xs, (f x).Always P) :
    (each f xs).Always P := by
  induction xs with
  | nil => trivial
  | cons x xs ih =>
    obtain ⟨first, rest⟩ := List.forall_mem_cons.1 hf
    exact first.bind fun _ => ih rest

/-- What asks nothing more may end in any way. -/
theorem endsWith_of_silent {d : Dialogue Q R E α} (h : d.Always fun _ => False) :
    d.EndsWith P T := by
  cases d with
  | done value => trivial
  | fail error => trivial
  | ask q next => exact h.1.elim

theorem endsWith_request {q : Q} (h : T q) : (request q : Dialogue Q R E R).EndsWith P T :=
  .inr ⟨h, always_lift⟩

theorem endsWith_bind (hd : d.Always P) (hf : ∀ value, (f value).EndsWith P T) :
    (d.bind f).EndsWith P T := by
  induction d with
  | done value => exact hf value
  | fail error => trivial
  | ask q next ih => exact .inl ⟨hd.1, fun r => ih r (hd.2 r)⟩

/-- Nothing is asked after the last request. -/
theorem EndsWith.bind (hd : d.EndsWith P T) (hf : ∀ value, (f value).Always fun _ => False) :
    (d.bind f).EndsWith P T := by
  induction d with
  | done value => exact endsWith_of_silent (hf value)
  | fail error => trivial
  | ask q next ih =>
    rcases hd with ⟨h, more⟩ | ⟨h, silent⟩
    · exact .inl ⟨h, fun r => ih r (more r)⟩
    · exact .inr ⟨h, fun r => (silent r).bind hf⟩

theorem EndsWith.attempt (hd : d.EndsWith P T) : d.attempt.EndsWith P T := by
  induction d with
  | done value => trivial
  | fail error => trivial
  | ask q next ih =>
    rcases hd with ⟨h, more⟩ | ⟨h, silent⟩
    · exact .inl ⟨h, fun r => ih r (more r)⟩
    · exact .inr ⟨h, fun r => (silent r).attempt⟩

theorem Always.mono {P' : Q → Prop} (weaker : ∀ q, P q → P' q) (hd : d.Always P) : d.Always P' := by
  induction d with
  | done value => trivial
  | fail error => trivial
  | ask q next ih => exact ⟨weaker q hd.1, fun r => ih r (hd.2 r)⟩

/-- What every request of a kind keeps, a dialogue of such requests keeps. -/
theorem Always.keeps {server : Server Q R E S} {inv : S → Prop}
    (step : ∀ s q, P q → inv s → inv (server s q).2) (hd : d.Always P) {s : S} (h : inv s) :
    inv (d.run server s).state := by
  induction d generalizing s with
  | done value => exact h
  | fail error => exact h
  | ask q next ih => exact ih _ (hd.2 _) (step s q hd.1 h)

/-- Two servers that agree on the requests of a kind lead a dialogue of such requests to one
result. -/
theorem Always.simulates {T : Type} {server : Server Q R E S} {server' : Server Q R E T}
    {rel : S → T → Prop} (step : ∀ s t q, P q → rel s t →
      (server s q).1 = (server' t q).1 ∧ rel (server s q).2 (server' t q).2)
    (hd : d.Always P) {s : S} {t : T} (h : rel s t) :
    (d.run server s).result = (d.run server' t).result ∧
      rel (d.run server s).state (d.run server' t).state := by
  induction d generalizing s t with
  | done value => exact ⟨rfl, h⟩
  | fail error => exact ⟨rfl, h⟩
  | ask q next ih =>
    obtain ⟨answer, after⟩ := step s t q hd.1 h
    have rest := ih (server' t q).1 (hd.2 _) after
    simp only [run, answer]
    exact rest

/-- A dialogue that asks nothing leaves the server as it is. -/
theorem run_silent (server : Server Q R E S) (s : S) {d : Dialogue Q R E α}
    (h : d.Always fun _ => False) : (d.run server s).exchanges = [] := by
  cases d with
  | done value => rfl
  | fail error => rfl
  | ask q next => exact h.1.elim

/-- At most one request of a run is of the last kind. -/
theorem EndsWith.run [DecidablePred T] {d : Dialogue Q R E α} (hd : d.EndsWith P T)
    (server : Server Q R E S) (s : S) (apart : ∀ q, P q → ¬ T q) :
    ((d.run server s).exchanges.filter fun x => T x.1).length ≤ 1 := by
  induction d generalizing s with
  | done value => exact Nat.zero_le 1
  | fail error => exact Nat.zero_le 1
  | ask q next ih =>
    rcases hd with ⟨h, more⟩ | ⟨h, silent⟩
    · have rest := ih (server s q).1 (more _) (server s q).2
      simpa [Dialogue.run, apart q h] using rest
    · have rest := run_silent server (server s q).2 (silent (server s q).1)
      simp [Dialogue.run, rest, h]

end

/-! ## A link that loses requests and answers -/

/-- What becomes of a request. -/
inductive Delivery (E : Type) where
  | answered
  | requestLost (error : E)
  | responseLost (error : E)

/-- The server behind a link. The list says what becomes of the next requests; those
behind its end are answered. -/
def overLink (server : Server Q R E S) : Server Q R E (S × List (Delivery E))
  | (s, []), q => ((server s q).1, (server s q).2, [])
  | (s, .answered :: rest), q => ((server s q).1, (server s q).2, rest)
  | (s, .requestLost error :: rest), _ => (.error error, s, rest)
  | (s, .responseLost error :: rest), q => (.error error, (server s q).2, rest)

section
variable {server : Server Q R E S} {s : S × List (Delivery E)} {q : Q}

/-- The server has handled the request or it has not. -/
theorem overLink_state : (overLink server s q).2.1 = s.1 ∨
    (overLink server s q).2.1 = (server s.1 q).2 := by
  obtain ⟨s, link⟩ := s
  cases link with
  | nil => exact .inr rfl
  | cons delivery rest =>
    cases delivery with
    | answered => exact .inr rfl
    | requestLost error => exact .inl rfl
    | responseLost error => exact .inr rfl

/-- An answer that arrives is the server's. -/
theorem overLink_answer {r : R} (answer : (overLink server s q).1 = .ok r) :
    (server s.1 q).1 = .ok r ∧ (overLink server s q).2.1 = (server s.1 q).2 := by
  obtain ⟨s, link⟩ := s
  cases link with
  | nil => exact ⟨answer, rfl⟩
  | cons delivery rest =>
    cases delivery with
    | answered => exact ⟨answer, rfl⟩
    | requestLost error => cases answer
    | responseLost error => cases answer

end

end Dialogue

end BootUpgrade

import RegionClient.Transport.Outcome

set_option autoImplicit false

/-! # Dialogues

A dialogue exchanges requests and outcomes, and ends with a value or an error. Either way its
traffic stays: which requests were begun, what was exchanged, and how long it waited, in the order
in which it happened.
-/

namespace RegionClient

/-! ## Traffic -/

/-- What happens in a dialogue. -/
inductive Event where
  /-- A request is begun and counted. -/
  | begun
  /-- A request is handed to the transport. -/
  | sent (x : Exchange)
  /-- A wait before another attempt. -/
  | waited (d : Duration)
  deriving DecidableEq

namespace Event

/-- Whether a request is begun. -/
def isBegun : Event → Bool
  | begun => true
  | _ => false

/-- The exchange, if there is one. -/
def exchange? : Event → Option Exchange
  | sent x => some x
  | _ => none

/-- The wait, if there is one. -/
def wait? : Event → Option Duration
  | waited d => some d
  | _ => none

end Event

/-- What happened so far, the earliest first. -/
abbrev Traffic : Type :=
  List Event

namespace Traffic

/-- Nothing happened yet. -/
def none : Traffic :=
  []

/-- How many requests were begun. -/
def count (t : Traffic) : Nat :=
  t.countP Event.isBegun

/-- The exchanges, the earliest first. -/
def exchanges (t : Traffic) : List Exchange :=
  t.filterMap Event.exchange?

/-- The waits before further attempts, the earliest first. -/
def waits (t : Traffic) : List Duration :=
  t.filterMap Event.wait?

variable (t u : Traffic)

@[simp] theorem count_append : count (t ++ u) = count t + count u :=
  List.countP_append

@[simp] theorem exchanges_append : exchanges (t ++ u) = exchanges t ++ exchanges u :=
  List.filterMap_append

@[simp] theorem waits_append : waits (t ++ u) = waits t ++ waits u :=
  List.filterMap_append

end Traffic

/-! ## Dialogues -/

/-- A computation that causes traffic. -/
def Dialogue (α : Type) : Type :=
  Traffic → Except Error α × Traffic

namespace Dialogue

variable {α β : Type}

/-- A value without traffic. -/
protected def pure (a : α) : Dialogue α :=
  fun t => (.ok a, t)

/-- One dialogue, and then another one, unless the first fails. -/
protected def bind (x : Dialogue α) (f : α → Dialogue β) : Dialogue β :=
  fun t =>
    match x t with
    | (.ok a, t) => f a t
    | (.error e, t) => (.error e, t)

instance : Monad Dialogue where
  pure := Dialogue.pure
  bind := Dialogue.bind

/-- An error without traffic. -/
def fail (e : Error) : Dialogue α :=
  fun t => (.error e, t)

/-- A result without traffic. -/
def ofExcept (r : Except Error α) : Dialogue α :=
  fun t => (r, t)

/-- A check of an argument, without traffic. -/
def check (r : Except Rejection α) : Dialogue α :=
  ofExcept (r.mapError Error.notValid)

/-- The same dialogue with another error. -/
def mapError (f : Error → Error) (x : Dialogue α) : Dialogue α :=
  fun t => ((x t).1.mapError f, (x t).2)

/-- The same dialogue without its value. -/
def void (x : Dialogue α) : Dialogue Unit :=
  fun t => ((x t).1.map fun _ => (), (x t).2)

/-- Notes a wait. -/
def wait (d : Duration) : Dialogue Unit :=
  fun t => (.ok (), t ++ [.waited d])

/-- Counts a request and gives its number, from 1 on. -/
def count : Dialogue Nat :=
  fun t => (.ok (Traffic.count t + 1), t ++ [.begun])

/-- Hands a request to a transport. -/
def exchange (transport : Transport) (request : Request) : Dialogue Exchange :=
  fun t =>
    let x : Exchange := ⟨request, transport (Traffic.exchanges t) request⟩
    (.ok x, t ++ [.sent x])

/-! ## What dialogues come to -/

@[simp] theorem pure_apply (a : α) (t : Traffic) : (pure a : Dialogue α) t = (.ok a, t) :=
  rfl

@[simp] theorem ofExcept_apply (r : Except Error α) (t : Traffic) : ofExcept r t = (r, t) :=
  rfl

@[simp] theorem fail_apply (e : Error) (t : Traffic) : (fail e : Dialogue α) t = (.error e, t) :=
  rfl

@[simp] theorem check_ok (a : α) (t : Traffic) : check (.ok a) t = (.ok a, t) :=
  rfl

@[simp] theorem check_error (r : Rejection) (t : Traffic) :
    (check (.error r) : Dialogue α) t = (.error (.notValid r), t) :=
  rfl

@[simp] theorem wait_apply (d : Duration) (t : Traffic) : wait d t = (.ok (), t ++ [.waited d]) :=
  rfl

@[simp] theorem count_apply (t : Traffic) :
    count t = (.ok (Traffic.count t + 1), t ++ [.begun]) :=
  rfl

theorem bind_ok {x : Dialogue α} {f : α → Dialogue β} {t u : Traffic} {a : α}
    (h : x t = (.ok a, u)) : (x >>= f) t = f a u := by
  change Dialogue.bind x f t = f a u
  simp [Dialogue.bind, h]

theorem bind_error {x : Dialogue α} {f : α → Dialogue β} {t u : Traffic} {e : Error}
    (h : x t = (.error e, u)) : (x >>= f) t = (.error e, u) := by
  change Dialogue.bind x f t = (.error e, u)
  simp [Dialogue.bind, h]

/-- What follows a check is not reached if it fails. -/
theorem rejected_bind {x : Except Rejection α} {r : Rejection} (h : x = .error r)
    (f : α → Dialogue β) (t : Traffic) : (check x >>= f) t = (.error (.notValid r), t) := by
  rw [h]
  exact bind_error (check_error r t)

theorem void_error {x : Dialogue α} {t u : Traffic} {e : Error} (h : x t = (.error e, u)) :
    x.void t = (.error e, u) := by
  rw [void, h]
  rfl

/-- The first of two dialogues gives a value to the second, or an error to both. -/
theorem bind_cases (x : Dialogue α) (f : α → Dialogue β) (t : Traffic) :
    (∃ a u, x t = (.ok a, u) ∧ (x >>= f) t = f a u) ∨
      ∃ e u, x t = (.error e, u) ∧ (x >>= f) t = (.error e, u) := by
  rcases h : x t with ⟨e | a, u⟩
  · exact .inr ⟨e, u, rfl, bind_error h⟩
  · exact .inl ⟨a, u, rfl, bind_ok h⟩

/-- A value that is computed from that of a dialogue comes with the traffic of the dialogue. -/
theorem of_bind_ofExcept {x : Dialogue α} {f : α → Except Error β} {t u : Traffic} {b : β}
    (h : (x >>= fun a => ofExcept (f a)) t = (.ok b, u)) : ∃ a, x t = (.ok a, u) ∧ f a = .ok b := by
  rcases bind_cases x (fun a => ofExcept (f a)) t with ⟨a, v, hx, hbind⟩ | ⟨e, v, -, hbind⟩
  · obtain ⟨hb, rfl⟩ := Prod.mk.inj (hbind.symm.trans h)
    exact ⟨a, hx, hb⟩
  · cases hbind.symm.trans h

/-- What follows without traffic of its own leaves the traffic as it is. -/
theorem bind_quiet {x : Dialogue α} {f : α → Dialogue β} (hf : ∀ a u, (f a u).2 = u) (t : Traffic) :
    ((x >>= f) t).2 = (x t).2 := by
  rcases bind_cases x f t with ⟨a, u, hx, h⟩ | ⟨e, u, hx, h⟩
  · rw [h, hx, hf]
  · rw [h, hx]

end Dialogue

end RegionClient

import RegionClient.Transport.Dialogue

set_option autoImplicit false

/-! # Dialogues about a value

Some dialogues keep a value up to date that their caller holds. They may change it at any time, and
if they fail later, the value stays as they left it.
-/

namespace RegionClient

/-- A dialogue that can change a value. It leaves the value behind whether it succeeds or fails. -/
def InPlace (σ α : Type) : Type :=
  σ → Traffic → Except Error α × σ × Traffic

namespace InPlace

variable {σ τ α β : Type}

/-- A result that leaves the value as it is. -/
protected def pure (a : α) : InPlace σ α :=
  fun s t => (.ok a, s, t)

/-- One dialogue, and then another one about the value that the first leaves, unless that fails. -/
protected def bind (x : InPlace σ α) (f : α → InPlace σ β) : InPlace σ β :=
  fun s t =>
    match x s t with
    | (.ok a, s, t) => f a s t
    | (.error e, s, t) => (.error e, s, t)

instance : Monad (InPlace σ) where
  pure := InPlace.pure
  bind := InPlace.bind

/-- A dialogue that has nothing to do with the value. -/
def lift (x : Dialogue α) : InPlace σ α :=
  fun s t => ((x t).1, s, (x t).2)

instance : MonadLift Dialogue (InPlace σ) :=
  ⟨lift⟩

/-- The value as it is. -/
def value : InPlace σ σ :=
  fun s t => (.ok s, s, t)

/-- Changes the value. -/
def change (f : σ → σ) : InPlace σ Unit :=
  fun s t => (.ok (), f s, t)

/-- Replaces the value, unless that fails. -/
def replace (f : σ → Except Error σ) : InPlace σ Unit :=
  fun s t =>
    match f s with
    | .ok s => (.ok (), s, t)
    | .error e => (.error e, s, t)

/-- A dialogue about a part of the value, which is put back as it is left. -/
def onPart (x : InPlace τ α) (part : τ) (put : τ → σ → σ) : InPlace σ α :=
  fun s t =>
    match x part t with
    | (r, part, t) => (r, put part s, t)

/-- A dialogue about a value, the later state of which does not matter. -/
def on (x : InPlace σ α) (s : σ) : Dialogue α :=
  fun t => ((x s t).1, (x s t).2.2)

/-- The value that a dialogue makes of another one. If it fails, there is one more dialogue about
what it left, the result of which does not count. -/
def onNew (x : InPlace σ α) (s : σ) (cleanup : σ → Dialogue β) : Dialogue σ :=
  fun t =>
    match x s t with
    | (.ok _, s, t) => (.ok s, t)
    | (.error e, s, t) => (.error e, (cleanup s t).2)

@[simp] theorem pure_apply (a : α) (s : σ) (t : Traffic) :
    (pure a : InPlace σ α) s t = (.ok a, s, t) :=
  rfl

@[simp] theorem value_apply (s : σ) (t : Traffic) : (value : InPlace σ σ) s t = (.ok s, s, t) :=
  rfl

@[simp] theorem change_apply (f : σ → σ) (s : σ) (t : Traffic) :
    change f s t = (.ok (), f s, t) :=
  rfl

theorem replace_traffic (f : σ → Except Error σ) (s : σ) (t : Traffic) :
    (replace f s t).2.2 = t := by
  unfold replace
  split <;> rfl

theorem onPart_apply {x : InPlace τ α} {part part' : τ} {put : τ → σ → σ} {s : σ} {t u : Traffic}
    {r : Except Error α} (h : x part t = (r, part', u)) :
    x.onPart part put s t = (r, put part' s, u) := by
  simp [onPart, h]

theorem onNew_ok {x : InPlace σ α} {s s' : σ} {cleanup : σ → Dialogue β} {t u : Traffic} {a : α}
    (h : x s t = (.ok a, s', u)) : x.onNew s cleanup t = (.ok s', u) := by
  simp [onNew, h]

theorem onNew_error {x : InPlace σ α} {s s' : σ} {cleanup : σ → Dialogue β} {t u : Traffic}
    {e : Error} (h : x s t = (.error e, s', u)) :
    x.onNew s cleanup t = (.error e, (cleanup s' u).2) := by
  simp [onNew, h]

theorem bind_ok {x : InPlace σ α} {f : α → InPlace σ β} {s s' : σ} {t u : Traffic} {a : α}
    (h : x s t = (.ok a, s', u)) : (x >>= f) s t = f a s' u := by
  change InPlace.bind x f s t = f a s' u
  simp [InPlace.bind, h]

theorem bind_error {x : InPlace σ α} {f : α → InPlace σ β} {s s' : σ} {t u : Traffic} {e : Error}
    (h : x s t = (.error e, s', u)) : (x >>= f) s t = (.error e, s', u) := by
  change InPlace.bind x f s t = (.error e, s', u)
  simp [InPlace.bind, h]

theorem lift_bind_ok {x : Dialogue α} {f : α → InPlace σ β} {s : σ} {t u : Traffic} {a : α}
    (h : x t = (.ok a, u)) : (liftM x >>= f) s t = f a s u :=
  bind_ok (show lift x s t = _ by rw [lift, h])

theorem lift_bind_error {x : Dialogue α} {f : α → InPlace σ β} {s : σ} {t u : Traffic} {e : Error}
    (h : x t = (.error e, u)) : (liftM x >>= f) s t = (.error e, s, u) :=
  bind_error (show lift x s t = _ by rw [lift, h])

/-- To take over a value changes no traffic. -/
theorem lift_replace_traffic (x : Dialogue α) (f : σ → α → Except Error σ) (s : σ) (t : Traffic) :
    ((liftM x >>= fun a => replace fun s => f s a) s t).2.2 = (x t).2 := by
  rcases h : x t with ⟨e | a, u⟩
  · rw [lift_bind_error h]
  · rw [lift_bind_ok h, replace_traffic]

theorem value_bind (f : σ → InPlace σ β) (s : σ) (t : Traffic) :
    (value >>= f) s t = f s s t :=
  bind_ok (value_apply s t)

end InPlace

end RegionClient

import RegionClient.Proofs.Sending

set_option autoImplicit false

/-! # The calls of a dialogue

Whatever a dialogue does, its traffic only grows, and every request that it hands over belongs to
one of the calls that it makes. `Controller.Extends` says so of the traffic before and after, for
calls of a given kind. A call that gives a value over the transport has the response that the value
was read from as its last event (`Controller.Answered`).

What holds of the traffic of a call is proved attempt by attempt (`sendFrom_induction`).
-/

namespace RegionClient

namespace Controller

variable {α β : Type} {c : Controller} {P Q : Call → Prop} {t u v : Traffic}

/-! ## Traffic that serves calls -/

/-- The request of the exchange is that of the call, at the address of its path. -/
def Serves (c : Controller) (call : Call) (x : Exchange) : Prop :=
  ∃ url header, c.endpoint call.path = .ok url ∧ c.request call url header = .ok x.request

/-- The later traffic begins with the earlier one, and the exchanges since then serve calls of a
kind. -/
def Extends (c : Controller) (P : Call → Prop) (t u : Traffic) : Prop :=
  ∃ new, u = t ++ new ∧ ∀ x ∈ Traffic.exchanges new, ∃ call, P call ∧ c.Serves call x

theorem Extends.refl (t : Traffic) : c.Extends P t t := by
  refine ⟨[], (List.append_nil t).symm, ?_⟩
  intro x hx
  cases hx

theorem Extends.trans (h : c.Extends P t u) (h' : c.Extends P u v) : c.Extends P t v := by
  obtain ⟨new, rfl, hnew⟩ := h
  obtain ⟨new', rfl, hnew'⟩ := h'
  refine ⟨new ++ new', List.append_assoc .., ?_⟩
  intro x hx
  rw [Traffic.exchanges_append] at hx
  rcases List.mem_append.mp hx with hx | hx
  · exact hnew x hx
  · exact hnew' x hx

theorem Extends.mono (hPQ : ∀ call, P call → Q call) (h : c.Extends P t u) : c.Extends Q t u := by
  obtain ⟨new, rfl, hnew⟩ := h
  refine ⟨new, rfl, ?_⟩
  intro x hx
  obtain ⟨call, hcall, hserves⟩ := hnew x hx
  exact ⟨call, hPQ call hcall, hserves⟩

theorem Extends.of_eq {call : Call} (hcall : P call) (h : c.Extends (· = call) t u) :
    c.Extends P t u := by
  refine h.mono ?_
  rintro _ rfl
  exact hcall

theorem Extends.bind {x : Dialogue α} {f : α → Dialogue β} (hx : c.Extends P t (x t).2)
    (hf : ∀ a u, x t = (.ok a, u) → c.Extends P u (f a u).2) : c.Extends P t ((x >>= f) t).2 := by
  rcases Dialogue.bind_cases x f t with ⟨a, u, h, hbind⟩ | ⟨e, u, h, hbind⟩
  · rw [h] at hx
    rw [hbind]
    exact hx.trans (hf a u h)
  · rw [h] at hx
    rw [hbind]
    exact hx

/-! ## The rounds of a call -/

/-- **The rounds of a call**: the traffic before, the result, and the traffic after. How many rounds
there are is left open here. -/
inductive Rounds (c : Controller) (call : Call) :
    Traffic → Except Error (List UInt8) → Traffic → Prop where
  /-- There is no address. -/
  | noAddress (t : Traffic) (e : Error) : Rounds c call t (.error e) t
  /-- The request is counted, and there are no credentials for it. -/
  | noCredentials (t : Traffic) (e : Error) : Rounds c call t (.error e) (t ++ [.begun])
  /-- A delivery is the last. -/
  | last (t : Traffic) (d : Delivery) (hd : ∀ x ∈ d.exchanges, c.Serves call x) :
      Rounds c call t d.result (t ++ d.events)
  /-- After a delivery and a wait there are more rounds. -/
  | more {t u : Traffic} {r : Except Error (List UInt8)} (d : Delivery) (wait : Duration)
      (hd : ∀ x ∈ d.exchanges, c.Serves call x)
      (h : Rounds c call (t ++ (d.events ++ [.waited wait])) r u) : Rounds c call t r u

/-- After some traffic a call has an address and credentials, and its request comes to
a delivery. -/
def Delivers (c : Controller) (call : Call) (t : Traffic) (d : Delivery) : Prop :=
  ∃ url header, c.endpoint call.path = .ok url ∧
    c.authorize (Traffic.count t + 1) call.method url = .ok header ∧
    d = c.transport.deliver (Traffic.exchanges t) (c.request call url header)

theorem Delivers.serves {call : Call} {d : Delivery} (h : c.Delivers call t d) :
    ∀ x ∈ d.exchanges, c.Serves call x := by
  obtain ⟨url, header, hurl, -, rfl⟩ := h
  intro x hx
  exact ⟨url, header, hurl, Transport.mem_exchanges_deliver hx⟩

/-- An attempt fails for lack of an address or of credentials, or comes to a delivery. -/
theorem attempt_cases (c : Controller) (call : Call) (t : Traffic) :
    (∃ e, c.endpoint call.path = .error e ∧ c.attempt call t = (.error e, t)) ∨
    (∃ url e, c.endpoint call.path = .ok url ∧
      c.authorize (Traffic.count t + 1) call.method url = .error e ∧
      c.attempt call t = (.error e, t ++ [.begun])) ∨
    ∃ d : Delivery, c.Delivers call t d ∧ c.attempt call t = (.ok d.attempt, t ++ d.events) := by
  cases hurl : c.endpoint call.path with
  | error e =>
      refine .inl ⟨e, rfl, ?_⟩
      rw [attempt, hurl]
      exact Dialogue.bind_error (Dialogue.ofExcept_apply _ t)
  | ok url =>
      cases hauth : c.authorize (Traffic.count t + 1) call.method url with
      | error e =>
          refine .inr (.inl ⟨url, e, rfl, hauth, ?_⟩)
          rw [attempt, hurl, Dialogue.bind_ok (Dialogue.ofExcept_apply _ t),
            Dialogue.bind_ok (Dialogue.count_apply t), hauth]
          exact Dialogue.bind_error (Dialogue.ofExcept_apply _ _)
      | ok header => exact .inr (.inr ⟨_, ⟨url, header, hurl, hauth, rfl⟩, attempt_eq hurl hauth⟩)

/-- **What holds of the retry loop**, with the number of attempts that may follow, the traffic
before, the result and the traffic after: it is enough that it holds of an attempt that ends the
loop, and before an attempt that is followed by another one. -/
theorem sendFrom_induction (c : Controller) (call : Call)
    {motive : Nat → Traffic → Except Error (List UInt8) → Traffic → Prop}
    (noAddress : ∀ n t e, c.endpoint call.path = .error e → motive n t (.error e) t)
    (noCredentials : ∀ n t url e, c.endpoint call.path = .ok url →
      c.authorize (Traffic.count t + 1) call.method url = .error e →
      motive n t (.error e) (t ++ [.begun]))
    (last : ∀ n t d, c.Delivers call t d → d.isFinal = true ∨ n = 0 →
      motive n t d.result (t ++ d.events))
    (more : ∀ n t d wait r u, c.Delivers call t d → d.isFinal = false →
      motive n (t ++ (d.events ++ [.waited wait])) r u → motive (n + 1) t r u)
    (retries : Nat) (number : UInt32) (t : Traffic) :
    motive retries t (c.sendFrom call retries number t).1 (c.sendFrom call retries number t).2 := by
  -- On the attempts that are left: each of them ends the loop, or is followed by the rest of it.
  induction retries generalizing number t with
  | zero =>
      rcases c.attempt_cases call t with ⟨e, hurl, h⟩ | ⟨url, e, hurl, hauth, h⟩ | ⟨d, hd, h⟩
      · rw [sendFrom, Dialogue.bind_error h]
        exact noAddress 0 t e hurl
      · rw [sendFrom, Dialogue.bind_error h]
        exact noCredentials 0 t url e hurl hauth
      · rw [sendFrom_stop h (.inr rfl)]
        exact last 0 t d hd (.inr rfl)
  | succ n ih =>
      rcases c.attempt_cases call t with ⟨e, hurl, h⟩ | ⟨url, e, hurl, hauth, h⟩ | ⟨d, hd, h⟩
      · rw [sendFrom, Dialogue.bind_error h]
        exact noAddress _ t e hurl
      · rw [sendFrom, Dialogue.bind_error h]
        exact noCredentials _ t url e hurl hauth
      · cases hf : d.isFinal with
        | true =>
            rw [sendFrom_stop h (.inl hf)]
            exact last _ t d hd (.inl hf)
        | false =>
            rw [sendFrom_go h hf, List.append_assoc]
            exact more n t d _ _ _ hd hf (ih _ _)

theorem sendFrom_rounds (c : Controller) (call : Call) (retries : Nat) (number : UInt32)
    (t : Traffic) : Rounds c call t (c.sendFrom call retries number t).1
      (c.sendFrom call retries number t).2 := by
  refine c.sendFrom_induction call (motive := fun _ t r u => Rounds c call t r u) ?_ ?_ ?_ ?_
    retries number t
  · intro _ t e _
    exact .noAddress t e
  · intro _ t _ e _ _
    exact .noCredentials t e
  · intro _ t d hd _
    exact .last t d hd.serves
  · intro _ t d wait r u hd _ h
    exact .more d wait hd.serves h

theorem send_rounds (c : Controller) (call : Call) (t : Traffic) :
    Rounds c call t (c.send call t).1 (c.send call t).2 :=
  c.sendFrom_rounds call _ _ t

theorem extends_events {call : Call} {d : Delivery} (hd : ∀ x ∈ d.exchanges, c.Serves call x)
    {more : Traffic} (hmore : Traffic.exchanges more = []) (t : Traffic) :
    c.Extends (· = call) t (t ++ (d.events ++ more)) := by
  refine ⟨_, rfl, ?_⟩
  intro x hx
  rw [Traffic.exchanges_append, Delivery.exchanges_events, hmore, List.append_nil] at hx
  exact ⟨call, rfl, hd x hx⟩

/-- The traffic of a call serves it. -/
theorem Rounds.extends {call : Call} {r : Except Error (List UInt8)} (h : Rounds c call t r u) :
    c.Extends (· = call) t u := by
  induction h with
  | noAddress t e => exact .refl t
  | noCredentials t e =>
      refine ⟨[.begun], rfl, ?_⟩
      intro x hx
      cases hx
  | last t d hd =>
      rw [← List.append_nil d.events]
      exact extends_events hd rfl t
  -- To wait sends nothing.
  | more d wait hd h ih => exact (extends_events hd rfl _).trans ih

/-- The first request of a call is handed over if there are an address and credentials for it, and
it can be made. -/
theorem send_begins {call : Call} {url : Url} {header : Option String} {request : Request}
    (hurl : c.endpoint call.path = .ok url)
    (hauth : c.authorize (Traffic.count t + 1) call.method url = .ok header)
    (hrequest : c.request call url header = .ok request) :
    ∃ outcome rest, (c.send call t).2 = t ++ (.begun :: .sent ⟨request, outcome⟩ :: rest) := by
  have hattempt := attempt_eq hurl hauth
  rw [hrequest] at hattempt
  refine ⟨c.transport (Traffic.exchanges t) request, ?_⟩
  cases hn : c.retry.maxRetries.toNat with
  | zero =>
      refine ⟨[], ?_⟩
      rw [send, hn, sendFrom_stop hattempt (.inr rfl)]
      rfl
  | succ n =>
      cases hf : (c.transport.deliver (Traffic.exchanges t) (.ok request)).isFinal with
      | true =>
          refine ⟨[], ?_⟩
          rw [send, hn, sendFrom_stop hattempt (.inl hf)]
          rfl
      | false =>
          rw [send, hn, sendFrom_go hattempt hf]
          obtain ⟨rest, hrest, -⟩ := (c.sendFrom_rounds call n _ _).extends
          rw [hrest]
          exact ⟨_, by simp only [List.append_assoc]; rfl⟩

theorem send_extends (c : Controller) (call : Call) (t : Traffic) :
    c.Extends (· = call) t (c.send call t).2 :=
  (c.send_rounds call t).extends

/-- To read a response adds nothing to the traffic. -/
theorem sendAndRead_traffic (c : Controller) (call : Call)
    (read : Version → Json → Except Error α) (t : Traffic) :
    (c.sendAndRead call read t).2 = (c.send call t).2 := by
  rw [sendAndRead, Dialogue.bind_quiet fun _ _ => rfl, sendForDocument,
    Dialogue.bind_quiet fun _ _ => rfl]

theorem sendAndRead_extends (c : Controller) (call : Call)
    (read : Version → Json → Except Error α) (t : Traffic) :
    c.Extends (· = call) t (c.sendAndRead call read t).2 := by
  rw [sendAndRead_traffic]
  exact c.send_extends call t

/-- A call without an address sends nothing. -/
theorem send_of_no_address {call : Call} {e : Error} (h : c.endpoint call.path = .error e)
    (t : Traffic) : c.send call t = (.error e, t) := by
  have hattempt : c.attempt call t = (.error e, t) := by
    rw [attempt, h]
    exact Dialogue.bind_error (Dialogue.ofExcept_apply _ t)
  rw [send, sendFrom.eq_def]
  exact Dialogue.bind_error hattempt

theorem sendAndRead_of_no_address {call : Call} {e : Error} (h : c.endpoint call.path = .error e)
    (read : Version → Json → Except Error α) (t : Traffic) :
    c.sendAndRead call read t = (.error e, t) :=
  Dialogue.bind_error (Dialogue.bind_error (send_of_no_address h t))

theorem delete_eq (c : Controller) (path : String) (t : Traffic) :
    (c.delete path t).2 = (c.send ⟨.delete, path, [], .empty⟩ t).2 := by
  rw [delete, Dialogue.bind_quiet fun _ _ => rfl]

/-! ## Answers -/

/-- The body that counts: there is none after success without content. -/
def content (r : Response) : List UInt8 :=
  if r.status = 204 then [] else r.body

/-- Between the two, all exchanges serve a call, and the last one has a response that reports
success and has a body. -/
def EndsWith (c : Controller) (call : Call) (t u : Traffic) (bytes : List UInt8) : Prop :=
  c.Extends (· = call) t u ∧ ∃ before request r,
    u = t ++ (before ++ [.sent ⟨request, .response r⟩]) ∧
    200 ≤ r.status ∧ r.status ≤ 299 ∧ bytes = content r

theorem result_eq_ok {d : Delivery} {bytes : List UInt8} (h : d.result = .ok bytes) :
    ∃ request r, d = .ok ⟨request, .response r⟩ ∧ 200 ≤ r.status ∧ r.status ≤ 299 ∧
      bytes = content r := by
  match d with
  | .error e => cases h
  | .ok ⟨request, .response r⟩ =>
      by_cases hr : 200 ≤ r.status ∧ r.status ≤ 299
      · simp only [Delivery.result, hr, and_self, if_true, Except.ok.injEq] at h
        exact ⟨request, r, rfl, hr.1, hr.2, h.symm⟩
      · simp only [Delivery.result, hr, if_false] at h
        cases h
  | .ok ⟨_, .truncated⟩ => cases h
  | .ok ⟨_, .refused⟩ => cases h
  | .ok ⟨_, .timedOut⟩ => cases h
  | .ok ⟨_, .dropped⟩ => cases h

/-- A call that gives a body ends with the response it is from. -/
theorem Rounds.endsWith {call : Call} {r : Except Error (List UInt8)} (h : Rounds c call t r u)
    {bytes : List UInt8} (hr : r = .ok bytes) : c.EndsWith call t u bytes := by
  refine ⟨h.extends, ?_⟩
  -- Only the last delivery can give a body, and its exchange is the last event.
  induction h with
  | noAddress t e => cases hr
  | noCredentials t e => cases hr
  | last t d hd =>
      obtain ⟨request, r, rfl, hlow, hhigh, hbytes⟩ := result_eq_ok hr
      exact ⟨[.begun], request, r, rfl, hlow, hhigh, hbytes⟩
  | more d wait hd h ih =>
      obtain ⟨before, request, r, hu, hrest⟩ := ih hr
      refine ⟨d.events ++ [.waited wait] ++ before, request, r, ?_, hrest⟩
      rw [hu]
      simp only [List.append_assoc]

/-- **A call gives a value** over the transport, after some traffic, and the value is read from the
document in the response that came last. -/
structure Answered (c : Controller) (call : Call) (read : Version → Json → Except Error α)
    (t u : Traffic) (a : α) : Prop where
  run : c.sendAndRead call read t = (.ok a, u)
  last : ∃ bytes value, c.EndsWith call t u bytes ∧ document call.path bytes = .ok value ∧
    read c.version value = .ok a

theorem Answered.extends {call : Call} {read : Version → Json → Except Error α} {a : α}
    (h : c.Answered call read t u a) : c.Extends (· = call) t u := by
  obtain ⟨_, _, hends, _⟩ := h.last
  exact hends.1

theorem sendForDocument_ok {call : Call} {value : Json}
    (h : c.sendForDocument call t = (.ok value, u)) :
    ∃ bytes, c.EndsWith call t u bytes ∧ document call.path bytes = .ok value := by
  obtain ⟨bytes, hsend, hvalue⟩ := Dialogue.of_bind_ofExcept h
  have hrounds := c.send_rounds call t
  rw [hsend] at hrounds
  exact ⟨bytes, hrounds.endsWith rfl, hvalue⟩

theorem sendAndRead_ok {call : Call} {read : Version → Json → Except Error α} {a : α}
    (h : c.sendAndRead call read t = (.ok a, u)) : c.Answered call read t u a := by
  obtain ⟨value, hsend, ha⟩ := Dialogue.of_bind_ofExcept h
  obtain ⟨bytes, hends, hvalue⟩ := sendForDocument_ok hsend
  exact ⟨h, bytes, value, hends, hvalue, ha⟩

end Controller

end RegionClient

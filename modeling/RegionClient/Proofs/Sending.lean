import Mathlib.Data.Nat.Find
import Mathlib.Order.Bounds.Basic
import RegionClient.Controller.Basic

set_option autoImplicit false

/-! # Runs of the retry loop

A call is sent in attempts, each of which hands one request to the transport. What the attempts
come to is a sequence of *deliveries*, one after the other: the transport decides on each of them
in view of the exchanges before. `Controller.send` follows that sequence up to the first delivery
after which no attempt follows.

Main statement: `send_run` gives the result and the whole traffic of a run.
-/

namespace RegionClient

/-! ## Deliveries -/

/-- What becomes of a request: an exchange, or the error of a request that cannot be made. -/
abbrev Delivery : Type :=
  Except Error Exchange

namespace Delivery

/-- What the sender gets if no attempt follows. The body of a response counts if the status is from
200 to 299, and is empty for 204; any other status has its own error, and so has each way in which
there is no complete response. -/
def result : Delivery → Except Error (List UInt8)
  | .error e => .error e
  | .ok ⟨_, .response r⟩ =>
      if 200 ≤ r.status ∧ r.status ≤ 299 then .ok (if r.status = 204 then [] else r.body)
      else .error (.ofStatus r.status (Utf8.decodeLossy r.body))
  | .ok ⟨_, .truncated⟩ =>
      .error (.http "Failed to read MAAS response body: error decoding response body")
  | .ok ⟨request, .refused⟩ => .error (.serviceUnavailable request.unanswered)
  | .ok ⟨request, .timedOut⟩ => .error (.timeout request.unanswered)
  | .ok ⟨request, .dropped⟩ => .error (.http request.unanswered)

/-- The wait that a response asks for. -/
def hint? : Delivery → Option Duration
  | .ok ⟨_, .response r⟩ => (r.retryAfter.bind RetryPolicy.hintedSeconds?).map Duration.ofSeconds
  | _ => none

/-- **No attempt follows, whatever the policy**: after a success, after an error of a kind that
another attempt does not mend, and after a body that breaks off. -/
def isFinal (d : Delivery) : Bool :=
  match d, d.result with
  | .ok ⟨_, .truncated⟩, _ => true
  | _, .ok _ => true
  | _, .error e => !e.isRetryable

/-- What the attempt comes to. -/
def attempt : Delivery → Attempt
  | .error e => .failed e none
  | .ok x => x.attempt

/-- The exchange, if the request could be made. -/
def exchanges : Delivery → List Exchange
  | .error _ => []
  | .ok x => [x]

/-- The traffic of the attempt. -/
def events (d : Delivery) : Traffic :=
  .begun :: d.exchanges.map .sent

@[simp] theorem count_events (d : Delivery) : Traffic.count d.events = 1 := by
  cases d <;> rfl

@[simp] theorem exchanges_events (d : Delivery) : Traffic.exchanges d.events = d.exchanges := by
  cases d <;> rfl

theorem isSuccess_iff (r : Response) : r.isSuccess = true ↔ 200 ≤ r.status ∧ r.status ≤ 299 := by
  simp only [Response.isSuccess, Bool.and_eq_true, decide_eq_true_eq]
  omega

/-- The attempt of a delivery is a body, a failure for good, or a failure whose kind decides. -/
theorem attempt_cases (d : Delivery) :
    (∃ bytes, d.attempt = .body bytes ∧ d.result = .ok bytes ∧ d.isFinal = true) ∨
    (∃ e, d.attempt = .broken e ∧ d.result = .error e ∧ d.isFinal = true) ∨
    (∃ e, d.attempt = .failed e d.hint? ∧ d.result = .error e ∧ d.isFinal = !e.isRetryable) := by
  match d with
  | .error e => exact .inr (.inr ⟨e, rfl, rfl, rfl⟩)
  -- The kind of its error does not matter, as the loop ends once a response begins to be read.
  | .ok ⟨request, .truncated⟩ => exact .inr (.inl ⟨_, rfl, rfl, rfl⟩)
  | .ok ⟨request, .refused⟩ => exact .inr (.inr ⟨_, rfl, rfl, rfl⟩)
  | .ok ⟨request, .timedOut⟩ => exact .inr (.inr ⟨_, rfl, rfl, rfl⟩)
  | .ok ⟨request, .dropped⟩ => exact .inr (.inr ⟨_, rfl, rfl, rfl⟩)
  | .ok ⟨request, .response r⟩ =>
      by_cases h : 200 ≤ r.status ∧ r.status ≤ 299
      · have hs := (isSuccess_iff r).mpr h
        refine .inl ⟨if r.status = 204 then [] else r.body, ?_, ?_, ?_⟩
        · simp [attempt, Exchange.attempt, Response.attempt, hs]
        · simp [result, h]
        · simp [isFinal, result, h]
      · have hs : r.isSuccess = false := by
          rw [← Bool.not_eq_true]
          exact fun hs => h ((isSuccess_iff r).mp hs)
        refine .inr (.inr ⟨.ofStatus r.status (Utf8.decodeLossy r.body), ?_, ?_, ?_⟩)
        · simp [attempt, Exchange.attempt, Response.attempt, hs, hint?, Response.hint?]
        · simp [result, h]
        · simp [isFinal, result, h]

end Delivery

/-! ## Sequences of deliveries -/

namespace Transport

/-- What becomes of one request after earlier exchanges. -/
def deliver (transport : Transport) (past : List Exchange) (request : Except Error Request) :
    Delivery :=
  request.map fun r => ⟨r, transport past r⟩

theorem mem_exchanges_deliver {transport : Transport} {past : List Exchange}
    {request : Except Error Request} {x : Exchange}
    (hx : x ∈ (transport.deliver past request).exchanges) : request = .ok x.request := by
  cases request with
  | error e => cases hx
  | ok r =>
      obtain rfl := List.mem_singleton.mp hx
      rfl

variable (transport : Transport) (past : List Exchange) (requests : Nat → Except Error Request)

/-- The exchanges of the first requests of a sequence, after earlier exchanges. -/
def history : Nat → List Exchange
  | 0 => []
  | i + 1 => history i ++ (transport.deliver (past ++ history i) (requests i)).exchanges

/-- What becomes of the requests of a sequence, each after those before it. -/
def delivery (i : Nat) : Delivery :=
  transport.deliver (past ++ transport.history past requests i) (requests i)

theorem history_succ (i : Nat) :
    transport.history past requests (i + 1) =
      transport.history past requests i ++ (transport.delivery past requests i).exchanges :=
  rfl

theorem history_eq_flatMap (k : Nat) :
    transport.history past requests k =
      (List.range k).flatMap fun i => (transport.delivery past requests i).exchanges := by
  induction k with
  | zero => rfl
  | succ k ih =>
      rw [history_succ, ih, List.range_succ, List.flatMap_append]
      simp only [List.flatMap_cons, List.flatMap_nil, List.append_nil]

end Transport

/-! ## Runs -/

namespace Controller

variable (c : Controller) (call : Call) (t : Traffic) (url : Url) (header : Nat → Option String)

/-- What the attempts at a call come to that begins after some traffic, if each were followed by
another one. The attempts have the numbers after those that were counted before. -/
def delivery (i : Nat) : Delivery :=
  c.transport.delivery (Traffic.exchanges t)
    (fun j => c.request call url (header (Traffic.count t + j + 1))) i

/-- The wait after the attempt at a place in the sequence. -/
def waitAfter (i : Nat) : Duration :=
  c.retry.delayWithHint (.ofNat (i + 1)) (c.delivery call t url header i).hint?

/-- The traffic of the first attempts, each with the wait after it. -/
def traceTo (k : Nat) : Traffic :=
  (List.range k).flatMap fun i =>
    (c.delivery call t url header i).events ++ [.waited (c.waitAfter call t url header i)]

theorem traceTo_succ (k : Nat) :
    c.traceTo call t url header (k + 1) = c.traceTo call t url header k ++
      ((c.delivery call t url header k).events ++ [.waited (c.waitAfter call t url header k)]) := by
  simp [traceTo, List.range_succ]

theorem count_traceTo (k : Nat) : Traffic.count (c.traceTo call t url header k) = k := by
  induction k with
  | zero => rfl
  | succ k ih =>
      rw [traceTo_succ, Traffic.count_append, ih, Traffic.count_append, Delivery.count_events]
      rfl

theorem exchanges_traceTo (k : Nat) :
    Traffic.exchanges (c.traceTo call t url header k) =
      c.transport.history (Traffic.exchanges t)
        (fun j => c.request call url (header (Traffic.count t + j + 1))) k := by
  induction k with
  | zero => rfl
  | succ k ih =>
      rw [traceTo_succ, Traffic.exchanges_append, ih, Traffic.exchanges_append,
        Delivery.exchanges_events, Transport.history_succ]
      exact congrArg _ (List.append_nil _)

theorem submit_eq (request : Except Error Request) (u : Traffic) :
    c.submit request u =
      (.ok (c.transport.deliver (Traffic.exchanges u) request).attempt,
        u ++ (c.transport.deliver (Traffic.exchanges u) request).exchanges.map .sent) := by
  cases request with
  | error e => exact congrArg (Prod.mk _) (List.append_nil u).symm
  | ok request => rfl

variable {c call url header}

/-- One attempt, where the address is found and there are credentials. -/
theorem attempt_eq {u : Traffic} {credentials : Option String}
    (hurl : c.endpoint call.path = .ok url)
    (hauth : c.authorize (Traffic.count u + 1) call.method url = .ok credentials) :
    c.attempt call u =
      (.ok (c.transport.deliver (Traffic.exchanges u) (c.request call url credentials)).attempt,
        u ++ (c.transport.deliver (Traffic.exchanges u)
          (c.request call url credentials)).events) := by
  have hbegun : Traffic.exchanges (u ++ [.begun]) = Traffic.exchanges u := by
    rw [Traffic.exchanges_append]
    exact List.append_nil _
  rw [attempt, hurl, Dialogue.bind_ok (Dialogue.ofExcept_apply _ u),
    Dialogue.bind_ok (Dialogue.count_apply u), hauth,
    Dialogue.bind_ok (Dialogue.ofExcept_apply _ _), submit_eq, hbegun, List.append_assoc]
  rfl

/-- The attempt that follows the first ones of a run. -/
theorem attempt_traceTo (hurl : c.endpoint call.path = .ok url)
    (hauth : ∀ n, c.authorize n call.method url = .ok (header n)) (i : Nat) :
    c.attempt call (t ++ c.traceTo call t url header i) =
      (.ok (c.delivery call t url header i).attempt,
        t ++ c.traceTo call t url header i ++ (c.delivery call t url header i).events) := by
  rw [attempt_eq hurl (hauth _), Traffic.exchanges_append, Traffic.count_append, count_traceTo,
    exchanges_traceTo]
  rfl

/-- The loop ends with a delivery that is final, or where no attempt is left. -/
theorem sendFrom_stop {d : Delivery} {retries : Nat} {number : UInt32} {u v : Traffic}
    (h : c.attempt call u = (.ok d.attempt, v)) (hstop : d.isFinal = true ∨ retries = 0) :
    c.sendFrom call retries number u = (d.result, v) := by
  rw [sendFrom, Dialogue.bind_ok h]
  rcases Delivery.attempt_cases d with ⟨bytes, ha, hr, -⟩ | ⟨e, ha, hr, -⟩ | ⟨e, ha, hr, hf⟩
  · rw [ha, hr]
    rfl
  · rw [ha, hr]
    rfl
  · rw [ha, hr]
    cases retries with
    | zero => rfl
    | succ n =>
        -- There are attempts left, so it is the kind of the error that ends the loop.
        have hfinal : d.isFinal = true := hstop.resolve_right (Nat.succ_ne_zero n)
        have hno : e.isRetryable = false := by simpa [hf] using hfinal
        simp only [hno]
        rfl

/-- The loop goes on after a delivery that is not final, while attempts are left. -/
theorem sendFrom_go {d : Delivery} {n : Nat} {number : UInt32} {u v : Traffic}
    (h : c.attempt call u = (.ok d.attempt, v)) (hgo : d.isFinal = false) :
    c.sendFrom call (n + 1) number u = c.sendFrom call n (number + 1)
      (v ++ [.waited (c.retry.delayWithHint (number + 1) d.hint?)]) := by
  rw [sendFrom, Dialogue.bind_ok h]
  rcases Delivery.attempt_cases d with ⟨bytes, ha, -, hf⟩ | ⟨e, ha, -, hf⟩ | ⟨e, ha, -, hf⟩
  · exact absurd (hf.symm.trans hgo) (by decide)
  · exact absurd (hf.symm.trans hgo) (by decide)
  · have hyes : e.isRetryable = true := by simpa [hf] using hgo
    rw [ha]
    simp only [hyes, if_true]
    exact Dialogue.bind_ok (Dialogue.wait_apply _ _)

/-- The loop from an attempt on, up to the first delivery after which none follows. -/
theorem sendFrom_traceTo (hurl : c.endpoint call.path = .ok url)
    (hauth : ∀ n, c.authorize n call.method url = .ok (header n)) {k : Nat}
    (hlast : (c.delivery call t url header k).isFinal = true ∨ k = c.retry.maxRetries.toNat)
    (hle : k ≤ c.retry.maxRetries.toNat)
    (hbefore : ∀ j < k, (c.delivery call t url header j).isFinal = false) :
    ∀ i ≤ k, c.sendFrom call (c.retry.maxRetries.toNat - i) (.ofNat i)
        (t ++ c.traceTo call t url header i) =
      ((c.delivery call t url header k).result,
        t ++ c.traceTo call t url header k ++ (c.delivery call t url header k).events) := by
  intro i hi
  -- The number of attempts before the last one decreases; the traffic so far is that of the
  -- first `i`.
  induction hd : k - i generalizing i with
  | zero =>
      obtain rfl : i = k := by omega
      refine sendFrom_stop (attempt_traceTo t hurl hauth i) ?_
      rcases hlast with hfinal | hmax
      · exact .inl hfinal
      · exact .inr (by omega)
  | succ d ih =>
      have hik : i < k := by omega
      have hleft : c.retry.maxRetries.toNat - i = c.retry.maxRetries.toNat - (i + 1) + 1 := by
        omega
      have hnumber : UInt32.ofNat i + 1 = UInt32.ofNat (i + 1) := (UInt32.ofNat_add i 1).symm
      rw [hleft, sendFrom_go (attempt_traceTo t hurl hauth i) (hbefore i hik), hnumber,
        ← ih (i + 1) hik (by omega), traceTo_succ]
      simp only [List.append_assoc]
      rfl

/-- The requests of a run differ in their credentials only. -/
theorem mem_exchanges_delivery {i : Nat} {x : Exchange}
    (hx : x ∈ (c.delivery call t url header i).exchanges) :
    x.request.method = call.method ∧ x.request.url = Request.target url call.query ∧
      x.request.payload = call.payload := by
  have hr : c.request call url _ = .ok x.request := Transport.mem_exchanges_deliver hx
  obtain ⟨-, -, h⟩ := Request.make_eq_ok hr
  rw [h]
  exact ⟨rfl, rfl, rfl⟩

variable (c call url header)

/-- **The run of a call** that begins after some traffic and ends with the attempt at the place `k`
of the sequence. -/
structure IsRun (k : Nat) : Prop where
  /-- It ends with the first delivery that is final, or the last that the policy allows. -/
  isLeast : IsLeast {i | (c.delivery call t url header i).isFinal = true ∨
    i = c.retry.maxRetries.toNat} k
  /-- The result is that of the last delivery. The traffic is that of all attempts, in order, and
  between two of them there is the wait for which the policy and the earlier one ask. -/
  send_eq : c.send call t = ((c.delivery call t url header k).result,
    t ++ c.traceTo call t url header k ++ (c.delivery call t url header k).events)
  /-- One request is counted for each attempt. -/
  count_eq : Traffic.count (c.send call t).2 = Traffic.count t + (k + 1)
  /-- Each attempt whose request can be made hands it over. -/
  exchanges_eq : Traffic.exchanges (c.send call t).2 = Traffic.exchanges t ++
    (List.range (k + 1)).flatMap (fun i => (c.delivery call t url header i).exchanges)
  /-- All requests have the method, the address, the query and the payload of the call. -/
  request_eq : ∀ i, ∀ x ∈ (c.delivery call t url header i).exchanges,
    x.request.method = call.method ∧ x.request.url = Request.target url call.query ∧
      x.request.payload = call.payload
  /-- No wait is longer than the longest of the policy. -/
  wait_le : ∀ i, c.waitAfter call t url header i ≤ c.retry.maxDelay

/-- There is a delivery after which no attempt follows, and so a first one. -/
theorem exists_isLeast : ∃ k, IsLeast {i | (c.delivery call t url header i).isFinal = true ∨
    i = c.retry.maxRetries.toNat} k := by
  have hsome : ∃ i, (c.delivery call t url header i).isFinal = true ∨
      i = c.retry.maxRetries.toNat := ⟨_, .inr rfl⟩
  exact ⟨Nat.find hsome, Nat.find_spec hsome, fun j hj => Nat.find_min' hsome hj⟩

variable {c call url header}

/-- The result and the traffic of a call, by the first delivery after which no attempt follows. -/
theorem send_eq_of_isLeast (hurl : c.endpoint call.path = .ok url)
    (hauth : ∀ n, c.authorize n call.method url = .ok (header n)) {k : Nat}
    (hk : IsLeast {i | (c.delivery call t url header i).isFinal = true ∨
      i = c.retry.maxRetries.toNat} k) :
    c.send call t = ((c.delivery call t url header k).result,
      t ++ c.traceTo call t url header k ++ (c.delivery call t url header k).events) := by
  have hle : k ≤ c.retry.maxRetries.toNat := hk.2 (.inr rfl)
  -- A final delivery before `k` would be an earlier place to stop.
  have hbefore : ∀ j < k, (c.delivery call t url header j).isFinal = false :=
    fun j hj => Bool.eq_false_iff.mpr fun hf => Nat.not_le.mpr hj (hk.2 (.inl hf))
  have hrun := sendFrom_traceTo t hurl hauth hk.1 hle hbefore 0 (Nat.zero_le _)
  rw [show c.traceTo call t url header 0 = [] from rfl, List.append_nil] at hrun
  exact hrun

/-- **Every call runs so** for which the address is found and there are credentials. -/
theorem send_run (hurl : c.endpoint call.path = .ok url)
    (hauth : ∀ n, c.authorize n call.method url = .ok (header n)) :
    ∃ k, c.IsRun call t url header k := by
  obtain ⟨k, hk⟩ := exists_isLeast c call t url header
  have hsend := send_eq_of_isLeast t hurl hauth hk
  refine ⟨k, hk, hsend, ?_, ?_, ?_, ?_⟩
  · rw [hsend, Traffic.count_append, Traffic.count_append, count_traceTo, Delivery.count_events,
      Nat.add_assoc]
  · rw [hsend, Traffic.exchanges_append, Traffic.exchanges_append, Delivery.exchanges_events,
      List.append_assoc, exchanges_traceTo]
    exact congrArg _ (Transport.history_eq_flatMap c.transport _ _ (k + 1))
  · intro i x hx
    exact mem_exchanges_delivery t hx
  · intro i
    exact c.retry.delayWithHint_le _ _

end Controller

/-! ## A region that is busy at first -/

/-- A region that at first asks for two seconds, then keeps silent, and then answers. -/
def Transport.busyAtFirst : Transport := fun past _ =>
  match past.length with
  | 0 => .response ⟨503, some "2", []⟩
  | 1 => .timedOut
  | _ => .response ⟨200, none, Utf8.encode "[]"⟩

/-- A controller for `http://maas.test/MAAS/` with the standard retry policy, and with credentials
that are new for every request. -/
def Controller.plain (transport : Transport) : Controller :=
  ⟨⟨"http", some ⟨"", "", .name "maas.test", none⟩, .segments ["MAAS", ""], none, none⟩, .v2_0,
    .standard, false, some fun number _ _ => .ok (Numeral.ofNat number), .plain, transport⟩

theorem Controller.authorize_plain (transport : Transport) (number : Nat) (method : Method)
    (url : Url) :
    (plain transport).authorize number method url = .ok (some (Numeral.ofNat number)) :=
  rfl

/-- Where that controller finds the zones. -/
def Url.plainZones : Url :=
  ⟨"http", some ⟨"", "", .name "maas.test", none⟩,
    .segments ["MAAS", "api", "2.0", "zones", ""], none, none⟩

theorem Controller.send_run_busyAtFirst :
    let c := plain .busyAtFirst
    let call := Call.get "api/2.0/zones/" []
    let header (n : Nat) := some (Numeral.ofNat n)
    c.endpoint call.path = .ok .plainZones ∧
      (∀ n, c.authorize n call.method .plainZones = .ok (header n)) ∧
      ∃ k, c.IsRun call [] .plainZones header k :=
  have hurl : (plain .busyAtFirst).endpoint "api/2.0/zones/" = .ok .plainZones := rfl
  ⟨hurl, fun _ => rfl, send_run [] hurl fun _ => rfl⟩

-- The first wait is the one asked for, and the second that of the policy.
example :
    let t := ((Controller.plain .busyAtFirst).send (.get "api/2.0/zones/" []) []).2
    Traffic.waits t = [.ofSeconds 2, .ofSeconds 1] ∧ Traffic.count t = 3 := by
  decide +kernel

end RegionClient

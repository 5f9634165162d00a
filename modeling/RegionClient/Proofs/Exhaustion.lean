import RegionClient.Proofs.Operations

set_option autoImplicit false

/-! # Which failures use up the attempts

A failure that the taxonomy calls retryable is followed by another attempt, as long as one is left,
with one exception: the body of a response that breaks off ends the call at once, though its error
is of a retryable kind. So a call whose attempts all fail retryably ends with the first body that
breaks off, and uses up its attempts only if there is none before the last.

Main statement: `exhausts_attempts`.
-/

namespace RegionClient

namespace Delivery

/-- Whether the taxonomy calls the failure of a delivery retryable. -/
def isRetryable (d : Delivery) : Bool :=
  match d.result with
  | .ok _ => false
  | .error e => e.isRetryable

/-- Whether the body of the response breaks off. -/
def isBroken : Delivery → Bool
  | .ok ⟨_, .truncated⟩ => true
  | _ => false

theorem of_isBroken {d : Delivery} (h : d.isBroken = true) :
    ∃ request, d = .ok ⟨request, .truncated⟩ := by
  match d with
  | .ok ⟨request, .truncated⟩ => exact ⟨request, rfl⟩

theorem isFinal_of_isBroken {d : Delivery} (h : d.isBroken = true) : d.isFinal = true := by
  obtain ⟨request, rfl⟩ := of_isBroken h
  rfl

/-- A failure that is retryable and yet final is that of a body that breaks off. -/
theorem isBroken_of_isFinal {d : Delivery} (h : d.isRetryable = true) (hf : d.isFinal = true) :
    d.isBroken = true := by
  match d with
  | .ok ⟨_, .truncated⟩ => rfl
  | .error e =>
      have hretryable : e.isRetryable = true := h
      have hfinal : (!e.isRetryable) = true := hf
      simp [hretryable] at hfinal
  | .ok ⟨request, .refused⟩ => cases hf
  | .ok ⟨request, .timedOut⟩ => cases hf
  | .ok ⟨request, .dropped⟩ => cases hf
  | .ok ⟨request, .response r⟩ =>
      by_cases hr : 200 ≤ r.status ∧ r.status ≤ 299
      · simp [isRetryable, result, hr] at h
      · have hresult : result (.ok ⟨request, .response r⟩) =
            .error (.ofStatus r.status (Utf8.decodeLossy r.body)) := if_neg hr
        rw [isRetryable, hresult] at h
        simp [isFinal, hresult, h] at hf

end Delivery

namespace Transport

/-- A request that can be made is an exchange. -/
theorem length_exchanges_deliver (transport : Transport) (past : List Exchange) (r : Request) :
    (transport.deliver past (.ok r)).exchanges.length = 1 :=
  rfl

theorem length_history (transport : Transport) (past : List Exchange)
    {requests : Nat → Except Error Request} (h : ∀ i, ∃ r, requests i = .ok r) (k : Nat) :
    (transport.history past requests k).length = k := by
  induction k with
  | zero => rfl
  | succ k ih =>
      obtain ⟨r, hr⟩ := h k
      rw [history_succ, List.length_append, ih, delivery, hr, length_exchanges_deliver]

end Transport

namespace Controller

variable {c : Controller} {call : Call} {t u : Traffic} {url : Url} {header : Nat → Option String}

/-! ## Calls -/

/-- **Every attempt fails retryably**: each has credentials and a request, and comes to a failure of
a retryable kind. -/
structure AlwaysRetryable (c : Controller) (call : Call) (t : Traffic) (url : Url)
    (header : Nat → Option String) : Prop where
  endpoint_eq : c.endpoint call.path = .ok url
  authorize_eq : ∀ n, c.authorize n call.method url = .ok (header n)
  request_eq : ∀ n, ∃ r, c.request call url (header n) = .ok r
  isRetryable : ∀ i ≤ c.retry.maxRetries.toNat,
    (c.delivery call t url header i).isRetryable = true

/-- Where each delivery fails retryably, the first that is final is the first that is broken. -/
theorem AlwaysRetryable.isLeast (h : c.AlwaysRetryable call t url header) {k : Nat}
    (hk : IsLeast {i | (c.delivery call t url header i).isFinal = true ∨
      i = c.retry.maxRetries.toNat} k) :
    IsLeast {i | (c.delivery call t url header i).isBroken = true ∨
      i = c.retry.maxRetries.toNat} k := by
  have hle : k ≤ c.retry.maxRetries.toNat := hk.2 (.inr rfl)
  constructor
  · rcases hk.1 with hfinal | hmax
    · exact .inl (Delivery.isBroken_of_isFinal (h.isRetryable k hle) hfinal)
    · exact .inr hmax
  · intro j hj
    exact hk.2 (hj.imp_left Delivery.isFinal_of_isBroken)

/-- **A call ends with the attempt at a place** in the sequence: its result is that of the attempt,
and for each attempt up to it one request is counted and handed over. -/
structure EndsAt (c : Controller) (call : Call) (t : Traffic) (url : Url)
    (header : Nat → Option String) (k : Nat) : Prop where
  result_eq : (c.send call t).1 = (c.delivery call t url header k).result
  count_eq : Traffic.count (c.send call t).2 = Traffic.count t + (k + 1)
  length_exchanges : (Traffic.exchanges (c.send call t).2).length =
    (Traffic.exchanges t).length + (k + 1)

/-- Such a call ends with the first body that breaks off, or else with its last attempt. -/
theorem AlwaysRetryable.endsAt (h : c.AlwaysRetryable call t url header) :
    ∃ k, IsLeast {i | (c.delivery call t url header i).isBroken = true ∨
        i = c.retry.maxRetries.toNat} k ∧ c.EndsAt call t url header k := by
  obtain ⟨k, hk⟩ := exists_isLeast c call t url header
  have hsend := send_eq_of_isLeast t h.endpoint_eq h.authorize_eq hk
  refine ⟨k, h.isLeast hk, ?_, ?_, ?_⟩
  · rw [hsend]
  · rw [hsend, Traffic.count_append, Traffic.count_append, count_traceTo, Delivery.count_events,
      Nat.add_assoc]
  · have hlength := Transport.length_history c.transport (Traffic.exchanges t)
      (fun j => h.request_eq (Traffic.count t + j + 1)) (k + 1)
    rw [Transport.history_succ, List.length_append] at hlength
    rw [hsend, Traffic.exchanges_append, Traffic.exchanges_append, Delivery.exchanges_events,
      exchanges_traceTo, List.length_append, List.length_append, Nat.add_assoc]
    exact congrArg _ hlength

/-- It ends with its last attempt if and only if no body breaks off before. -/
theorem AlwaysRetryable.endsAt_last_iff (h : c.AlwaysRetryable call t url header) :
    c.EndsAt call t url header c.retry.maxRetries.toNat ↔
      ∀ i < c.retry.maxRetries.toNat, (c.delivery call t url header i).isBroken = false := by
  obtain ⟨k, hk, hends⟩ := h.endsAt
  constructor
  · intro hlast i hi
    refine Bool.eq_false_iff.mpr fun hbroken => ?_
    have hle : k ≤ i := hk.2 (.inl hbroken)
    have hcount := hends.count_eq.symm.trans hlast.count_eq
    omega
  · intro hwhole
    rcases hk.1 with hbroken | rfl
    · have hle : k ≤ c.retry.maxRetries.toNat := hk.2 (.inr rfl)
      have hlast : ¬ k < c.retry.maxRetries.toNat := fun hlt =>
        Bool.eq_false_iff.mp (hwhole k hlt) hbroken
      -- A body that breaks off can only be that of the last attempt.
      obtain rfl : k = c.retry.maxRetries.toNat := by omega
      exact hends
    · exact hends

/-! ## Operations -/

/-- **How a call ends with a retryable error**: with its attempts used up, with a body that breaks
off, or for lack of credentials. -/
inductive Ends (c : Controller) (call : Call) (t : Traffic) (e : Error) : Traffic → Prop where
  | exhausted {u : Traffic}
      (h : Traffic.count u = Traffic.count t + (c.retry.maxRetries.toNat + 1)) : Ends c call t e u
  | broken {u : Traffic} {request : Request} (hu : t <+: u)
      (h : c.Serves call ⟨request, .truncated⟩) :
      Ends c call t e (u ++ [.begun, .sent ⟨request, .truncated⟩])
  | noCredentials {u : Traffic} {url : Url} (hu : t <+: u) (hurl : c.endpoint call.path = .ok url)
      (h : c.authorize (Traffic.count u + 1) call.method url = .error e) :
      Ends c call t e (u ++ [.begun])

theorem Fails.ends {e : Error} (h : c.Fails call c.retry.maxRetries.toNat t e u)
    (he : e.isRetryable = true) : c.Ends call t e u := by
  cases h with
  | noAddress hv h =>
      have hno := Error.isRetryable_eq_false (c.endpoint_conclusive call.path e h)
      cases hno.symm.trans he
  | noCredentials hv hurl h => exact .noCredentials hv hurl h
  | @last v d hv hd hresult hlast =>
      rcases hlast with hfinal | hcount
      · have hretryable : d.isRetryable = true := by
          rw [Delivery.isRetryable, hresult]
          exact he
        have hbroken := Delivery.isBroken_of_isFinal hretryable hfinal
        obtain ⟨request, rfl⟩ := Delivery.of_isBroken hbroken
        exact .broken hv (hd.serves _ List.mem_cons_self)
      · refine .exhausted ?_
        rw [Traffic.count_append, hcount, Delivery.count_events, Nat.add_assoc]

/-- **Which failures use up the attempts.** -/
structure ExhaustsAttempts (c : Controller) : Prop where
  /-- A call whose attempts all fail retryably ends with the first body that breaks off, and with
  its last attempt if there is none before. -/
  endsAt : ∀ call t url header, c.AlwaysRetryable call t url header →
    ∃ k, IsLeast {i | (c.delivery call t url header i).isBroken = true ∨
        i = c.retry.maxRetries.toNat} k ∧ c.EndsAt call t url header k
  /-- So it makes all its attempts, one more than there are retries, if and only if no body breaks
  off before the last. -/
  endsAt_last_iff : ∀ call t url header, c.AlwaysRetryable call t url header →
    (c.EndsAt call t url header c.retry.maxRetries.toNat ↔
      ∀ i < c.retry.maxRetries.toNat, (c.delivery call t url header i).isBroken = false)
  /-- An operation fails with a retryable error only if one of its calls does, and then that call
  has used up its attempts, or it ended with a body that breaks off, or for lack of credentials. -/
  perform_ends : ∀ (op : Operation) (t : Traffic) (e : Error) (u : Traffic),
    op.perform c t = (.error e, u) → e.isRetryable = true →
    ∃ call v w, op.Makes c t call ∧ t <+: v ∧ w <+: u ∧ c.send call v = (.error e, w) ∧
      c.Ends call v e w

theorem perform_ends {op : Operation} {e : Error} (h : op.perform c t = (.error e, u))
    (he : e.isRetryable = true) :
    ∃ call v w, op.Makes c t call ∧ t <+: v ∧ w <+: u ∧ c.send call v = (.error e, w) ∧
      c.Ends call v e w := by
  cases hadmission : op.admission with
  | error r =>
      rw [c.perform_rejected hadmission] at h
      cases h
      cases he
  | ok _ =>
      cases (c.perform_traces hadmission t).blames e u h with
      | conclusive hconclusive =>
          cases (Error.isRetryable_eq_false hconclusive).symm.trans he
      | call hcall hv hw hsend =>
          exact ⟨_, _, _, hcall, hv, hw, hsend, (send_fails hsend).ends he⟩

/-- **A retryable failure uses up the attempts, unless a body breaks off.** -/
theorem exhausts_attempts (c : Controller) : c.ExhaustsAttempts :=
  ⟨fun _ _ _ _ h => h.endsAt, fun _ _ _ _ h => h.endsAt_last_iff,
    fun _ _ _ _ h he => perform_ends h he⟩

end Controller

/-! ## A region whose responses break off -/

/-- A region whose responses all break off. -/
def Transport.cutShort : Transport :=
  fun _ _ => .truncated

/-- All attempts would fail retryably, three may follow the first, and none does. -/
theorem Controller.exhausts_attempts_cutShort :
    let c := Controller.plain .cutShort
    let call := Call.get "api/2.0/zones/" []
    c.retry.maxRetries = 3 ∧
      (∀ i ≤ 3, (c.delivery call [] .plainZones (fun n => some (Numeral.ofNat n)) i).isRetryable) ∧
      (Traffic.exchanges (c.send call []).2).length = 1 ∧
      (c.send call []).1 =
        .error (.http "Failed to read MAAS response body: error decoding response body") := by
  decide +kernel

-- Where nobody answers, the attempts are used up.
example :
    let t := ((Controller.plain fun _ _ => .refused).send (.get "api/2.0/zones/" []) []).2
    (Traffic.exchanges t).length = 4 ∧ Traffic.count t = 4 := by
  decide +kernel

end RegionClient

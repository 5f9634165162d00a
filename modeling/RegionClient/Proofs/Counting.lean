import RegionClient.Controller.Connection
import RegionClient.Proofs.Operations
import RegionClient.Proofs.VersionTables

set_option autoImplicit false

/-! # What the counter counts

A request gets its number before there are credentials for it and before it is made, so the counter
counts the attempts that had an address, not the requests that were handed over. The two differ by
the attempts that stop in between: whoever gives the credentials fails, or no request can be made
for the address (`Controller.Withheld`). `Controller.Counted` keeps a log with one entry for each
number that was given, over all that a controller ever does.

Main statement: `performAll_count`.
-/

namespace RegionClient

namespace Controller

variable {c : Controller} {P Q : Call → Prop} {call : Call} {t u v : Traffic}
  {log later : List Delivery} {d : Delivery} {e : Error}

/-! ## The log -/

/-- **A request that has a number and is not handed over**, after some traffic. -/
inductive Withheld (c : Controller) (call : Call) (t : Traffic) (e : Error) : Prop where
  /-- There are no credentials for it. -/
  | noCredentials {url : Url} (hurl : c.endpoint call.path = .ok url)
      (h : c.authorize (Traffic.count t + 1) call.method url = .error e) : Withheld c call t e
  /-- There are, and it cannot be made. -/
  | unmade {url : Url} {header : Option String} (hurl : c.endpoint call.path = .ok url)
      (hauth : c.authorize (Traffic.count t + 1) call.method url = .ok header)
      (h : c.request call url header = .error e) : Withheld c call t e

/-- **What became of the requests that were numbered** between two states of the traffic, for calls
of a kind: each has an exchange, or the error for which it was withheld. -/
inductive Counted (c : Controller) (P : Call → Prop) (t : Traffic) :
    List Delivery → Traffic → Prop where
  | start : Counted c P t [] t
  | handedOver {log : List Delivery} {u : Traffic} {call : Call} {x : Exchange}
      (h : Counted c P t log u) (hcall : P call) (hd : c.Delivers call u (.ok x)) :
      Counted c P t (log ++ [.ok x]) (u ++ [.begun, .sent x])
  | withheld {log : List Delivery} {u : Traffic} {call : Call} {e : Error}
      (h : Counted c P t log u) (hcall : P call) (he : c.Withheld call u e) :
      Counted c P t (log ++ [.error e]) (u ++ [.begun])
  /-- To wait needs no number. -/
  | waited {log : List Delivery} {u : Traffic} (h : Counted c P t log u) (wait : Duration) :
      Counted c P t log (u ++ [.waited wait])

namespace Counted

theorem mono (hPQ : ∀ call, P call → Q call) (h : c.Counted P t log u) : c.Counted Q t log u := by
  induction h with
  | start => exact .start
  | handedOver _ hcall hd ih => exact ih.handedOver (hPQ _ hcall) hd
  | withheld _ hcall he ih => exact ih.withheld (hPQ _ hcall) he
  | waited _ wait ih => exact ih.waited wait

theorem trans (h : c.Counted P t log u) (h' : c.Counted P u later v) :
    c.Counted P t (log ++ later) v := by
  induction h' with
  | start =>
      rw [List.append_nil]
      exact h
  | handedOver _ hcall hd ih =>
      rw [← List.append_assoc]
      exact ih.handedOver hcall hd
  | withheld _ hcall he ih =>
      rw [← List.append_assoc]
      exact ih.withheld hcall he
  | waited _ wait ih => exact ih.waited wait

theorem delivered (h : c.Counted P t log u) (hcall : P call) (hd : c.Delivers call u d) :
    c.Counted P t (log ++ [d]) (u ++ d.events) := by
  cases d with
  | ok x => exact h.handedOver hcall hd
  | error e =>
      obtain ⟨url, header, hurl, hauth, hdelivery⟩ := hd
      refine h.withheld hcall (.unmade hurl hauth ?_)
      -- Only a request that cannot be made is not handed over.
      cases hrequest : c.request call url header with
      | error e' =>
          rw [hrequest] at hdelivery
          cases hdelivery
          rfl
      | ok request =>
          rw [hrequest] at hdelivery
          cases hdelivery

theorem count_eq (h : c.Counted P t log u) :
    Traffic.count u = Traffic.count t + log.length := by
  induction h with
  | start => rfl
  | handedOver _ _ _ ih =>
      rw [Traffic.count_append, ih, List.length_append, Nat.add_assoc]
      rfl
  | withheld _ _ _ ih =>
      rw [Traffic.count_append, ih, List.length_append, Nat.add_assoc]
      rfl
  | waited _ wait ih =>
      rw [Traffic.count_append, ih]
      rfl

theorem exchanges_eq (h : c.Counted P t log u) :
    Traffic.exchanges u = Traffic.exchanges t ++ log.filterMap Except.toOption := by
  induction h with
  | start => exact (List.append_nil _).symm
  | handedOver _ _ _ ih =>
      rw [Traffic.exchanges_append, ih, List.filterMap_append, List.append_assoc]
      rfl
  | withheld _ _ _ ih =>
      rw [Traffic.exchanges_append, ih, List.filterMap_append, List.append_assoc]
      rfl
  | waited _ wait ih =>
      rw [Traffic.exchanges_append, ih]
      exact List.append_nil _

/-- Where every numbered request has credentials and can be made, all of them are handed over. -/
theorem handedOver_of_made (h : c.Counted P t log u)
    (hmade : ∀ call url number, P call → c.endpoint call.path = .ok url →
      ∃ header request, c.authorize number call.method url = .ok header ∧
        c.request call url header = .ok request)
    (d : Delivery) (hd : d ∈ log) : ∃ x, d = .ok x := by
  induction h with
  | start => cases hd
  | @handedOver log u call x h hcall hdelivers ih =>
      rcases List.mem_append.mp hd with hd | hd
      · exact ih hd
      · exact ⟨x, List.mem_singleton.mp hd⟩
  | withheld h hcall he ih =>
      exfalso
      cases he with
      | noCredentials hurl h =>
          obtain ⟨_, _, hauth, -⟩ := hmade _ _ _ hcall hurl
          cases h.symm.trans hauth
      | unmade hurl hauth h =>
          obtain ⟨_, _, hauth', hrequest⟩ := hmade _ _ _ hcall hurl
          obtain rfl := Except.ok.inj (hauth.symm.trans hauth')
          cases h.symm.trans hrequest
  | waited h wait ih => exact ih hd

end Counted

/-! ## Calls -/

theorem send_counted (c : Controller) (call : Call) (t : Traffic) :
    ∃ log, c.Counted (· = call) t log (c.send call t).2 := by
  refine c.sendFrom_induction call
    (motive := fun _ t _ u => ∃ log, c.Counted (· = call) t log u) ?_ ?_ ?_ ?_ _ _ t
  · -- An attempt without an address has no number.
    intro _ t _ _
    exact ⟨_, .start⟩
  · intro _ t url e hurl hauth
    exact ⟨_, Counted.start.withheld rfl (.noCredentials hurl hauth)⟩
  · intro _ t d hd _
    exact ⟨_, Counted.start.delivered rfl hd⟩
  · rintro _ t d wait _ u hd _ ⟨later, hlater⟩
    have hfirst : c.Counted (· = call) t [d] (t ++ d.events) := Counted.start.delivered rfl hd
    rw [← List.append_assoc] at hlater
    exact ⟨_, (hfirst.waited wait).trans hlater⟩

theorem Sends.counted (h : c.Sends P t u) : ∃ log, c.Counted P t log u := by
  induction h with
  | refl => exact ⟨_, .start⟩
  | step _ hcall ih =>
      obtain ⟨log, hlog⟩ := ih
      obtain ⟨later, hlater⟩ := c.send_counted _ _
      refine ⟨_, hlog.trans (hlater.mono ?_)⟩
      rintro _ rfl
      exact hcall

end Controller

/-! ## Controllers -/

namespace Connector

/-- The calls that connecting makes: one for the version document, unless the version is too old. -/
def Asks (k : Connector) (transport : Transport) (call : Call) : Prop :=
  Version.v2_0 ≤ k.version ∧ call = .get ((k.controller transport).apiPath "version/") []

theorem connect_sends (k : Connector) (transport : Transport) (t : Traffic) :
    (k.controller transport).Sends (k.Asks transport) t (k.connect transport t).2 := by
  by_cases hversion : k.version < .v2_0
  · rw [connect, if_pos hversion]
    exact .refl t
  · have hconnect :
        (k.connect transport t).2 = ((k.controller transport).fetchVersionInfo t).2 := by
      rw [connect, if_neg hversion]
      exact Dialogue.bind_quiet (fun _ _ => rfl) t
    rw [hconnect]
    exact ((k.controller transport).fetchVersionInfo_traces t).sends.mono fun call hcall =>
      ⟨Version.not_lt.mp hversion, hcall⟩

/-- **The calls of a controller** that is connected and then performs operations: that of
connecting, and those that each operation makes after the traffic which it finds, once its arguments
are accepted. -/
def Calls (k : Connector) (transport : Transport) (ops : List Operation) (call : Call) : Prop :=
  k.Asks transport call ∨ ∃ op u,
    Operation.Finds (k.controller transport) ops (k.connect transport Traffic.none).2 op u ∧
      op.admission = .ok () ∧ op.Makes (k.controller transport) u call

/-- **The counter counts attempts.** In whichever way a controller is connected and used, there is a
log of the requests that were numbered, and the counter is its length. The requests handed over to
the transport are those of the log that were not withheld; so the counter is exact if and only if
none was, as when there are credentials for every request and every request can be made. -/
theorem performAll_count (k : Connector) (transport : Transport) (ops : List Operation) :
    let c := k.controller transport
    let u := Operation.performAll c ops (k.connect transport Traffic.none).2
    ∃ log, c.Counted (k.Calls transport ops) Traffic.none log u ∧
      Traffic.count u = log.length ∧
      Traffic.exchanges u = log.filterMap Except.toOption ∧
      (Traffic.count u = (Traffic.exchanges u).length ↔ ∀ d ∈ log, ∃ x, d = .ok x) ∧
      ((∀ call url number, k.Calls transport ops call → c.endpoint call.path = .ok url →
          ∃ header request, c.authorize number call.method url = .ok header ∧
            c.request call url header = .ok request) →
        Traffic.count u = (Traffic.exchanges u).length) := by
  intro c u
  have hconnect : c.Sends (k.Calls transport ops) Traffic.none
      (k.connect transport Traffic.none).2 :=
    (k.connect_sends transport Traffic.none).mono fun _ => .inl
  have hops : c.Sends (k.Calls transport ops) (k.connect transport Traffic.none).2 u :=
    (c.performAll_sends ops _).mono fun _ => .inr
  obtain ⟨log, hlog⟩ := (hconnect.trans hops).counted
  have hcount : Traffic.count u = log.length := hlog.count_eq.trans (Nat.zero_add _)
  have hexchanges : Traffic.exchanges u = log.filterMap Except.toOption := hlog.exchanges_eq
  have hexact : Traffic.count u = (Traffic.exchanges u).length ↔ ∀ d ∈ log, ∃ x, d = .ok x := by
    rw [hcount, hexchanges, eq_comm, List.filterMap_length_eq_length]
    refine forall₂_congr fun d _ => ?_
    cases d with
    | error e => simp [Except.toOption]
    | ok x => simp [Except.toOption]
  refine ⟨log, hlog, hcount, hexchanges, hexact, fun hmade => ?_⟩
  exact hexact.mpr (hlog.handedOver_of_made hmade)

end Connector

/-! ## Requests that are withheld -/

/-- Credentials for the first request only. -/
def Authorizer.once : Authorizer := fun number _ _ =>
  if number = 1 then .ok "first" else .error (.permission "no more credentials")

/-- A file with a public address that is none of the web. -/
def StoredFile.offWeb : StoredFile :=
  ⟨"/MAAS/api/2.0/files/f/", "f", "ftp://other.test/f", none⟩

/-- A region that answers whatever it is asked with its version document. -/
def Transport.versionOnly : Transport := fun _ _ =>
  .response ⟨200, none, Utf8.encode
    "\x7b\"version\": \"2.1.0\", \"subversion\": \"\", \"capabilities\": []\x7d"⟩

/-- The counter is ahead of the requests handed over after a request without credentials, and after
one that cannot be made, which is tried three more times. -/
theorem Connector.performAll_count_withheld :
    let address := (Controller.plain .versionOnly).address
    let transport := Transport.versionOnly
    let once : Connector := ⟨address, .v2_0, .standard, some .once, .plain⟩
    let t := Operation.performAll (once.controller transport) [.zones]
      (once.connect transport Traffic.none).2
    let bare : Connector := ⟨address, .v2_0, .standard, none, .plain⟩
    let u := Operation.performAll (bare.controller transport) [.contentOf .offWeb]
      (bare.connect transport Traffic.none).2
    (once.connect transport Traffic.none).1.isOk = true ∧
      Traffic.count t = 2 ∧ (Traffic.exchanges t).length = 1 ∧
      (bare.connect transport Traffic.none).1.isOk = true ∧
      Traffic.count u = 5 ∧ (Traffic.exchanges u).length = 1 := by
  decide +kernel

end RegionClient

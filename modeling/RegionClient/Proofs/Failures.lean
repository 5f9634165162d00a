import RegionClient.Allocation
import RegionClient.Proofs.Calls
import RegionClient.Proofs.Versions

set_option autoImplicit false

/-! # Where failures come from

A call fails with the error of its last attempt: there is no address or are no credentials for it,
or its delivery is one after which no attempt follows, or none is left (`Controller.Fails`).

All else that can go wrong after an argument was accepted is *conclusive*: the error says what the
region has or has answered, and neither rejects an argument nor invites another attempt.
`Controller.Traces` says both of a dialogue, for calls of a kind: its traffic is that of calls, one
sent after the other, and its failure is that of one of these calls, or conclusive. There is one
rule for each way in which dialogues are put together.
-/

namespace RegionClient

variable {α β : Type}

/-! ## Conclusive errors -/

/-- Whether an error is about what the region has or has answered, so that neither the arguments nor
the way to the region are to blame. -/
def Error.isConclusive : Error → Bool
  | notValid _ | serviceUnavailable _ | timeout _ | http _ => false
  | _ => true

theorem Error.ne_notValid {e : Error} (h : e.isConclusive = true) (r : Rejection) :
    e ≠ .notValid r := by
  rintro rfl
  cases h

theorem Error.isRetryable_eq_false {e : Error} (h : e.isConclusive = true) :
    e.isRetryable = false := by
  cases e with
  | notValid | serviceUnavailable | timeout | http => cases h
  | _ => rfl

/-- The error of a result is conclusive, if it has one. -/
def Conclusive (x : Except Error α) : Prop :=
  ∀ e, x = .error e → e.isConclusive = true

namespace Conclusive

theorem ok (a : α) : Conclusive (.ok a) :=
  nofun

theorem error {e : Error} (h : e.isConclusive = true) : Conclusive (.error e : Except Error α) := by
  intro e' he'
  rwa [← Except.error.inj he']

theorem bind {x : Except Error α} {f : α → Except Error β} (hx : Conclusive x)
    (hf : ∀ a, Conclusive (f a)) : Conclusive (x >>= f) := by
  cases x with
  | error e => exact .error (hx e rfl)
  | ok a => exact hf a

theorem mapError {ε : Type} {x : Except ε α} {f : ε → Error}
    (hf : ∀ e, (f e).isConclusive = true) : Conclusive (x.mapError f) := by
  intro e he
  obtain ⟨e', -, rfl⟩ := mapError_error he
  exact hf e'

end Conclusive

theorem Error.isConclusive_annotate {e : Error} (context : String) (h : e.isConclusive = true) :
    (e.annotate context).isConclusive = true := by
  cases e <;> exact h

/-! ## Reading -/

theorem Culprit.isConclusive {v : Version} {k : Kind} {u : Json} {notes : List String} {e : Error}
    (h : Culprit v k u notes e) : e.isConclusive = true := by
  obtain ⟨own, -, -, -, fault, rfl, -⟩ := h
  rfl

/-- Reading fails for the shape of a document, for the version, or with a culprit. -/
theorem Kind.read_conclusive (k : Kind) (v : Version) (source : Json) :
    Conclusive (k.reader.read v source) := by
  by_cases hv : Version.v2_0 ≤ v
  · intro e he
    cases hshape : source.expectObject with
    | error fault =>
        rw [k.read_misshapen hshape] at he
        obtain rfl := Except.error.inj he
        rfl
    | ok entries =>
        obtain ⟨_, _, _, -, hculprit⟩ := k.read_blames hv (Json.isObject_of_expectObject hshape) he
        exact hculprit.isConclusive
  · rw [k.read_before hv]
    exact .bind (.mapError fun _ => rfl) fun _ => .error rfl

theorem Kind.readList_conclusive (k : Kind) (v : Version) (source : Json) :
    Conclusive (k.reader.readList v source) := by
  by_cases hv : Version.v2_0 ≤ v
  · intro e he
    cases hshape : source.expectObjects with
    | error fault =>
        rw [k.readList_misshapen hshape] at he
        obtain rfl := Except.error.inj he
        rfl
    | ok items =>
        obtain ⟨rfl, hobjects⟩ := Json.list_of_expectObjects hshape
        obtain ⟨_, _, _, _, _, _, -, -, -, hculprit⟩ :=
          readList_blames (k.read_blames hv) hv hobjects he
        exact hculprit.isConclusive
  · rw [k.readList_before hv]
    exact .bind (.mapError fun _ => rfl) fun _ => .error rfl

theorem Positions.locate_conclusive (machine : Machine) (source : Json) :
    Conclusive (locate machine source) := by
  refine .bind (.mapError fun _ => rfl) fun record => ?_
  refine .bind (.mapError fun _ => rfl) fun interfaceIds => ?_
  refine .bind (.mapError fun _ => rfl) fun interfaces => ?_
  refine .bind (.mapError fun _ => rfl) fun storageIds => ?_
  exact .bind (.mapError fun _ => rfl) fun storage => .ok _

theorem Allocation.read_conclusive (v : Version) (source : Json) :
    Conclusive (Allocation.read v source) := by
  refine .bind (Kind.machine.read_conclusive v source) fun machine => ?_
  split
  · exact .ok _
  · exact .ok _
  · rename_i document _ _
    refine .bind (fun e he => ?_) fun positions => .ok _
    obtain ⟨e', he', rfl⟩ := mapError_error he
    exact e'.isConclusive_annotate _ (Positions.locate_conclusive machine document e' he')

/-! ## Deliveries -/

/-- A response that reports no success is classified by its status, and the other outcomes have
errors of their own. -/
theorem Delivery.result_ne_notValid (x : Exchange) (r : Rejection) :
    result (.ok x) ≠ .error (.notValid r) := by
  intro h
  obtain ⟨request, outcome⟩ := x
  cases outcome with
  | response response =>
      by_cases hstatus : 200 ≤ response.status ∧ response.status ≤ 299
      · rw [result, if_pos hstatus] at h
        cases h
      · rw [result, if_neg hstatus] at h
        exact Error.ofStatus_ne_notValid _ _ r (Except.error.inj h)
  | truncated => cases h
  | refused => cases h
  | timedOut => cases h
  | dropped => cases h

namespace Controller

theorem document_conclusive (path : String) (bytes : List UInt8) :
    Conclusive (document path bytes) := by
  rw [document]
  split
  · exact .ok _
  · exact .mapError fun _ => rfl

theorem endpoint_conclusive (c : Controller) (path : String) : Conclusive (c.endpoint path) :=
  .mapError fun _ => rfl

variable {c : Controller} {call : Call} {P Q : Call → Prop} {t u v : Traffic} {e : Error}

/-! ## How a call fails -/

/-- **How a call fails** that can be tried again `n` times: its last attempt has no address or no
credentials, or its delivery is one after which no attempt follows, or none is left. -/
inductive Fails (c : Controller) (call : Call) (n : Nat) (t : Traffic) (e : Error) :
    Traffic → Prop where
  | noAddress {v : Traffic} (hv : t <+: v) (h : c.endpoint call.path = .error e) :
      Fails c call n t e v
  | noCredentials {v : Traffic} {url : Url} (hv : t <+: v) (hurl : c.endpoint call.path = .ok url)
      (h : c.authorize (Traffic.count v + 1) call.method url = .error e) :
      Fails c call n t e (v ++ [.begun])
  | last {v : Traffic} {d : Delivery} (hv : t <+: v) (hd : c.Delivers call v d)
      (he : d.result = .error e)
      (hlast : d.isFinal = true ∨ Traffic.count v = Traffic.count t + n) :
      Fails c call n t e (v ++ d.events)

/-- What fails after a first attempt fails with it. -/
theorem Fails.later {n : Nat} (hu : t <+: u) (hcount : Traffic.count u = Traffic.count t + 1)
    (h : c.Fails call n u e v) : c.Fails call (n + 1) t e v := by
  cases h with
  | noAddress hv h => exact .noAddress (hu.trans hv) h
  | noCredentials hv hurl h => exact .noCredentials (hu.trans hv) hurl h
  | last hv hd he hlast =>
      refine .last (hu.trans hv) hd he (hlast.imp_right fun hn => ?_)
      omega

theorem sendFrom_fails {retries : Nat} {number : UInt32}
    (h : c.sendFrom call retries number t = (.error e, u)) : c.Fails call retries t e u := by
  have hloop := c.sendFrom_induction call
    (motive := fun n t r u => ∀ e, r = .error e → c.Fails call n t e u)
    ?_ ?_ ?_ ?_ retries number t
  · rw [h] at hloop
    exact hloop e rfl
  · rintro _ t _ hurl e ⟨⟩
    exact .noAddress (List.prefix_refl t) hurl
  · rintro _ t url _ hurl hauth e ⟨⟩
    exact .noCredentials (List.prefix_refl t) hurl hauth
  · intro n t d hd hstop e he
    refine .last (List.prefix_refl t) hd he (hstop.imp_right fun hn => ?_)
    rw [hn, Nat.add_zero]
  · intro n t d wait r u hd _ ih e he
    refine (ih e he).later (List.prefix_append t _) ?_
    rw [Traffic.count_append, Traffic.count_append, Delivery.count_events]
    rfl

theorem send_fails (h : c.send call t = (.error e, u)) :
    c.Fails call c.retry.maxRetries.toNat t e u :=
  sendFrom_fails h

theorem Delivers.result_ne_notValid {d : Delivery} (hd : c.Delivers call t d) (r : Rejection) :
    d.result ≠ .error (.notValid r) := by
  obtain ⟨url, header, -, -, rfl⟩ := hd
  cases hrequest : c.request call url header with
  | error e =>
      obtain ⟨text, rfl⟩ := Request.make_eq_error hrequest
      intro h
      cases h
  | ok request => exact Delivery.result_ne_notValid _ r

/-- No response makes a call fail as if its arguments were refused. -/
theorem send_ne_notValid
    (hauth : ∀ number method url r, c.authorize number method url ≠ .error (.notValid r))
    (r : Rejection) : c.send call t ≠ (.error (.notValid r), u) := by
  intro h
  cases send_fails h with
  | noAddress hv hurl => cases c.endpoint_conclusive call.path _ hurl
  | noCredentials hv hurl hauth' => exact hauth _ _ _ r hauth'
  | last hv hd he hlast => exact hd.result_ne_notValid r he

/-! ## Dialogues made of calls -/

/-- **The traffic of calls** of a kind, one sent after the other. -/
inductive Sends (c : Controller) (P : Call → Prop) : Traffic → Traffic → Prop where
  | refl (t : Traffic) : Sends c P t t
  | step {t u : Traffic} (h : Sends c P t u) {call : Call} (hcall : P call) :
      Sends c P t (c.send call u).2

theorem Sends.trans (h : c.Sends P t u) (h' : c.Sends P u v) : c.Sends P t v := by
  induction h' with
  | refl => exact h
  | step _ hcall ih => exact ih.step hcall

theorem Sends.mono (hPQ : ∀ call, P call → Q call) (h : c.Sends P t u) : c.Sends Q t u := by
  induction h with
  | refl => exact .refl _
  | step _ hcall ih => exact ih.step (hPQ _ hcall)

theorem Sends.extends (h : c.Sends P t u) : c.Extends P t u := by
  induction h with
  | refl => exact .refl t
  | step _ hcall ih => exact ih.trans ((c.send_extends _ _).of_eq hcall)

theorem Sends.isPrefix (h : c.Sends P t u) : t <+: u := by
  obtain ⟨new, rfl, -⟩ := h.extends
  exact List.prefix_append t new

/-- **What a failure comes from**, in a dialogue between two states of the traffic: one of its
calls, which failed with that error, or nothing but what the region has or has answered. -/
inductive Blames (c : Controller) (P : Call → Prop) (t u : Traffic) (e : Error) : Prop where
  | conclusive (h : e.isConclusive = true) : Blames c P t u e
  | call {call : Call} {v w : Traffic} (hcall : P call) (hv : t <+: v) (hw : w <+: u)
      (h : c.send call v = (.error e, w)) : Blames c P t u e

theorem Blames.mono {t' u' : Traffic} (hPQ : ∀ call, P call → Q call) (ht : t' <+: t)
    (hu : u <+: u') (h : c.Blames P t u e) : c.Blames Q t' u' e := by
  cases h with
  | conclusive h => exact .conclusive h
  | call hcall hv hw h => exact .call (hPQ _ hcall) (ht.trans hv) (hw.trans hu) h

/-- **A dialogue is made of calls** of a kind: it sends them one after the other, and fails with
one of them or conclusively. -/
structure Traces (c : Controller) (P : Call → Prop) (x : Dialogue α) (t : Traffic) : Prop where
  sends : c.Sends P t (x t).2
  blames : ∀ e u, x t = (.error e, u) → c.Blames P t u e

namespace Traces

variable {x : Dialogue α}

theorem congr {y : Dialogue α} (h : x t = y t) (hy : c.Traces P y t) : c.Traces P x t := by
  refine ⟨?_, fun e u hx => ?_⟩
  · rw [h]
    exact hy.sends
  · exact hy.blames e u (h.symm.trans hx)

theorem mono (hPQ : ∀ call, P call → Q call) (h : c.Traces P x t) : c.Traces Q x t :=
  ⟨h.sends.mono hPQ, fun e u hx =>
    (h.blames e u hx).mono hPQ (List.prefix_refl t) (List.prefix_refl u)⟩

theorem of_eq (hcall : P call) (h : c.Traces (· = call) x t) : c.Traces P x t := by
  refine h.mono ?_
  rintro _ rfl
  exact hcall

theorem ofExcept {r : Except Error α} (h : Conclusive r) :
    c.Traces P (Dialogue.ofExcept r) t := by
  refine ⟨.refl t, fun e u hx => ?_⟩
  exact .conclusive (h e (congrArg Prod.fst hx))

/-- What fails as another dialogue does is made of the same calls. -/
theorem failed {y : Dialogue β} (hx : c.Traces P x t) (h : x t = (.error e, u))
    (hy : y t = (.error e, u)) : c.Traces P y t := by
  have hsends := hx.sends
  rw [h] at hsends
  refine ⟨?_, fun e' v hv => ?_⟩
  · rw [hy]
    exact hsends
  · obtain ⟨he, rfl⟩ := Prod.mk.inj (hy.symm.trans hv)
    obtain rfl := Except.error.inj he
    exact hx.blames e u h

theorem bind {f : α → Dialogue β} (hx : c.Traces P x t)
    (hf : ∀ a u, x t = (.ok a, u) → c.Traces P (f a) u) : c.Traces P (x >>= f) t := by
  rcases Dialogue.bind_cases x f t with ⟨a, u, h, hbind⟩ | ⟨e, u, h, hbind⟩
  · have hsends := hx.sends
    rw [h] at hsends
    refine ⟨?_, fun e w hw => ?_⟩
    · rw [hbind]
      exact hsends.trans (hf a u h).sends
    · exact ((hf a u h).blames e w (hbind.symm.trans hw)).mono (fun _ => id) hsends.isPrefix
        (List.prefix_refl w)
  · exact hx.failed h hbind

/-- What is said otherwise is said conclusively. -/
theorem mapError {f : Error → Error} (hf : ∀ e, f e = e ∨ (f e).isConclusive = true)
    (hx : c.Traces P x t) : c.Traces P (x.mapError f) t := by
  refine ⟨hx.sends, fun e u h => ?_⟩
  obtain ⟨hresult, htraffic⟩ := Prod.mk.inj h
  obtain ⟨e', he', rfl⟩ := mapError_error hresult
  rcases hf e' with heq | hconclusive
  · rw [heq]
    exact hx.blames e' u (Prod.ext he' htraffic)
  · exact .conclusive hconclusive

theorem void (hx : c.Traces P x t) : c.Traces P x.void t := by
  refine ⟨hx.sends, fun e u h => ?_⟩
  obtain ⟨hresult, htraffic⟩ := Prod.mk.inj h
  exact hx.blames e u (Prod.ext (verdict_error.mp hresult) htraffic)

/-! ### Dialogues about a value -/

section

variable {σ τ : Type} {s : σ} {y : InPlace σ α}

theorem onApply {z : InPlace σ α} (h : y s t = z s t) (hz : c.Traces P (z.on s) t) :
    c.Traces P (y.on s) t := by
  refine hz.congr ?_
  rw [InPlace.on, InPlace.on, h]

theorem onPure (a : α) : c.Traces P ((pure a : InPlace σ α).on s) t :=
  .ofExcept (.ok a)

theorem onLift (hx : c.Traces P x t) : c.Traces P ((liftM x : InPlace σ α).on s) t :=
  hx.congr rfl

theorem onChange (f : σ → σ) : c.Traces P ((InPlace.change f).on s) t :=
  .ofExcept (.ok ())

theorem onReplace {f : σ → Except Error σ} (hf : Conclusive (f s)) :
    c.Traces P ((InPlace.replace f).on s) t := by
  refine ⟨?_, fun e u h => ?_⟩
  · rw [InPlace.on, InPlace.replace_traffic]
    exact .refl t
  · refine .conclusive (hf e ?_)
    rw [InPlace.on, InPlace.replace] at h
    cases hs : f s with
    | ok s' =>
        rw [hs] at h
        cases (congrArg Prod.fst h)
    | error e' =>
        rw [hs] at h
        exact congrArg Except.error (Except.error.inj (congrArg Prod.fst h))

theorem onBind {f : α → InPlace σ β} (hy : c.Traces P (y.on s) t)
    (hf : ∀ a s' u, y s t = (.ok a, s', u) → c.Traces P ((f a).on s') u) :
    c.Traces P ((y >>= f).on s) t := by
  rcases h : y s t with ⟨e | a, s', u⟩
  · have hon : y.on s t = (.error e, u) := by rw [InPlace.on, h]
    exact hy.failed hon (by rw [InPlace.on, InPlace.bind_error h])
  · -- The later value goes into what follows, and as far as the traffic goes that is all.
    have hon : y.on s t = (.ok a, u) := by rw [InPlace.on, h]
    refine Traces.congr (y := y.on s >>= fun _ => (f a).on s') ?_ (hy.bind fun b v hv => ?_)
    · rw [Dialogue.bind_ok hon, InPlace.on, InPlace.on, InPlace.bind_ok h]
    · obtain ⟨-, rfl⟩ := Prod.mk.inj (hon.symm.trans hv)
      exact hf a s' u h

theorem onPart {part : τ} {z : InPlace τ α} (put : τ → σ → σ) (hz : c.Traces P (z.on part) t) :
    c.Traces P ((z.onPart part put).on s) t :=
  hz.congr rfl

/-- What is done about a failure does not change it. -/
theorem onNew {cleanup : σ → Dialogue β} (hy : c.Traces P (y.on s) t)
    (hcleanup : ∀ e s' u, y s t = (.error e, s', u) → c.Sends P u (cleanup s' u).2) :
    c.Traces P (y.onNew s cleanup) t := by
  have hsends := hy.sends
  rcases h : y s t with ⟨e | a, s', u⟩
  · rw [InPlace.on, h] at hsends
    have hclean := hcleanup e s' u h
    refine ⟨?_, fun e' v hv => ?_⟩
    · rw [InPlace.onNew_error h]
      exact hsends.trans hclean
    · rw [InPlace.onNew_error h] at hv
      obtain ⟨he, rfl⟩ := Prod.mk.inj hv
      obtain rfl := Except.error.inj he
      have hon : y.on s t = (.error e, u) := by rw [InPlace.on, h]
      exact (hy.blames e u hon).mono (fun _ => id) (List.prefix_refl t) hclean.isPrefix
  · rw [InPlace.on, h] at hsends
    refine ⟨?_, fun e v hv => ?_⟩
    · rw [InPlace.onNew_ok h]
      exact hsends
    · rw [InPlace.onNew_ok h] at hv
      cases congrArg Prod.fst hv

end

end Traces

/-! ## Calls -/

theorem send_traces (c : Controller) (call : Call) (t : Traffic) :
    c.Traces (· = call) (c.send call) t :=
  ⟨(Sends.refl t).step rfl, fun _ u h => .call rfl (List.prefix_refl t) (List.prefix_refl u) h⟩

theorem sendForDocument_traces (c : Controller) (call : Call) (t : Traffic) :
    c.Traces (· = call) (c.sendForDocument call) t :=
  (c.send_traces call t).bind fun bytes _ _ => .ofExcept (document_conclusive call.path bytes)

theorem sendAndRead_traces (c : Controller) (call : Call) {read : Version → Json → Except Error α}
    (hread : ∀ v source, Conclusive (read v source)) (t : Traffic) :
    c.Traces (· = call) (c.sendAndRead call read) t :=
  (c.sendForDocument_traces call t).bind fun value _ _ => .ofExcept (hread c.version value)

theorem delete_traces (c : Controller) (path : String) (t : Traffic) :
    c.Traces (· = ⟨.delete, path, [], .empty⟩) (c.delete path) t :=
  (c.send_traces _ t).bind fun _ _ _ => .ofExcept (.ok ())

theorem list_traces (c : Controller) (k : Kind) (resource : String) (query : Parameters)
    (t : Traffic) :
    c.Traces (· = .get (c.apiPath resource) query) (c.list k.reader resource query) t :=
  c.sendAndRead_traces _ k.readList_conclusive t

end Controller

end RegionClient

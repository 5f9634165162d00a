import RegionClient.Proofs.Operations

set_option autoImplicit false

/-! # Operations without a result

To give machines back, to delete a device or a file and to store a file have no result but that they
succeed, and for that the status of the last response should be enough.

It is for all but the first: a release reads the document in the response, though it makes nothing
of it, and fails if there is none (`Controller.acknowledged_iff`). A release is also sent if it has
ids and none of them names a machine, as all are empty; its parameters are then those of a release
of nothing, which is not sent otherwise (`Controller.sentIfNamed_iff`).
-/

namespace RegionClient

/-- What is computed from the value of a dialogue comes with the traffic of the dialogue. -/
theorem Dialogue.bind_ofExcept_apply {α β : Type} (x : Dialogue α) (f : α → Except Error β)
    (t : Traffic) : (x >>= fun a => .ofExcept (f a)) t = ((x t).1.bind f, (x t).2) := by
  rcases bind_cases x (fun a => .ofExcept (f a)) t with ⟨a, u, hx, h⟩ | ⟨e, u, hx, h⟩
  · rw [h, hx]
    rfl
  · rw [h, hx]
    rfl

/-- A dialogue whose value is dropped, as operations write it. -/
theorem Dialogue.bind_unit {α : Type} (x : Dialogue α) : (x >>= fun _ => pure ()) = x.void := by
  funext t
  refine (bind_ofExcept_apply x (fun _ => .ok ()) t).trans ?_
  rw [void]
  cases (x t).1 <;> rfl

/-- Where the plain controller finds the machines. -/
def Url.plainMachines : Url :=
  ⟨"http", some ⟨"", "", .name "maas.test", none⟩,
    .segments ["MAAS", "api", "2.0", "machines", ""], none, none⟩

/-! ## Releases -/

namespace Release

/-- The call of a release. -/
def call (order : Release) (c : Controller) : Call :=
  .post c.machinesPath (.operation "release") order.parameters

/-- **A release names a machine** in its parameters. -/
def NamesMachine (order : Release) : Prop :=
  ∃ id, ("machines", id) ∈ order.parameters

theorem namesMachine_iff (order : Release) :
    order.NamesMachine ↔ ∃ id ∈ order.systemIds, id ≠ "" := by
  refine exists_congr fun id => ?_
  simp [parameters, Parameters.mem_each, Parameters.mem_nonempty]

end Release

namespace Controller

variable {c : Controller} {t : Traffic} {order : Release}

/-- **A release is sent exactly if it names a machine**, and succeeds at once if it does not. -/
structure SentIfNamed (c : Controller) (order : Release) (t : Traffic) : Prop where
  sent_iff : Traffic.exchanges (c.release order t).2 ≠ Traffic.exchanges t ↔ order.NamesMachine
  succeeds : ¬ order.NamesMachine → c.release order t = (.ok (), t)

theorem release_nothing (h : order.systemIds = []) (t : Traffic) :
    c.release order t = (.ok (), t) := by
  rw [release, Release.isEmpty, h]
  rfl

theorem release_apply (h : order.systemIds ≠ []) (t : Traffic) :
    c.release order t = (c.sendForDocument (order.call c)).void t := by
  rw [release, Release.isEmpty, List.isEmpty_eq_false_iff.mpr h, ← Dialogue.bind_unit]
  rfl

/-- A request that can be made is delivered. -/
theorem Delivers.of_request {call : Call} {url : Url} {header : Option String} {request : Request}
    (hurl : c.endpoint call.path = .ok url)
    (hauth : c.authorize (Traffic.count t + 1) call.method url = .ok header)
    (hrequest : c.request call url header = .ok request) :
    c.Delivers call t (.ok ⟨request, c.transport (Traffic.exchanges t) request⟩) := by
  refine ⟨url, header, hurl, hauth, ?_⟩
  rw [hrequest]
  rfl

/-- A release with ids begins with a request, if one can be made. -/
theorem release_begins (h : order.systemIds ≠ []) {x : Exchange}
    (hd : c.Delivers (order.call c) t (.ok x)) : ∃ outcome rest,
    (c.release order t).2 = t ++ (.begun :: .sent ⟨x.request, outcome⟩ :: rest) := by
  obtain ⟨url, header, hurl, hauth, hdelivery⟩ := hd
  have hx : x ∈ (c.transport.deliver (Traffic.exchanges t)
      (c.request (order.call c) url header)).exchanges := hdelivery ▸ List.mem_singleton_self x
  have hsent : (c.release order t).2 = (c.send (order.call c) t).2 := by
    rw [release_apply h, Dialogue.void, sendForDocument, Dialogue.bind_quiet fun _ _ => rfl]
  rw [hsent]
  exact send_begins hurl hauth (Transport.mem_exchanges_deliver hx)

/-- **A release of nothing is told from a release by its list of ids**: without ids nothing is sent,
and with ids a request is, if one can be made. So it is sent exactly if it names a machine, unless
there are ids and all of them are empty. -/
theorem sentIfNamed_iff (c : Controller) (order : Release) (t : Traffic) :
    (order.systemIds = [] → c.release order t = (.ok (), t)) ∧
    ∀ x, c.Delivers (order.call c) t (.ok x) →
      (order.systemIds ≠ [] → ∃ outcome rest,
        (c.release order t).2 = t ++ (.begun :: .sent ⟨x.request, outcome⟩ :: rest)) ∧
      (c.SentIfNamed order t ↔ order.systemIds = [] ∨ ∃ id ∈ order.systemIds, id ≠ "") := by
  refine ⟨fun h => release_nothing h t, fun x hx => ⟨fun h => release_begins h hx, ?_⟩⟩
  rw [← order.namesMachine_iff]
  by_cases h : order.systemIds = []
  · have hunnamed : ¬ order.NamesMachine := by
      rw [order.namesMachine_iff, h]
      simp
    refine iff_of_true ⟨?_, fun _ => release_nothing h t⟩ (.inl h)
    rw [release_nothing h]
    exact iff_of_false (fun hne => hne rfl) hunnamed
  · obtain ⟨outcome, rest, hsent⟩ := release_begins h hx
    have hnew : Traffic.exchanges (c.release order t).2 ≠ Traffic.exchanges t := by
      rw [hsent, Traffic.exchanges_append]
      exact fun heq => nomatch List.append_right_eq_self.mp heq
    constructor
    · intro hexact
      exact .inr (hexact.sent_iff.mp hnew)
    · rintro (hnil | hnamed)
      · exact absurd hnil h
      · exact ⟨iff_of_true hnew hnamed, fun hno => absurd hnamed hno⟩

theorem sentIfNamed_iff_plain :
    let c := plain .busyAtFirst
    let order : Release := ⟨["4y3ha3", ""], ""⟩
    order.systemIds ≠ [] ∧ ∃ x, c.Delivers (order.call c) [] (.ok x) ∧
      (∃ outcome rest, (c.release order []).2 =
        [] ++ (.begun :: .sent ⟨x.request, outcome⟩ :: rest)) ∧
      (c.SentIfNamed order [] ↔ order.systemIds = [] ∨ ∃ id ∈ order.systemIds, id ≠ "") := by
  intro c order
  have hne : order.systemIds ≠ [] := List.cons_ne_nil _ _
  have hurl : c.endpoint (order.call c).path = .ok .plainMachines := by decide +kernel
  have hrequest : c.request (order.call c) .plainMachines (some "1") = .ok ⟨.post,
      { Url.plainMachines with query := some "op=release" }, some "1", false,
      .form [("machines", "4y3ha3")]⟩ := by
    decide +kernel
  obtain ⟨x, hx⟩ : ∃ x, c.Delivers (order.call c) [] (.ok x) :=
    ⟨_, .of_request hurl (authorize_plain _ 1 .post .plainMachines) hrequest⟩
  obtain ⟨hbegins, hiff⟩ := (sentIfNamed_iff c order []).2 x hx
  exact ⟨hne, x, hx, hbegins hne, hiff⟩

/-- **A release of one empty id is sent**, though it has the parameters of a release of nothing. -/
theorem release_unnamed_sent :
    let c := plain fun _ _ => .response ⟨200, none, []⟩
    let order : Release := ⟨[""], ""⟩
    order.parameters = [] ∧ ¬ order.NamesMachine ∧
      (Traffic.exchanges (c.release order []).2).map (fun x => (x.request.url.text, x.request.payload))
        = [("http://maas.test/MAAS/api/2.0/machines/?op=release", .form [])] ∧
      ¬ c.SentIfNamed order [] := by
  intro c order
  have hunnamed : ¬ order.NamesMachine := by
    rw [order.namesMachine_iff]
    decide
  have hsent : (Traffic.exchanges (c.release order []).2).map
      (fun x => (x.request.url.text, x.request.payload)) =
        [("http://maas.test/MAAS/api/2.0/machines/?op=release", .form [])] := by
    decide +kernel
  refine ⟨rfl, hunnamed, hsent, fun h => ?_⟩
  rw [h.succeeds hunnamed] at hsent
  cases hsent

end Controller

/-! ## Last deliveries -/

/-- **What becomes of the request is a response that reports success.** -/
def Delivery.IsSuccess (d : Delivery) : Prop :=
  ∃ request r, d = .ok ⟨request, .response r⟩ ∧ 200 ≤ r.status ∧ r.status ≤ 299

theorem Delivery.isFinal_of_result {d : Delivery} {bytes : List UInt8} (h : d.result = .ok bytes) :
    d.isFinal = true := by
  rcases d.attempt_cases with ⟨_, -, -, hfinal⟩ | ⟨e, -, he, -⟩ | ⟨e, -, he, -⟩
  · exact hfinal
  · cases h.symm.trans he
  · cases h.symm.trans he

/-- **A response has a document**, or nothing in which one would be read. -/
def Response.HasDocument (r : Response) : Prop :=
  Controller.content r = [] ∨ ∃ value, Json.decode (Controller.content r) = .ok value

namespace Controller

variable {c : Controller} {call : Call} {t u v : Traffic} {d : Delivery}

/-- **The delivery that ends the loop of a call**, with the traffic before it: no attempt follows it
or none is left, and the result is that of the delivery. -/
structure LastDelivery (c : Controller) (call : Call) (t v : Traffic) (d : Delivery) : Prop where
  isPrefix : t <+: v
  delivers : c.Delivers call v d
  last : d.isFinal = true ∨ Traffic.count v = Traffic.count t + c.retry.maxRetries.toNat
  send_eq : c.send call t = (d.result, v ++ d.events)

/-- A loop that gives a body ends with the delivery that the body is from. -/
theorem sendFrom_succeeds {retries : Nat} {number : UInt32} {bytes : List UInt8}
    (h : c.sendFrom call retries number t = (.ok bytes, u)) :
    ∃ v d, t <+: v ∧ c.Delivers call v d ∧ d.result = .ok bytes ∧ u = v ++ d.events := by
  have hloop := c.sendFrom_induction call
    (motive := fun _ t r u => ∀ bytes, r = .ok bytes →
      ∃ v d, t <+: v ∧ c.Delivers call v d ∧ d.result = .ok bytes ∧ u = v ++ d.events)
    ?_ ?_ ?_ ?_ retries number t
  · rw [h] at hloop
    exact hloop bytes rfl
  · rintro _ _ _ _ _ ⟨⟩
  · rintro _ _ _ _ _ _ _ ⟨⟩
  · intro _ t d hd _ bytes hbytes
    exact ⟨t, d, List.prefix_refl t, hd, hbytes, rfl⟩
  · intro _ t d wait r u _ _ ih bytes hbytes
    obtain ⟨v, last, hv, hlast⟩ := ih bytes hbytes
    exact ⟨v, last, (List.prefix_append t _).trans hv, hlast⟩

theorem send_succeeds {bytes : List UInt8} (h : (c.send call t).1 = .ok bytes) :
    ∃ v d, c.LastDelivery call t v d ∧ d.IsSuccess := by
  have hsend : c.send call t = (.ok bytes, (c.send call t).2) := Prod.ext h rfl
  obtain ⟨v, d, hv, hd, hresult, htraffic⟩ := sendFrom_succeeds hsend
  rw [htraffic, ← hresult] at hsend
  obtain ⟨request, r, hr, hlow, hhigh, -⟩ := result_eq_ok hresult
  exact ⟨v, d, ⟨hv, hd, .inl (Delivery.isFinal_of_result hresult), hsend⟩, request, r, hr, hlow,
    hhigh⟩

/-- A call for which there is an address, and always credentials, has a last delivery. -/
theorem exists_lastDelivery {url : Url} {header : Nat → Option String}
    (hurl : c.endpoint call.path = .ok url)
    (hauth : ∀ n, c.authorize n call.method url = .ok (header n)) (t : Traffic) :
    ∃ v d, c.LastDelivery call t v d := by
  rcases h : c.send call t with ⟨e | bytes, u⟩
  · cases send_fails h with
    | noAddress _ hno => cases hno.symm.trans hurl
    | noCredentials _ hurl' hno =>
        obtain rfl := Except.ok.inj (hurl'.symm.trans hurl)
        cases hno.symm.trans (hauth _)
    | last hv hd he hlast => exact ⟨_, _, hv, hd, hlast, he ▸ h⟩
  · obtain ⟨v, d, hd, -⟩ := send_succeeds (congrArg Prod.fst h)
    exact ⟨v, d, hd⟩

/-- There is only one last delivery, as the traffic of the call ends with it. -/
theorem LastDelivery.unique {v' : Traffic} {d' : Delivery} (h : c.LastDelivery call t v d)
    (h' : c.LastDelivery call t v' d') : v' = v ∧ d' = d := by
  obtain ⟨hresult, htraffic⟩ := Prod.mk.inj (h'.send_eq.symm.trans h.send_eq)
  -- The last event tells an exchange from a request that cannot be made.
  have hend := congrArg List.getLast? htraffic
  cases d' with
  | error e' =>
      cases d with
      | error e =>
          obtain rfl := Except.error.inj hresult
          exact ⟨List.append_cancel_right htraffic, rfl⟩
      | ok x => simp [Delivery.events, Delivery.exchanges] at hend
  | ok x' =>
      cases d with
      | error e => simp [Delivery.events, Delivery.exchanges] at hend
      | ok x =>
          obtain rfl : x' = x := by simpa [Delivery.events, Delivery.exchanges] using hend
          exact ⟨List.append_cancel_right htraffic, rfl⟩

theorem document_eq_ok_iff (path : String) (r : Response) :
    (∃ value, document path (content r) = .ok value) ↔ r.HasDocument := by
  rw [document, Response.HasDocument]
  split
  · rename_i hempty
    exact iff_of_true ⟨.null, rfl⟩ (.inl hempty)
  · rename_i hbody
    simp only [mapError_ok, hbody, false_or]

/-! ## What success is -/

/-- **An operation without a result**, whose arguments are accepted. -/
inductive Resultless : Operation → Prop where
  | release (order : Release) (h : order.NamesMachine) : Resultless (.release order)
  | deleteDevice (d : Device) : Resultless (.deleteDevice d)
  | deleteFile (f : StoredFile) : Resultless (.deleteFile f)
  | addFile (disk : LocalFiles) (upload : Upload)
      (h : (Operation.addFile disk upload).admission = .ok ()) :
      Resultless (.addFile disk upload)

/-- **The call of such an operation**, and whether the document in the response is read. -/
inductive Acts (c : Controller) : Operation → Call → Bool → Prop where
  | release (order : Release) (h : order.systemIds ≠ []) :
      Acts c (.release order) (order.call c) true
  | deleteDevice (d : Device) : Acts c (.deleteDevice d) d.deletion false
  | deleteFile (f : StoredFile) : Acts c (.deleteFile f) ⟨.delete, f.resourceUri, [], .empty⟩ false
  | addFile (disk : LocalFiles) (upload : Upload) {content : List UInt8}
      (h : upload.source >>= uploadContent disk = .ok content) : Acts c (.addFile disk upload)
        ⟨.post, c.filesPath, .operation "add", .upload upload.filename content⟩ false

/-- What such an operation makes of the body of a response. -/
def heed (reads : Bool) (path : String) (bytes : List UInt8) : Except Error Unit :=
  if reads then verdict (document path bytes) else .ok ()

/-- **An operation succeeds exactly when the region says so**: it succeeds if and only if its call
ends with a response that reports success, and otherwise fails as that delivery does. -/
structure Acknowledges (c : Controller) (op : Operation) (call : Call) (t : Traffic) : Prop where
  ok_iff : (op.perform c t).1 = .ok () ↔ ∃ v d, c.LastDelivery call t v d ∧ d.IsSuccess
  error_eq : ∀ v d e, c.LastDelivery call t v d → d.result = .error e →
    (op.perform c t).1 = .error e

variable {op : Operation} {reads : Bool}

theorem Resultless.exists_acts (h : Resultless op) : ∃ call reads, c.Acts op call reads := by
  cases h with
  | release order h =>
      refine ⟨_, _, .release order fun hnil => ?_⟩
      obtain ⟨id, hid, -⟩ := order.namesMachine_iff.mp h
      rw [hnil] at hid
      cases hid
  | deleteDevice d => exact ⟨_, _, .deleteDevice d⟩
  | deleteFile f => exact ⟨_, _, .deleteFile f⟩
  | addFile disk upload h =>
      obtain ⟨content, hcontent⟩ := verdict_ok.mp h
      exact ⟨_, _, .addFile disk upload hcontent⟩

namespace Acts

/-- The operation sends its call, and then makes what it does of the body. -/
theorem perform_eq (h : c.Acts op call reads) (t : Traffic) :
    op.perform c t = ((c.send call t).1.bind (heed reads call.path), (c.send call t).2) := by
  cases h with
  | release order h =>
      rw [Operation.perform, release_apply h, Dialogue.void, sendForDocument,
        Dialogue.bind_ofExcept_apply]
      cases (c.send (order.call c) t).1 <;> rfl
  | deleteDevice d => exact Dialogue.bind_ofExcept_apply _ (heed false d.resourceUri) t
  | deleteFile f => exact Dialogue.bind_ofExcept_apply _ (heed false f.resourceUri) t
  | addFile disk upload h =>
      obtain ⟨source, hsource, hcontent⟩ := bind_ok.mp h
      rw [Operation.perform, c.addFile_apply hsource hcontent]
      exact Dialogue.bind_ofExcept_apply _ (heed false c.filesPath) t

theorem error_eq (h : c.Acts op call reads) {e : Error} (he : (c.send call t).1 = .error e) :
    (op.perform c t).1 = .error e := by
  rw [h.perform_eq, he]
  rfl

/-- After a response that reports success, it is the body that decides. -/
theorem result_eq (h : c.Acts op call reads) {request : Request} {r : Response}
    (hd : c.LastDelivery call t v (.ok ⟨request, .response r⟩))
    (hstatus : 200 ≤ r.status ∧ r.status ≤ 299) :
    (op.perform c t).1 = heed reads call.path (content r) := by
  have hresult : Delivery.result (.ok ⟨request, .response r⟩) = .ok (content r) := if_pos hstatus
  rw [h.perform_eq, hd.send_eq, hresult]
  rfl

/-- Where the document is read and there is none, the operation fails for that. -/
theorem unreadable (h : c.Acts op call true) {request : Request} {r : Response}
    (hd : c.LastDelivery call t v (.ok ⟨request, .response r⟩))
    (hstatus : 200 ≤ r.status ∧ r.status ≤ 299) (hbody : content r ≠ [])
    {fault : Json.DecodeError} (hfault : Json.decode (content r) = .error fault) :
    (op.perform c t).1 = .error (.deserialization
      (.inside ("response for \x60" ++ call.path ++ "\x60") (.document fault))) := by
  rw [h.result_eq hd hstatus, heed, if_pos rfl, document, if_neg hbody, hfault]
  rfl

theorem succeeds (h : c.Acts op call reads) (hok : (op.perform c t).1 = .ok ()) :
    ∃ v d, c.LastDelivery call t v d ∧ d.IsSuccess := by
  rw [h.perform_eq] at hok
  obtain ⟨bytes, hbytes, -⟩ := bind_ok.mp hok
  exact send_succeeds hbytes

theorem acknowledges_iff (h : c.Acts op call reads) (t : Traffic) :
    c.Acknowledges op call t ↔ (reads = true → ∀ v request r,
      c.LastDelivery call t v (.ok ⟨request, .response r⟩) → 200 ≤ r.status ∧ r.status ≤ 299 →
      r.HasDocument) := by
  constructor
  · rintro hexact rfl v request r hd hstatus
    have hok := hexact.ok_iff.mpr ⟨v, _, hd, request, r, rfl, hstatus⟩
    rw [h.result_eq hd hstatus] at hok
    exact (document_eq_ok_iff call.path r).mp (verdict_ok.mp hok)
  · intro hdocument
    refine ⟨⟨h.succeeds, ?_⟩, ?_⟩
    · rintro ⟨v, d, hd, request, r, rfl, hstatus⟩
      rw [h.result_eq hd hstatus]
      cases reads with
      | false => rfl
      | true =>
          have hr := hdocument rfl v request r hd hstatus
          exact verdict_ok.mpr ((document_eq_ok_iff call.path r).mpr hr)
    · intro v d e hd he
      refine h.error_eq ?_
      rw [hd.send_eq]
      exact he

end Acts

/-- **An operation without a result sends one call**, and succeeds only if that ends with a response
that reports success, and fails if the call fails. It succeeds with every such response, unless it
is a release: that looks for a document in the response, and fails if there is none. -/
theorem acknowledged_iff (h : Resultless op) (c : Controller) (t : Traffic) :
    ∃ call reads, c.Acts op call reads ∧
      (op.perform c t).2 = (c.send call t).2 ∧
      (∀ (url : Url) (header : Nat → Option String), c.endpoint call.path = .ok url →
        (∀ n, c.authorize n call.method url = .ok (header n)) → ∃ v d, c.LastDelivery call t v d ∧
          ∀ v' d', c.LastDelivery call t v' d' → v' = v ∧ d' = d) ∧
      (∀ e, (c.send call t).1 = .error e → (op.perform c t).1 = .error e) ∧
      ((op.perform c t).1 = .ok () → ∃ v d, c.LastDelivery call t v d ∧ d.IsSuccess) ∧
      (c.Acknowledges op call t ↔ (reads = true → ∀ v request r,
        c.LastDelivery call t v (.ok ⟨request, .response r⟩) → 200 ≤ r.status ∧ r.status ≤ 299 →
        r.HasDocument)) ∧
      (reads = true → ∀ v request r fault,
        c.LastDelivery call t v (.ok ⟨request, .response r⟩) → 200 ≤ r.status ∧ r.status ≤ 299 →
        content r ≠ [] → Json.decode (content r) = .error fault →
        (op.perform c t).1 = .error (.deserialization
          (.inside ("response for \x60" ++ call.path ++ "\x60") (.document fault)))) := by
  obtain ⟨call, reads, hacts⟩ : ∃ call reads, c.Acts op call reads := h.exists_acts
  refine ⟨call, reads, hacts, congrArg Prod.snd (hacts.perform_eq t), ?_, fun e => hacts.error_eq,
    hacts.succeeds, hacts.acknowledges_iff t, ?_⟩
  · intro url header hurl hauth
    obtain ⟨v, d, hd⟩ := exists_lastDelivery hurl hauth t
    exact ⟨v, d, hd, fun v' d' => hd.unique⟩
  · rintro rfl v request r fault hd hstatus hbody hfault
    exact hacts.unreadable hd hstatus hbody hfault

theorem acknowledged_iff_plain :
    let c := plain .busyAtFirst
    let op : Operation := .release ⟨["4y3ha3"], ""⟩
    Resultless op ∧ (op.perform c []).1 = .ok () ∧
      ∃ call reads, c.Acts op call reads ∧ ∃ v d, c.LastDelivery call [] v d ∧ d.IsSuccess := by
  intro c op
  have hop : Resultless op :=
    .release _ ((Release.namesMachine_iff _).mpr ⟨"4y3ha3", List.mem_singleton_self _, by decide⟩)
  have hok : (op.perform c []).1 = .ok () := by decide +kernel
  obtain ⟨call, reads, hacts, -, -, -, hsucceeds, -⟩ := acknowledged_iff hop c []
  exact ⟨hop, hok, call, reads, hacts, hsucceeds hok⟩

/-- **A release is not acknowledged by a response that holds no document**, which is enough for
a deletion. -/
theorem release_undocumented :
    let c := plain fun _ _ => .response ⟨200, none, Utf8.encode "released"⟩
    let order : Release := ⟨["4y3ha3"], ""⟩
    let file : StoredFile := ⟨"/MAAS/api/2.0/files/a/", "a", "", none⟩
    ((Operation.deleteFile file).perform c []).1 = .ok () ∧
      ((Operation.release order).perform c []).1.mapError Error.message = .error
        ("Deserialization error: response for \x60api/2.0/machines/\x60: " ++
          "expected value at line 1 column 1") ∧
      Resultless (.release order) ∧
      (∃ v d, c.LastDelivery (order.call c) [] v d ∧ d.IsSuccess) ∧
      ¬ c.Acknowledges (.release order) (order.call c) [] := by
  intro c order file
  have hfails : ((Operation.release order).perform c []).1.mapError Error.message = .error
      ("Deserialization error: response for \x60api/2.0/machines/\x60: " ++
        "expected value at line 1 column 1") := by
    decide +kernel
  have hsend : (c.send (order.call c) []).1 = .ok (Utf8.encode "released") := by decide +kernel
  refine ⟨by decide +kernel, hfails, .release _ ?_, send_succeeds hsend, fun h => ?_⟩
  · exact order.namesMachine_iff.mpr ⟨"4y3ha3", List.mem_singleton_self _, by decide⟩
  · rw [h.ok_iff.mpr (send_succeeds hsend)] at hfails
    cases hfails

end Controller

end RegionClient

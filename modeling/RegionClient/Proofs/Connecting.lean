import RegionClient.Controller.Connection
import RegionClient.Proofs.Acknowledgements
import RegionClient.Proofs.VersionTables

set_option autoImplicit false

/-! # What connecting comes to

There are three places where a version can be found not to be spoken: before anything is sent, in
the status of a response, and in the choice of a reader. The last one cannot fail once the first one
let a version pass, and of the statuses only one is taken for it. So `Connector.Comes` has one case
for each way in which a connection is made or fails, no two of these overlap, and to say which of
them happened it is enough to look at the last delivery.
-/

namespace RegionClient

/-! ## Errors that tell what happened -/

/-- The error is one of a document. -/
def Error.IsDeserialization (e : Error) : Prop :=
  ∃ fault, e = .deserialization fault

/-- The error says that a version is not spoken, whoever finds so. -/
def Error.IsUnsupported (e : Error) : Prop :=
  ∃ typeName version, e = .unsupportedVersion typeName version

theorem Error.IsDeserialization.not_isUnsupported {e : Error} (h : e.IsDeserialization) :
    ¬ e.IsUnsupported := by
  obtain ⟨fault, rfl⟩ := h
  rintro ⟨_, _, heq⟩
  cases heq

theorem Error.ofStatus_eq_notFound_iff (status : Nat) (body text : String) :
    ofStatus status body = .notFound text ↔ status = 404 ∧ text = body := by
  unfold ofStatus
  split <;> simp_all [eq_comm]

theorem Error.ofStatus_not_isUnsupported (status : Nat) (body : String) :
    ¬ (ofStatus status body).IsUnsupported := by
  rintro ⟨_, _, h⟩
  unfold ofStatus at h
  split at h <;> cases h

/-- From version 2.0 on there is a reader, so that only documents can be wrong. -/
theorem Kind.read_isDeserialization (k : Kind) {v : Version} (hv : Version.v2_0 ≤ v)
    {source : Json} {e : Error} (h : k.reader.read v source = .error e) : e.IsDeserialization := by
  cases hshape : source.expectObject with
  | error fault =>
      rw [k.read_misshapen hshape] at h
      exact ⟨_, (Except.error.inj h).symm⟩
  | ok entries =>
      obtain ⟨_, _, _, -, hculprit⟩ := k.read_blames hv (Json.isObject_of_expectObject hshape) h
      obtain ⟨_, -, -, -, fault, rfl, -⟩ := hculprit
      exact ⟨fault, rfl⟩

theorem Controller.document_isDeserialization {path : String} {bytes : List UInt8} {e : Error}
    (h : document path bytes = .error e) : e.IsDeserialization := by
  rw [document] at h
  split at h
  · cases h
  · obtain ⟨_, -, rfl⟩ := mapError_error h
    exact ⟨_, rfl⟩

/-! ## Responses that tell what is missing -/

/-- **What becomes of the request is a response that says that nothing is there.** The response is
complete: where the body breaks off, that is the failure. -/
def Delivery.IsMissing (d : Delivery) : Prop :=
  ∃ request r, d = .ok ⟨request, .response r⟩ ∧ r.status = 404

namespace Delivery

theorem IsMissing.result_eq {d : Delivery} (h : d.IsMissing) :
    ∃ text, d.result = .error (.notFound text) := by
  obtain ⟨request, r, rfl, hr⟩ := h
  refine ⟨Utf8.decodeLossy r.body, ?_⟩
  rw [result, if_neg (by omega), hr]
  rfl

/-- Only a response says that nothing is there. -/
theorem isMissing_of_result {x : Exchange} {text : String}
    (h : result (.ok x) = .error (.notFound text)) : IsMissing (.ok x) := by
  obtain ⟨request, outcome⟩ := x
  cases outcome with
  | response r =>
      rw [result] at h
      split at h
      · cases h
      · exact ⟨request, r, rfl, ((Error.ofStatus_eq_notFound_iff _ _ _).mp (Except.error.inj h)).1⟩
  | _ => cases h

theorem result_not_isUnsupported {x : Exchange} {e : Error} (h : result (.ok x) = .error e) :
    ¬ e.IsUnsupported := by
  rintro ⟨_, _, rfl⟩
  obtain ⟨request, outcome⟩ := x
  cases outcome with
  | response r =>
      rw [result] at h
      split at h
      · cases h
      · exact Error.ofStatus_not_isUnsupported _ _ ⟨_, _, Except.error.inj h⟩
  | _ => cases h

end Delivery

namespace Controller

variable {c : Controller} {call : Call} {t v : Traffic} {d : Delivery} {e : Error}

/-- A request that cannot be made fails in the way to the region. -/
theorem Delivers.unmade (h : c.Delivers call v (.error e)) : ∃ text, e = .http text := by
  obtain ⟨url, header, -, -, hd⟩ := h
  cases hrequest : c.request call url header with
  | ok request =>
      rw [hrequest] at hd
      cases hd
  | error e' =>
      rw [hrequest] at hd
      obtain rfl := Except.error.inj hd
      exact Request.make_eq_error hrequest

/-- Nothing is found exactly if a response says so. -/
theorem Delivers.result_eq_notFound_iff (h : c.Delivers call v d) :
    (∃ text, d.result = .error (.notFound text)) ↔ d.IsMissing := by
  refine ⟨?_, Delivery.IsMissing.result_eq⟩
  rintro ⟨text, htext⟩
  cases d with
  | ok x => exact Delivery.isMissing_of_result htext
  | error e =>
      obtain ⟨_, rfl⟩ := h.unmade
      cases htext

/-- No delivery says of a version that it is not spoken. -/
theorem Delivers.not_isUnsupported (h : c.Delivers call v d) (he : d.result = .error e) :
    ¬ e.IsUnsupported := by
  cases d with
  | ok x => exact Delivery.result_not_isUnsupported he
  | error e' =>
      obtain ⟨text, rfl⟩ := h.unmade
      obtain rfl := Except.error.inj he
      rintro ⟨_, _, ⟨⟩⟩

end Controller

/-! ## Connections -/

/-- What a failure to fetch the version document is taken for. -/
def Version.blamed (version : Version) (e : Error) : Error :=
  match e with
  | .notFound _ => version.unspoken
  | other => other

theorem Version.blamed_eq {e : Error} (version : Version) (h : ∀ text, e ≠ .notFound text) :
    version.blamed e = e := by
  cases e with
  | notFound text => exact absurd rfl (h text)
  | _ => rfl

namespace Controller

/-- The call for the version document. -/
def versionCall (c : Controller) : Call :=
  .get (c.apiPath "version/") []

/-- The document is fetched with one call, and then read. -/
theorem fetchVersionInfo_apply (c : Controller) (t : Traffic) :
    c.fetchVersionInfo t =
      ((((c.send c.versionCall t).1.bind (document c.versionCall.path)).mapError
        c.version.blamed).bind (VersionInfo.reader.read c.version),
        (c.send c.versionCall t).2) := by
  have hfetch : c.fetchVersionInfo =
      ((c.sendForDocument c.versionCall).mapError c.version.blamed >>= fun value =>
        .ofExcept (VersionInfo.reader.read c.version value)) :=
    rfl
  rw [hfetch, Dialogue.bind_ofExcept_apply, Dialogue.mapError, sendForDocument,
    Dialogue.bind_ofExcept_apply]

end Controller

namespace Connector

/-- Whoever gives the credentials, if there is someone, always has some. -/
def IsAuthorized (k : Connector) : Prop :=
  ∀ authorizer, k.authorizer = some authorizer → ∀ number method url,
    ∃ header, authorizer number method url = .ok header

/-- **The delivery that ends the loop** of the call for the version document, with the traffic
before it. -/
abbrev Last (k : Connector) (transport : Transport) (t v : Traffic) (d : Delivery) : Prop :=
  (k.controller transport).LastDelivery (k.controller transport).versionCall t v d

/-- **The body of a response is read**: it holds a document, and that is one of a version. -/
def Reads (k : Connector) (transport : Transport) (bytes : List UInt8) (info : VersionInfo) :
    Prop :=
  ∃ value, Controller.document (k.controller transport).versionCall.path bytes = .ok value ∧
    VersionInfo.reader.read k.version value = .ok info

/-- **What connecting comes to**, with the traffic after it. -/
inductive Comes (k : Connector) (transport : Transport) (t : Traffic) :
    Except Error Connection → Traffic → Prop where
  /-- The version is too old to be asked for. -/
  | tooOld (hold : k.version < .v2_0) : Comes k transport t (.error k.version.unspoken) t
  /-- There is no address for the version document. -/
  | noAddress (hnew : ¬ k.version < .v2_0) {fault : EndpointFault}
      (h : (k.controller transport).endpoint (k.controller transport).versionCall.path =
        .error (.invalidEndpoint fault)) :
      Comes k transport t (.error (.invalidEndpoint fault)) t
  /-- The region has no such document. -/
  | missing (hnew : ¬ k.version < .v2_0) {v : Traffic} {d : Delivery}
      (hd : k.Last transport t v d) (hmissing : d.IsMissing) :
      Comes k transport t (.error k.version.unspoken) (v ++ d.events)
  /-- The request fails in another way. -/
  | failed (hnew : ¬ k.version < .v2_0) {v : Traffic} {d : Delivery} {e : Error}
      (hd : k.Last transport t v d) (hmissing : ¬ d.IsMissing) (he : d.result = .error e) :
      Comes k transport t (.error e) (v ++ d.events)
  /-- What the region answers is no document, or not one of a version. -/
  | unreadable (hnew : ¬ k.version < .v2_0) {v : Traffic} {d : Delivery} {bytes : List UInt8}
      {e : Error} (hd : k.Last transport t v d) (hbytes : d.result = .ok bytes)
      (hnone : ∀ info, ¬ k.Reads transport bytes info) (he : e.IsDeserialization) :
      Comes k transport t (.error e) (v ++ d.events)
  | connected (hnew : ¬ k.version < .v2_0) {v : Traffic} {d : Delivery} {bytes : List UInt8}
      {info : VersionInfo} (hd : k.Last transport t v d) (hbytes : d.result = .ok bytes)
      (hinfo : k.Reads transport bytes info) :
      Comes k transport t (.ok ⟨k.controller transport, info⟩) (v ++ d.events)

variable {k : Connector} {transport : Transport} {t v : Traffic} {d : Delivery}

/-- Nothing is sent for a version that is too old. -/
theorem connect_tooOld (hold : k.version < .v2_0) :
    k.connect transport t = (.error k.version.unspoken, t) := by
  rw [connect, if_pos hold]
  rfl

theorem connect_apply (hnew : ¬ k.version < .v2_0) (transport : Transport) (t : Traffic) :
    k.connect transport t =
      (((k.controller transport).fetchVersionInfo t).1.map (⟨k.controller transport, ·⟩),
        ((k.controller transport).fetchVersionInfo t).2) := by
  rw [connect, if_neg hnew]
  refine (Dialogue.bind_ofExcept_apply (k.controller transport).fetchVersionInfo
    (fun info => .ok (Connection.mk (k.controller transport) info)) t).trans ?_
  cases ((k.controller transport).fetchVersionInfo t).1 <;> rfl

/-- **All is decided by the last delivery.** -/
theorem connect_of_last (hnew : ¬ k.version < .v2_0)
    (hd : k.Last transport t v d) :
    k.connect transport t =
      (((((d.result.bind (Controller.document (k.controller transport).versionCall.path)).mapError
        k.version.blamed).bind (VersionInfo.reader.read k.version)).map
          (⟨k.controller transport, ·⟩)), v ++ d.events) := by
  rw [connect_apply hnew, Controller.fetchVersionInfo_apply, hd.send_eq]
  rfl

theorem connect_traffic (hnew : ¬ k.version < .v2_0) (hd : k.Last transport t v d) :
    (k.connect transport t).2 = v ++ d.events :=
  congrArg Prod.snd (connect_of_last hnew hd)

/-- If the document is missing, the version is not spoken. -/
theorem connect_missing (hnew : ¬ k.version < .v2_0) (hd : k.Last transport t v d)
    (hmissing : d.IsMissing) : (k.connect transport t).1 = .error k.version.unspoken := by
  obtain ⟨text, htext⟩ := hmissing.result_eq
  rw [connect_of_last hnew hd, htext]
  rfl

/-- Any other failure of the last delivery is that of the connection. -/
theorem connect_failed (hnew : ¬ k.version < .v2_0) (hd : k.Last transport t v d)
    (hmissing : ¬ d.IsMissing) {e : Error} (he : d.result = .error e) :
    (k.connect transport t).1 = .error e := by
  have hblamed : k.version.blamed e = e := by
    refine k.version.blamed_eq fun text heq => hmissing ?_
    exact hd.delivers.result_eq_notFound_iff.mp ⟨text, heq ▸ he⟩
  rw [connect_of_last hnew hd, he]
  exact congrArg Except.error hblamed

/-- A body that is not read is said to be at fault. -/
theorem connect_unreadable (hnew : ¬ k.version < .v2_0) (hd : k.Last transport t v d)
    {bytes : List UInt8} (hbytes : d.result = .ok bytes)
    (hnone : ∀ info, ¬ k.Reads transport bytes info) :
    ∃ e, (k.connect transport t).1 = .error e ∧ e.IsDeserialization := by
  rw [connect_of_last hnew hd, hbytes]
  simp only [Except.bind]
  cases hvalue : Controller.document (k.controller transport).versionCall.path bytes with
  | error e =>
      obtain ⟨fault, rfl⟩ := Controller.document_isDeserialization hvalue
      exact ⟨_, rfl, fault, rfl⟩
  | ok value =>
      simp only [Except.mapError]
      cases hinfo : VersionInfo.reader.read k.version value with
      | error e =>
          exact ⟨e, rfl, Kind.read_isDeserialization .versionInfo (Version.not_lt.mp hnew) hinfo⟩
      | ok info => exact absurd ⟨value, hvalue, hinfo⟩ (hnone info)

theorem connect_reads (hnew : ¬ k.version < .v2_0) (hd : k.Last transport t v d)
    {bytes : List UInt8} (hbytes : d.result = .ok bytes) {info : VersionInfo}
    (hinfo : k.Reads transport bytes info) :
    (k.connect transport t).1 = .ok ⟨k.controller transport, info⟩ := by
  obtain ⟨value, hvalue, hinfo⟩ := hinfo
  rw [connect_of_last hnew hd, hbytes]
  simp only [Except.bind, hvalue, Except.mapError, hinfo, Except.map]

theorem connect_noAddress (hnew : ¬ k.version < .v2_0) {e : Error}
    (h : (k.controller transport).endpoint (k.controller transport).versionCall.path = .error e) :
    k.connect transport t = (.error e, t) := by
  obtain ⟨fault, -, rfl⟩ := mapError_error h
  rw [connect_apply hnew, Controller.fetchVersionInfo_apply, Controller.send_of_no_address h]
  rfl

/-- With credentials there is a last delivery, unless there is no address. -/
theorem IsAuthorized.exists_last (h : k.IsAuthorized) {url : Url}
    (hurl : (k.controller transport).endpoint (k.controller transport).versionCall.path = .ok url)
    (t : Traffic) :
    ∃ v d, k.Last transport t v d := by
  have hauth : ∀ n, ∃ header,
      (k.controller transport).authorize n (k.controller transport).versionCall.method url =
        .ok header := by
    intro n
    unfold Controller.authorize
    cases hk : (k.controller transport).authorizer with
    | none => exact ⟨none, rfl⟩
    | some authorizer =>
        obtain ⟨header, hheader⟩ := h authorizer hk n .get url
        exact ⟨some header, congrArg (Except.map some) hheader⟩
  choose header hheader using hauth
  exact Controller.exists_lastDelivery hurl hheader t

theorem IsAuthorized.comes (h : k.IsAuthorized) (transport : Transport) (t : Traffic) :
    k.Comes transport t (k.connect transport t).1 (k.connect transport t).2 := by
  by_cases hnew : k.version < .v2_0
  · rw [connect_tooOld hnew]
    exact .tooOld hnew
  cases hurl : (k.controller transport).endpoint (k.controller transport).versionCall.path with
  | error e =>
      obtain ⟨fault, -, rfl⟩ := mapError_error hurl
      rw [connect_noAddress hnew hurl]
      exact .noAddress hnew hurl
  | ok url =>
      obtain ⟨v, d, hd⟩ := h.exists_last hurl t
      rw [connect_traffic hnew hd]
      -- In the order in which things can go wrong.
      cases hresult : d.result with
      | error e =>
          by_cases hmissing : d.IsMissing
          · rw [connect_missing hnew hd hmissing]
            exact .missing hnew hd hmissing
          · rw [connect_failed hnew hd hmissing hresult]
            exact .failed hnew hd hmissing hresult
      | ok bytes =>
          by_cases hreads : ∃ info, k.Reads transport bytes info
          · obtain ⟨info, hinfo⟩ := hreads
            rw [connect_reads hnew hd hresult hinfo]
            exact .connected hnew hd hresult hinfo
          · have hnone := not_exists.mp hreads
            obtain ⟨e, he, hfault⟩ := connect_unreadable hnew hd hresult hnone
            rw [he]
            exact .unreadable hnew hd hresult hnone hfault

/-! ## Which failure it is -/

namespace Comes

variable {result : Except Error Connection} {u : Traffic}

/-- Only two failures say that the version is not spoken, and they say it of that version. -/
theorem isUnsupported_iff (h : k.Comes transport t result u) :
    (∃ e, result = .error e ∧ e.IsUnsupported) ↔ k.version < .v2_0 ∨ ∃ v d,
      k.Last transport t v d ∧
        d.IsMissing := by
  -- A failure of another kind leaves neither alternative.
  have hother {v : Traffic} {d : Delivery} (hnew : ¬ k.version < .v2_0)
      (hd : k.Last transport t v d) (hmissing : ¬ d.IsMissing) : ¬ (k.version < .v2_0 ∨ ∃ v d,
        k.Last transport t v d ∧
          d.IsMissing) := by
    rintro (hold | ⟨v', d', hd', hmissing'⟩)
    · exact hnew hold
    · obtain ⟨-, rfl⟩ := hd.unique hd'
      exact hmissing hmissing'
  have hbody {d : Delivery} {bytes : List UInt8} (hd : d.result = .ok bytes) :
      ¬ d.IsMissing := by
    intro hmissing
    obtain ⟨text, htext⟩ := hmissing.result_eq
    cases hd.symm.trans htext
  have hunspoken : k.version.unspoken.IsUnsupported := ⟨_, _, rfl⟩
  cases h with
  | tooOld hold => exact iff_of_true ⟨_, rfl, hunspoken⟩ (.inl hold)
  | noAddress hnew h =>
      refine iff_of_false ?_ ?_
      · rintro ⟨_, ⟨⟩, _, _, ⟨⟩⟩
      · rintro (hold | ⟨v, d, hd, -⟩)
        · exact hnew hold
        · obtain ⟨url, -, hurl, -⟩ := hd.delivers
          cases h.symm.trans hurl
  | missing hnew hd hmissing =>
      exact iff_of_true ⟨_, rfl, hunspoken⟩ (.inr ⟨_, _, hd, hmissing⟩)
  | failed hnew hd hmissing he =>
      refine iff_of_false ?_ (hother hnew hd hmissing)
      rintro ⟨_, ⟨⟩, hunsupported⟩
      exact hd.delivers.not_isUnsupported he hunsupported
  | unreadable hnew hd hbytes _ he =>
      refine iff_of_false ?_ (hother hnew hd (hbody hbytes))
      rintro ⟨_, ⟨⟩, hunsupported⟩
      exact he.not_isUnsupported hunsupported
  | connected hnew hd hbytes _ =>
      refine iff_of_false ?_ (hother hnew hd (hbody hbytes))
      rintro ⟨_, ⟨⟩, _⟩

theorem eq_unspoken (h : k.Comes transport t result u) {e : Error} (he : result = .error e)
    (hunsupported : e.IsUnsupported) : e = k.version.unspoken := by
  cases h with
  | tooOld | missing => exact (Except.error.inj he).symm
  | noAddress =>
      obtain rfl := Except.error.inj he
      obtain ⟨_, _, ⟨⟩⟩ := hunsupported
  | failed _ hd _ hfailed =>
      obtain rfl := Except.error.inj he
      exact absurd hunsupported (hd.delivers.not_isUnsupported hfailed)
  | unreadable _ _ _ _ hfault =>
      obtain rfl := Except.error.inj he
      exact absurd hunsupported hfault.not_isUnsupported
  | connected => cases he

/-- A connection is made of the document in a response that reports success. -/
theorem of_connection (h : k.Comes transport t result u) {connection : Connection}
    (hconnection : result = .ok connection) :
    connection.controller = k.controller transport ∧ ∃ v request r,
      k.Last transport t v (.ok ⟨request, .response r⟩) ∧ 200 ≤ r.status ∧ r.status ≤ 299 ∧
      k.Reads transport (Controller.content r) connection.info := by
  cases h with
  | connected hnew hd hbytes hinfo =>
      obtain rfl := Except.ok.inj hconnection
      obtain ⟨request, r, rfl, hlow, hhigh, rfl⟩ := Controller.result_eq_ok hbytes
      exact ⟨rfl, _, request, r, hd, hlow, hhigh, hinfo⟩
  | _ => cases hconnection

end Comes

/-- **Version trouble is classified precisely**, and so is all other trouble. -/
structure Classified (k : Connector) (transport : Transport) (t : Traffic) : Prop where
  comes : k.Comes transport t (k.connect transport t).1 (k.connect transport t).2
  /-- The version is said not to be spoken if it is too old, and if the document is missing. -/
  unsupported_iff : (∃ e, (k.connect transport t).1 = .error e ∧ e.IsUnsupported) ↔
    k.version < .v2_0 ∨ ∃ v d, k.Last transport t v d ∧ d.IsMissing
  unspoken : ∀ typeName version,
    (k.connect transport t).1 = .error (.unsupportedVersion typeName version) →
    typeName = "controller" ∧ version = k.version
  /-- Nothing is sent for a version that is too old. -/
  tooOld : k.version < .v2_0 → k.connect transport t = (.error k.version.unspoken, t)
  noAddress : ¬ k.version < .v2_0 → ∀ e,
    (k.controller transport).endpoint (k.controller transport).versionCall.path = .error e →
    k.connect transport t = (.error e, t)
  /-- A failure that is not about a document keeps its own error. -/
  failed : ¬ k.version < .v2_0 → ∀ v d e, k.Last transport t v d → ¬ d.IsMissing →
    d.result = .error e → (k.connect transport t).1 = .error e
  /-- What is no document, or not one of a version, is said to be so. -/
  unreadable : ¬ k.version < .v2_0 → ∀ v d bytes, k.Last transport t v d → d.result = .ok bytes →
    (∀ info, ¬ k.Reads transport bytes info) →
    ∃ e, (k.connect transport t).1 = .error e ∧ e.IsDeserialization
  /-- What is one makes a connection. -/
  connects : ¬ k.version < .v2_0 → ∀ v d bytes info, k.Last transport t v d →
    d.result = .ok bytes → k.Reads transport bytes info →
    (k.connect transport t).1 = .ok ⟨k.controller transport, info⟩
  connected : ∀ connection, (k.connect transport t).1 = .ok connection →
    connection.controller = k.controller transport ∧ ∃ v request r,
      k.Last transport t v (.ok ⟨request, .response r⟩) ∧ 200 ≤ r.status ∧ r.status ≤ 299 ∧
      k.Reads transport (Controller.content r) connection.info

/-- **Connecting classifies**, whatever the region does, if there are credentials for every request
or none are wanted. -/
theorem connect_classified (h : k.IsAuthorized) (transport : Transport) (t : Traffic) :
    k.Classified transport t where
  comes := h.comes transport t
  unsupported_iff := (h.comes transport t).isUnsupported_iff
  unspoken _ _ he := Error.unsupportedVersion.inj ((h.comes transport t).eq_unspoken he ⟨_, _, rfl⟩)
  tooOld := connect_tooOld
  noAddress hnew _ := connect_noAddress hnew
  failed hnew _ _ _ hd hmissing := connect_failed hnew hd hmissing
  unreadable hnew _ _ _ hd := connect_unreadable hnew hd
  connects hnew _ _ _ _ hd hbytes := connect_reads hnew hd hbytes
  connected _ := (h.comes transport t).of_connection

/-- A connector with credentials, for a region that is busy at first and then knows nothing. -/
theorem connect_classified_unknown :
    let k : Connector := ⟨⟨"http", some ⟨"", "", .name "maas.test", none⟩, .segments [""], none,
      none⟩, .v2_0, .standard, some (.fixed "OAuth secret"), .plain⟩
    let transport : Transport := fun past _ =>
      if past.isEmpty then .timedOut else .response ⟨404, none, []⟩
    k.IsAuthorized ∧ k.Classified transport [] ∧
      (∃ v d, k.Last transport [] v d ∧ d.IsMissing) ∧
      (k.connect transport []).1 = .error k.version.unspoken := by
  intro k transport
  have hauth : k.IsAuthorized := by
    rintro _ ⟨⟩ number method url
    exact ⟨"OAuth secret", rfl⟩
  have hclassified : k.Classified transport [] := connect_classified hauth transport []
  have hunspoken : (k.connect transport []).1 = .error k.version.unspoken :=
    verdict_error.mp (by decide +kernel)
  refine ⟨hauth, hclassified, ?_, hunspoken⟩
  exact (hclassified.unsupported_iff.mp ⟨_, hunspoken, _, _, rfl⟩).resolve_left (by decide)

end Connector

end RegionClient

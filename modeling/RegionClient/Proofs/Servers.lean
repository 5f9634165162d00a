import RegionClient.Proofs.ApiPaths
import RegionClient.Proofs.Operations

set_option autoImplicit false

/-! # Where requests go

A controller has one server, that of its address, but an address that the region reported is read
relative to its own and may name another server. Nothing else leads a request away, except that
the path of a file does so if the path of the address begins with two slashes.

Main statement: `performAll_servers`.
-/

namespace RegionClient

/-! ## Reported addresses -/

/-- **The addresses that the region reported and an operation uses** which begins after some
traffic: those of its arguments, and for a device on a machine those in what the transport answered
to its calls. -/
inductive Operation.Uses (c : Controller) (t : Traffic) : Operation → String → Prop where
  | deploy (m : Machine) (order : Deployment) : Uses c t (.deploy m order) m.resourceUri
  | setOwnerData (m : Machine) (data : SortedMap String) :
      Uses c t (.setOwnerData m data) m.resourceUri
  | deleteDevice (d : Device) : Uses c t (.deleteDevice d) d.resourceUri
  | addInterface (d : Device) (order : NewInterface) :
      Uses c t (.addInterface d order) (d.resourceUri ++ "interfaces/")
  | updateInterface (i : Interface) (change : InterfaceChange) :
      Uses c t (.updateInterface i change) i.resourceUri
  | linkSubnet (i : Interface) (order : NewLink) : Uses c t (.linkSubnet i order) i.resourceUri
  | unlinkSubnet (i : Interface) (subnet : Subnet) : Uses c t (.unlinkSubnet i subnet) i.resourceUri
  | deleteFile (f : StoredFile) : Uses c t (.deleteFile f) f.resourceUri
  | contentOf (f : StoredFile) : Uses c t (.contentOf f) f.anonUri
  /-- The device that was made, to delete it. -/
  | newDevice (m : Machine) (order : NewMachineDevice) {vlan : Int64} {d : Device} {u v : Traffic}
      {e : Error} (hvlan : order.effectiveVlanId? = some vlan)
      (h : c.Answered (order.creation c m) Device.reader.read t u d)
      (hplaced : c.Placed order vlan d u (.error e) v) :
      Uses c t (.createMachineDevice m order) d.resourceUri
  /-- Its interface, to name it. -/
  | newInterface (m : Machine) (order : NewMachineDevice) {d : Device} {i : Interface} {u : Traffic}
      (h : c.Answered (order.creation c m) Device.reader.read t u d) (hd : d.interfaces = [i]) :
      Uses c t (.createMachineDevice m order) i.resourceUri
  /-- The interface with its name, to link it. -/
  | named (m : Machine) (order : NewMachineDevice) {vlan : Int64} {d : Device}
      {i named : Interface} {s : Subnet} {u v : Traffic}
      (hvlan : order.effectiveVlanId? = some vlan) (hsubnet : order.subnet = some s)
      (h : c.Answered (order.creation c m) Device.reader.read t u d) (hd : d.interfaces = [i])
      (hnamed : c.Answered (order.naming vlan i) Interface.reader.read u v named)
      (hid : named.id = i.id) : Uses c t (.createMachineDevice m order) named.resourceUri

/-- The parts of the interface that a controller asks for. -/
def Controller.resources : List String :=
  ["version/", "boot-resources/", "fabrics/", "spaces/", "static-routes/", "zones/", "machines/",
   "devices/", "files/"]

/-- A call is for a part of the interface, for a file, or for an address that was reported. -/
theorem Operation.Makes.path_cases {c : Controller} {t : Traffic} {op : Operation} {call : Call}
    (h : op.Makes c t call) : (∃ resource ∈ Controller.resources, call.path = c.apiPath resource) ∨
      (∃ filename, op = .getFile filename ∧ c.filePath filename = .ok call.path) ∨
      op.Uses c t call.path := by
  cases h with
  | versionInfo => exact .inl ⟨_, by decide, rfl⟩
  | bootImages => exact .inl ⟨_, by decide, rfl⟩
  | fabrics => exact .inl ⟨_, by decide, rfl⟩
  | spaces => exact .inl ⟨_, by decide, rfl⟩
  | staticRoutes => exact .inl ⟨_, by decide, rfl⟩
  | zones => exact .inl ⟨_, by decide, rfl⟩
  | machines filter => exact .inl ⟨_, by decide, rfl⟩
  | allocate constraints => exact .inl ⟨_, by decide, rfl⟩
  | release order h => exact .inl ⟨_, by decide, rfl⟩
  | deploy m order => exact .inr (.inr (.deploy m order))
  | setOwnerData m data => exact .inr (.inr (.setOwnerData m data))
  | devices filter => exact .inl ⟨_, by decide, rfl⟩
  | createDevice order => exact .inl ⟨_, by decide, rfl⟩
  | creation m order => exact .inl ⟨_, by decide, rfl⟩
  | placing m order hvlan h hcall =>
      cases hcall with
      | naming hd => exact .inr (.inr (.newInterface m order h hd))
      | linking hd hsubnet hnamed hid =>
          exact .inr (.inr (.named m order hvlan hsubnet h hd hnamed hid))
  | deletion m order hvlan h hplaced => exact .inr (.inr (.newDevice m order hvlan h hplaced))
  | deleteDevice d => exact .inr (.inr (.deleteDevice d))
  | addInterface d order => exact .inr (.inr (.addInterface d order))
  | updateInterface i change hchange h =>
      obtain rfl := Option.some.inj h
      exact .inr (.inr (.updateInterface i change))
  | linkSubnet i order h =>
      obtain rfl := Option.some.inj h
      exact .inr (.inr (.linkSubnet i order))
  | unlinkSubnet i subnet h =>
      obtain ⟨found, -, rfl⟩ := Option.map_eq_some_iff.mp h
      exact .inr (.inr (.unlinkSubnet i subnet))
  | files beginning => exact .inl ⟨_, by decide, rfl⟩
  | getFile filename h => exact .inr (.inl ⟨filename, rfl, h⟩)
  | addFile disk upload hsource hcontent => exact .inl ⟨_, by decide, rfl⟩
  | deleteFile f => exact .inr (.inr (.deleteFile f))
  | contentOf f h => exact .inr (.inr (.contentOf f))

namespace Controller

variable {c : Controller}

/-! ## Requests -/

/-- A request is for a scheme of the web, and goes to the server of the address that its path leads
to. -/
theorem Serves.server_eq {call : Call} {x : Exchange} (h : c.Serves call x) :
    ∃ url, c.endpoint call.path = .ok url ∧ (url.scheme = "http" ∨ url.scheme = "https") ∧
      x.request.url.server = url.server := by
  obtain ⟨url, header, hurl, hrequest⟩ := h
  obtain ⟨-, hscheme, hx⟩ := Request.make_eq_ok hrequest
  have htarget : (Request.target url call.query).scheme = url.scheme ∧
      (Request.target url call.query).server = url.server := by
    unfold Request.target
    split
    · exact ⟨rfl, Url.withoutUserInfo_server url⟩
    · exact ⟨Url.addQuery_scheme url call.query,
        (Url.withoutUserInfo_server _).trans (Url.addQuery_server url call.query)⟩
  rw [htarget.1] at hscheme
  refine ⟨url, hurl, hscheme, ?_⟩
  rw [hx]
  exact htarget.2

theorem endpoint_eq_ok {path : String} {url : Url} :
    c.endpoint path = .ok url ↔ c.address.join c.domains path = .ok url :=
  mapError_ok

/-- A request for a path that names no server goes to that of the controller. -/
theorem Serves.server_eq_address {call : Call} {x : Exchange} (h : c.Serves call x)
    (hname : c.address.namesServer call.path = false) :
    x.request.url.server = c.address.server := by
  obtain ⟨url, hurl, hscheme, hserver⟩ := h.server_eq
  rw [hserver]
  exact Url.join_server (endpoint_eq_ok.mp hurl) hname (Url.ne_file_of_web hscheme)

/-! ## Addresses of controllers -/

/-- The segments of the address that a connector takes are names, if its scheme is one of the
web. -/
theorem forAddress_names {domains : DomainForm} {address : String} {k : Connector}
    (hk : Connector.forAddress domains address = .ok k)
    (hscheme : k.address.scheme = "http" ∨ k.address.scheme = "https") :
    ∃ names, k.address.path = .segments names ∧ ∀ n ∈ names, UrlPath.IsName n := by
  rw [Connector.forAddress] at hk
  cases hparse : Url.parse domains address with
  | error fault =>
      rw [hparse] at hk
      cases hk
  | ok url =>
      rw [hparse] at hk
      obtain rfl := Except.ok.inj hk
      obtain ⟨names, hpath, hnames⟩ :=
        Url.parse_names hparse (Url.isSpecial_of_web hscheme) (Url.ne_file_of_web hscheme)
      exact UrlPath.closed_names hpath hnames

/-- A request for the path of a file goes to the server of the controller, unless the path of its
address begins with two slashes. -/
theorem Serves.server_eq_file {domains : DomainForm} {address : String} {k : Connector}
    (hk : Connector.forAddress domains address = .ok k) (hc : c.address = k.address)
    (hstart : ∀ n rest, c.address.path ≠ .segments ("" :: n :: rest)) {call : Call} {x : Exchange}
    (h : c.Serves call x) {filename : String} (hpath : c.filePath filename = .ok call.path) :
    x.request.url.server = c.address.server := by
  obtain ⟨url, hurl, hscheme, -⟩ := h.server_eq
  -- The path has no scheme, so that of the address is one of the web.
  rw [Url.join_scheme (endpoint_eq_ok.mp hurl) (scheme_filePath hpath)] at hscheme
  have hnames := forAddress_names hk (hc ▸ hscheme)
  rw [← hc] at hnames
  obtain ⟨names, hsegments, hall⟩ := hnames
  refine h.server_eq_address ?_
  refine namesServer_filePath _ hsegments (Url.ne_file_of_web hscheme)
    (fun n hn => (hall n hn).plain) ?_ hpath
  rintro n rest rfl
  exact hstart n rest hsegments

/-! ## Runs -/

variable (c) in
/-- **Where a request goes** that is handed over by an operation which begins after some traffic. -/
inductive GoesTo (op : Operation) (t : Traffic) (x : Exchange) : Prop where
  /-- To the server of the controller. -/
  | home (h : x.request.url.server = c.address.server) : GoesTo op t x
  /-- To the server that an address names which the region reported. -/
  | reported {uri : String} {url : Url} (huses : op.Uses c t uri)
      (hname : c.address.namesServer uri = true) (hurl : c.endpoint uri = .ok url)
      (h : x.request.url.server = url.server) : GoesTo op t x
  /-- Nothing is said about a file if the path of the address begins with two slashes. -/
  | file {filename n : String} {rest : List String} (hop : op = .getFile filename)
      (hpath : c.address.path = .segments ("" :: n :: rest)) : GoesTo op t x

/-- A request that serves a call of an operation goes where the path of the call leads. -/
theorem Serves.goesTo {domains : DomainForm} {address : String} {k : Connector}
    (hk : Connector.forAddress domains address = .ok k) (hc : c.address = k.address)
    {op : Operation} {t : Traffic} {call : Call} (hcall : op.Makes c t call) {x : Exchange} (h : c.Serves call x) :
    c.GoesTo op t x := by
  rcases hcall.path_cases with ⟨resource, -, hpath⟩ | ⟨filename, hop, hpath⟩ | huses
  · refine .home (h.server_eq_address ?_)
    rw [hpath]
    exact namesServer_apiPath c.address c resource
  · by_cases hstart : ∃ n rest, c.address.path = .segments ("" :: n :: rest)
    · obtain ⟨n, rest, hstart⟩ := hstart
      exact .file hop hstart
    · refine .home (h.server_eq_file hk hc ?_ hpath)
      intro n rest heq
      exact hstart ⟨n, rest, heq⟩
  -- Only an address that was reported can name a server.
  · cases hname : c.address.namesServer call.path with
    | false => exact .home (h.server_eq_address hname)
    | true =>
        obtain ⟨url, hurl, -, hserver⟩ := h.server_eq
        exact .reported huses hname hurl hserver

/-- **Every request of a run goes to the server of the controller**, unless an address that the
region reported, and that the operation uses which hands the request over, names another one. -/
theorem performAll_servers {domains : DomainForm} {address : String} {k : Connector}
    (hk : Connector.forAddress domains address = .ok k) (hc : c.address = k.address)
    (ops : List Operation) (t : Traffic) :
    ∃ new, Operation.performAll c ops t = t ++ new ∧ ∀ x ∈ Traffic.exchanges new,
      ∃ op u, Operation.Finds c ops t op u ∧ op.HandsOver c u x ∧ c.GoesTo op u x := by
  obtain ⟨new, hnew, hops⟩ := c.performAll_exchanges ops t
  refine ⟨new, hnew, ?_⟩
  intro x hx
  obtain ⟨op, u, hfinds, hop⟩ := hops x hx
  obtain ⟨-, call, hcall, h⟩ := hop.serves
  exact ⟨op, u, hfinds, hop, h.goesTo hk hc hcall⟩

end Controller

/-- A file whose public address is on another server. -/
def StoredFile.elsewhere : StoredFile :=
  ⟨"/MAAS/api/2.0/files/f/", "f", "http://other.test/f", none⟩

/-- Such a file is fetched from there, with the credentials for the region. -/
theorem Controller.contentOf_elsewhere :
    let c := Controller.plain fun _ _ => .response ⟨200, none, []⟩
    (Connector.forAddress .plain "http://maas.test/MAAS/").map Connector.address = .ok c.address ∧
      ∃ x ∈ Traffic.exchanges ((Operation.contentOf .elsewhere).perform c []).2,
        x.request.url.server ≠ c.address.server ∧ x.request.authorization = some "1" := by
  decide +kernel

theorem Controller.performAll_servers_plain :
    let c := Controller.plain .busyAtFirst
    let k : Connector := ⟨c.address, .v2_0, .standard, none, .plain⟩
    Connector.forAddress .plain "http://maas.test/MAAS/" = .ok k ∧ c.address = k.address ∧
      let ops : List Operation := [.zones, .contentOf .elsewhere]
      ∃ new, Operation.performAll c ops [] = [] ++ new ∧ ∀ x ∈ Traffic.exchanges new,
        ∃ op u, Operation.Finds c ops [] op u ∧ op.HandsOver c u x ∧ c.GoesTo op u x := by
  intro c k
  have hparse : Url.parse .plain "http://maas.test/MAAS/" = .ok c.address := by decide +kernel
  have hk : Connector.forAddress .plain "http://maas.test/MAAS/" = .ok k := by
    rw [Connector.forAddress, hparse]
    rfl
  exact ⟨hk, rfl, performAll_servers hk rfl _ _⟩

end RegionClient

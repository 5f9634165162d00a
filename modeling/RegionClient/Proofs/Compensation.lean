import RegionClient.Controller.Devices
import RegionClient.Proofs.Atomicity

set_option autoImplicit false

/-! # New devices are complete or deleted again

To make a device that belongs to a machine takes up to three calls: the device itself is made, its
interface gets a name and a virtual network, and it is linked to the subnet if there is one. A
device that was made, but whose interface could not be placed, is deleted again.

Main statement: `createMachineDevice_compensated`.
-/

namespace RegionClient

/-! ## Calls -/

namespace NewMachineDevice

/-- The call that makes the device. -/
def creation (order : NewMachineDevice) (c : Controller) (m : Machine) : Call :=
  .post (c.apiPath "devices/") []
    ((if order.hostname = "" then [] else [("hostname", order.hostname)]) ++
      [("mac_addresses", order.macAddress), ("parent", m.systemId.text)])

/-- The call that gives its interface the name, on a virtual network. -/
def naming (order : NewMachineDevice) (vlan : Int64) (i : Interface) : Call :=
  ⟨.put, i.resourceUri, [],
    .form [("name", order.interfaceName), ("vlan", Numeral.ofInt vlan.toInt)]⟩

/-- The call that links the interface to the subnet. -/
def linking (s : Subnet) (i : Interface) : Call :=
  .post i.resourceUri [("op", "link_subnet")]
    [("mode", "STATIC"), ("subnet", Numeral.ofInt s.id.toInt)]

end NewMachineDevice

/-- The call that deletes a device. -/
def Device.deletion (d : Device) : Call :=
  ⟨.delete, d.resourceUri, [], .empty⟩

namespace Controller

variable (c : Controller) (m : Machine) (order : NewMachineDevice)

/-! ## The statement -/

/-- **How the interface of a new device is placed**: what comes of it, and the traffic after. -/
inductive Placed (vlan : Int64) (d : Device) (t : Traffic) :
    Except Error Interface → Traffic → Prop where
  /-- There is not exactly one interface, and nothing is sent. -/
  | ambiguous (h : d.interfaces.length ≠ 1) :
      Placed vlan d t (.error (.cannotComplete
        ("expected new device to have one interface, found " ++
          Numeral.ofNat d.interfaces.length))) t
  /-- The interface does not get its name and its virtual network. -/
  | unnamed {i : Interface} {e : Error} {u : Traffic} (hd : d.interfaces = [i])
      (h : c.sendForInterface (order.naming vlan i) i t = (.error e, i, u)) :
      Placed vlan d t (.error e) u
  /-- It does, and that is all without a subnet. -/
  | named {i named : Interface} {u : Traffic} (hd : d.interfaces = [i])
      (hsubnet : order.subnet = none)
      (h : c.Answered (order.naming vlan i) Interface.reader.read t u named)
      (hid : named.id = i.id) : Placed vlan d t (.ok named) u
  /-- It does, and is not linked to the subnet. -/
  | unlinked {i named : Interface} {s : Subnet} {e : Error} {u v : Traffic}
      (hd : d.interfaces = [i]) (hsubnet : order.subnet = some s)
      (h : c.Answered (order.naming vlan i) Interface.reader.read t u named)
      (hid : named.id = i.id)
      (hlink : c.sendForInterface (NewMachineDevice.linking s named) named u =
        (.error e, named, v)) :
      Placed vlan d t (.error e) v
  /-- It does, and is linked to the subnet. -/
  | linked {i named linked : Interface} {s : Subnet} {u v : Traffic}
      (hd : d.interfaces = [i]) (hsubnet : order.subnet = some s)
      (h : c.Answered (order.naming vlan i) Interface.reader.read t u named)
      (hid : named.id = i.id)
      (hlink : c.Answered (NewMachineDevice.linking s named) Interface.reader.read u v linked)
      (hid' : linked.id = named.id) : Placed vlan d t (.ok linked) v

/-- The calls by which the interface of a new device is placed. -/
inductive Placing (vlan : Int64) (d : Device) (t : Traffic) : Call → Prop where
  /-- The one interface gets its name and its virtual network. -/
  | naming {i : Interface} (hd : d.interfaces = [i]) : Placing vlan d t (order.naming vlan i)
  /-- It is linked to the subnet after that. -/
  | linking {i named : Interface} {s : Subnet} {u : Traffic} (hd : d.interfaces = [i])
      (hsubnet : order.subnet = some s)
      (h : c.Answered (order.naming vlan i) Interface.reader.read t u named)
      (hid : named.id = i.id) : Placing vlan d t (NewMachineDevice.linking s named)

/-- **A device is deleted again**: all that is sent serves the deletion, and its first request is
handed over if there are an address and credentials for it, and it can be made. -/
def Deletes (d : Device) (t u : Traffic) : Prop :=
  c.Extends (· = d.deletion) t u ∧ ∀ url header request,
    c.endpoint d.resourceUri = .ok url →
    c.authorize (Traffic.count t + 1) .delete url = .ok header →
    c.request d.deletion url header = .ok request →
    ∃ outcome rest, u = t ++ (.begun :: .sent ⟨request, outcome⟩ :: rest)

/-- **A new device is complete, or deleted again.** -/
structure Compensated (t : Traffic) : Prop where
  /-- An order that does not pass its check is rejected before anything is sent. -/
  rejected : ∀ r, order.validate = .error r →
    c.createMachineDevice m order t = (.error (.notValid r), t)
  /-- If there is no device to read after its creation, that is the error, and nothing else is
  sent. -/
  notCreated : ∀ e u, order.validate = .ok () →
    c.sendAndRead (order.creation c m) Device.reader.read t = (.error e, u) →
    c.createMachineDevice m order t = (.error e, u) ∧ c.Extends (· = order.creation c m) t u
  /-- If there is one, its interface is placed and the device is complete, or that fails and the
  device is deleted, which does not change the error. -/
  created : ∀ d u, order.validate = .ok () →
    c.sendAndRead (order.creation c m) Device.reader.read t = (.ok d, u) →
    c.Answered (order.creation c m) Device.reader.read t u d ∧
    ∃ vlan r v, order.effectiveVlanId? = some vlan ∧
      (∀ s, order.subnet = some s → s.vlan.id = vlan) ∧
      c.Placed order vlan d u r v ∧ c.Extends (fun call => call.method ≠ .delete) t v ∧
      match r with
      | .ok placed => (∃ i, d.interfaces = [i] ∧ placed.id = i.id) ∧
          c.createMachineDevice m order t = (.ok { d with interfaces := [placed] }, v)
      | .error e => ∃ w, c.Deletes d v w ∧ c.createMachineDevice m order t = (.error e, w)

variable {c m order}

/-! ## Placing the interface -/

section

variable {vlan : Int64} {d : Device} {t u : Traffic} {r : Except Error Interface}

/-- The interface stays the one it is. -/
theorem Placed.id_eq (h : c.Placed order vlan d t r u) {placed : Interface} (hr : r = .ok placed) :
    ∃ i, d.interfaces = [i] ∧ placed.id = i.id := by
  cases h with
  | ambiguous h => cases hr
  | unnamed hd h => cases hr
  | named hd hsubnet h hid =>
      obtain rfl := Except.ok.inj hr
      exact ⟨_, hd, hid⟩
  | unlinked hd hsubnet h hid hlink => cases hr
  | linked hd hsubnet h hid hlink hid' =>
      obtain rfl := Except.ok.inj hr
      exact ⟨_, hd, hid'.trans hid⟩

/-- Nothing is sent but the calls that place the interface. -/
theorem Placed.extends (h : c.Placed order vlan d t r u) :
    c.Extends (c.Placing order vlan d t) t u := by
  cases h with
  | ambiguous h => exact .refl t
  | @unnamed i _ _ hd h =>
      have hsent := c.sendForInterface_extends (order.naming vlan i) i t
      rw [h] at hsent
      exact hsent.of_eq (.naming hd)
  | named hd hsubnet h hid => exact h.extends.of_eq (.naming hd)
  | @unlinked i named s _ v _ hd hsubnet h hid hlink =>
      have hsent := c.sendForInterface_extends (NewMachineDevice.linking s named) named v
      rw [hlink] at hsent
      exact (h.extends.of_eq (.naming hd)).trans (hsent.of_eq (.linking hd hsubnet h hid))
  | linked hd hsubnet h hid hlink hid' =>
      exact (h.extends.of_eq (.naming hd)).trans (hlink.extends.of_eq (.linking hd hsubnet h hid))

/-- Nothing is deleted while the interface is placed. -/
theorem Placing.method_ne {call : Call} (h : c.Placing order vlan d t call) :
    call.method ≠ .delete := by
  cases h with
  | naming hd => exact nofun
  | linking hd hsubnet h hid => exact nofun

/-- The change that an order wants is not empty. -/
theorem updateInterface_naming (vlan : Int64) (hname : order.interfaceName ≠ "")
    (i : Interface) (t : Traffic) :
    c.updateInterface ⟨order.interfaceName, "", some vlan⟩ i t =
      c.sendForInterface (order.naming vlan i) i t := by
  have hchange : (InterfaceChange.mk order.interfaceName "" (some vlan)).isEmpty = false := by
    simp [InterfaceChange.isEmpty]
  have hparameters : (InterfaceChange.mk order.interfaceName "" (some vlan)).parameters =
      [("name", order.interfaceName), ("vlan", Numeral.ofInt vlan.toInt)] := by
    simp [InterfaceChange.parameters, Parameters.nonempty, Parameters.optional, hname]
  rw [c.updateInterface_apply hchange, hparameters]
  rfl

/-- A link to a subnet in static mode passes its check. -/
theorem linkSubnet_static (s : Subnet) (i : Interface) (t : Traffic) :
    c.linkSubnet (.toSubnet .static s) i t =
      c.sendForInterface (NewMachineDevice.linking s i) i t := by
  have hmode : String.ofList (LinkMode.static.text.toList.map Char.toUpper) = "STATIC" := by
    decide
  have hparameters : (NewLink.toSubnet .static s).parameters =
      [("mode", "STATIC"), ("subnet", Numeral.ofInt s.id.toInt)] := by
    rw [NewLink.parameters, NewLink.toSubnet, hmode]
    rfl
  rw [c.linkSubnet_apply rfl, hparameters]
  rfl

/-- To configure the one interface of a device is to place it. -/
theorem configureInterface_placed (hname : order.interfaceName ≠ "")
    (hvlan : order.effectiveVlanId? = some vlan) {i : Interface} (hd : d.interfaces = [i])
    (t : Traffic) :
    (∃ e i' u, c.configureInterface order i t = (.error e, i', u) ∧
      c.Placed order vlan d t (.error e) u) ∨
    ∃ i' u, c.configureInterface order i t = (.ok (), i', u) ∧
      c.Placed order vlan d t (.ok i') u := by
  have hnaming := updateInterface_naming (c := c) vlan hname i t
  rw [configureInterface, hvlan]
  -- The second step begins with the interface and the traffic that the first one leaves.
  rcases c.sendForInterface_atomic (order.naming vlan i) i t with
    ⟨e, u, h⟩ | ⟨_, named, u, h, hanswered, hid⟩
  · rw [h] at hnaming
    exact .inl ⟨e, i, u, InPlace.bind_error hnaming, .unnamed hd h⟩
  · rw [h] at hnaming
    rw [InPlace.bind_ok hnaming]
    cases hsubnet : order.subnet with
    | none => exact .inr ⟨named, u, rfl, .named hd hsubnet hanswered hid⟩
    | some s =>
        have hlink := linkSubnet_static (c := c) s named u
        rcases c.sendForInterface_atomic (NewMachineDevice.linking s named) named u with
          ⟨e, v, h'⟩ | ⟨_, linked, v, h', hanswered', hid'⟩
        · exact .inl ⟨e, named, v, hlink.trans h', .unlinked hd hsubnet hanswered hid h'⟩
        · exact .inr ⟨linked, v, hlink.trans h', .linked hd hsubnet hanswered hid hanswered' hid'⟩

/-- To configure a device is to place its interface; the device keeps its address in any case. -/
theorem configureDevice_placed (hname : order.interfaceName ≠ "")
    (hvlan : order.effectiveVlanId? = some vlan) (d : Device) (t : Traffic) :
    (∃ e d' u, c.configureDevice order d t = (.error e, d', u) ∧ d'.resourceUri = d.resourceUri ∧
      c.Placed order vlan d t (.error e) u) ∨
    ∃ placed u, c.configureDevice order d t = (.ok (), { d with interfaces := [placed] }, u) ∧
      c.Placed order vlan d t (.ok placed) u := by
  rw [configureDevice, InPlace.value_bind]
  -- Whichever interface is put back, the address of the device stays.
  match hd : d.interfaces with
  | [i] =>
      rcases configureInterface_placed hname hvlan hd t with
        ⟨e, i', u, h, hplaced⟩ | ⟨placed, u, h, hplaced⟩
      · exact .inl ⟨e, _, u, InPlace.onPart_apply h, rfl, hplaced⟩
      · exact .inr ⟨placed, u, InPlace.onPart_apply h, hplaced⟩
  | [] =>
      refine .inl ⟨_, d, t, ?_, rfl, .ambiguous (by simp [hd])⟩
      rw [hd]
      rfl
  | i :: i' :: rest =>
      refine .inl ⟨_, d, t, ?_, rfl, .ambiguous (by simp [hd])⟩
      rw [hd]
      rfl

/-! ## The device -/

/-- A machine has a system id, and an order that passes its check a hardware address, so both are
sent. -/
theorem createDevice_apply (m : Machine) (hmac : order.macAddress ≠ "") (t : Traffic) :
    c.createDevice ⟨order.hostname, [order.macAddress], "", m.systemId.text⟩ t =
      c.sendAndRead (order.creation c m) Device.reader.read t := by
  have hparent : m.systemId.text ≠ "" := m.systemId.text_ne_empty
  have hvalid : (NewDevice.mk order.hostname [order.macAddress] "" m.systemId.text).validate =
      .ok () := by
    simp [NewDevice.validate, hmac]
  have hparameters :
      (NewDevice.mk order.hostname [order.macAddress] "" m.systemId.text).parameters =
      (if order.hostname = "" then [] else [("hostname", order.hostname)]) ++
        [("mac_addresses", order.macAddress), ("parent", m.systemId.text)] := by
    simp [NewDevice.parameters, Parameters.nonempty, Parameters.each, hmac, hparent]
  rw [createDevice, hvalid, Dialogue.bind_ok (Dialogue.check_ok _ t), hparameters]
  rfl

/-- To make a device is to create it, and to configure it as the new device it is. -/
theorem createMachineDevice_apply (m : Machine) (hvalid : order.validate = .ok ()) (t : Traffic) :
    c.createMachineDevice m order t =
      (c.sendAndRead (order.creation c m) Device.reader.read >>= fun d =>
        (c.configureDevice order).onNew d c.deleteDevice) t := by
  obtain ⟨-, hmac, -⟩ := NewMachineDevice.validate_eq_ok hvalid
  have hcreate := createDevice_apply (c := c) m hmac t
  rw [createMachineDevice, hvalid, Dialogue.bind_ok (Dialogue.check_ok _ t)]
  rcases h : c.sendAndRead (order.creation c m) Device.reader.read t with ⟨e | d, u⟩
  · rw [Dialogue.bind_error h, Dialogue.bind_error (hcreate.trans h)]
  · rw [Dialogue.bind_ok h, Dialogue.bind_ok (hcreate.trans h)]

/-- To delete a device is to send its deletion. -/
theorem delete_deletes (d : Device) (t : Traffic) : c.Deletes d t (c.delete d.resourceUri t).2 := by
  rw [delete_eq]
  refine ⟨c.send_extends d.deletion t, ?_⟩
  intro url header request hurl hauth hrequest
  exact send_begins hurl hauth hrequest

end

/-- **Every device on a machine is complete, or deleted again.** -/
theorem createMachineDevice_compensated (c : Controller) (m : Machine) (order : NewMachineDevice)
    (t : Traffic) : c.Compensated m order t := by
  refine ⟨?_, ?_, ?_⟩
  · intro r hr
    rw [createMachineDevice, hr]
    exact Dialogue.bind_error (Dialogue.check_error r t)
  · intro e u hvalid hcreate
    have hsent := c.sendAndRead_extends (order.creation c m) Device.reader.read t
    rw [hcreate] at hsent
    refine ⟨?_, hsent⟩
    rw [createMachineDevice_apply m hvalid, Dialogue.bind_error hcreate]
  · intro d u hvalid hcreate
    have hanswered := sendAndRead_ok hcreate
    refine ⟨hanswered, ?_⟩
    obtain ⟨hname, -, hnetwork⟩ := NewMachineDevice.validate_eq_ok hvalid
    obtain ⟨vlan, hvlan, hsubnet⟩ := NewMachineDevice.validateNetwork_eq_ok hnetwork
    have hpost : (order.creation c m).method ≠ .delete := nofun
    have hcreation : c.Extends (fun call => call.method ≠ .delete) t u :=
      hanswered.extends.of_eq hpost
    -- Neither its creation nor its placing deletes anything, whatever comes of the latter.
    have hother : ∀ r v, c.Placed order vlan d u r v →
        c.Extends (fun call => call.method ≠ .delete) t v :=
      fun r v h => hcreation.trans (h.extends.mono fun _ => Placing.method_ne)
    have hrun := createMachineDevice_apply (c := c) m hvalid t
    rw [Dialogue.bind_ok hcreate] at hrun
    rcases configureDevice_placed (c := c) hname hvlan d u with
      ⟨e, d', v, h, huri, hplaced⟩ | ⟨placed, v, h, hplaced⟩
    · refine ⟨vlan, .error e, v, hvlan, hsubnet, hplaced, hother _ v hplaced, ?_⟩
      -- The device that is deleted is the one that was left, at the address of the one created.
      rw [InPlace.onNew_error h, deleteDevice, huri] at hrun
      exact ⟨_, delete_deletes d v, hrun⟩
    · refine ⟨vlan, .ok placed, v, hvlan, hsubnet, hplaced, hother _ v hplaced, ?_⟩
      rw [InPlace.onNew_ok h] at hrun
      exact ⟨hplaced.id_eq rfl, hrun⟩

end Controller

end RegionClient

import RegionClient.Proofs.Operations
import RegionClient.Proofs.Texts

set_option autoImplicit false

/-! # Parameters have values

An empty value means that nothing is given, and no request carries one by accident. Most blocks of
parameters leave out what is empty, and the others hold a numeral, or a text that the check before
the request wants. Owner data are the exception: each entry is sent as it is, as an empty value
removes an entry.

Main statement: `perform_filled`.
-/

namespace RegionClient

/-! ## Filled parameters -/

namespace Numeral

@[simp] theorem ofNat_ne_empty (n : Nat) : ofNat n ≠ "" := by
  obtain ⟨d, rest, hdigits, -⟩ := toDigits_cons n
  intro h
  have hnil : Nat.toDigits 10 n = [] := by
    simpa [ofNat] using congrArg String.toList h
  rw [hdigits] at hnil
  cases hnil

@[simp] theorem ofInt_ne_empty (n : Int) : ofInt n ≠ "" := by
  cases n with
  | ofNat n => exact ofNat_ne_empty n
  | negSucc n => simp [ofInt]

end Numeral

namespace Parameters

/-- Every parameter has a value. -/
def Filled (ps : Parameters) : Prop :=
  ∀ p ∈ ps, p.2 ≠ ""

@[simp] theorem filled_nil : Filled [] :=
  nofun

@[simp] theorem filled_cons {p : String × String} {ps : Parameters} :
    Filled (p :: ps) ↔ p.2 ≠ "" ∧ Filled ps :=
  List.forall_mem_cons

@[simp] theorem filled_append {ps qs : Parameters} :
    Filled (ps ++ qs) ↔ Filled ps ∧ Filled qs :=
  List.forall_mem_append

@[simp] theorem filled_always {key value : String} : Filled (always key value) ↔ value ≠ "" := by
  simp [always]

@[simp] theorem filled_operation {name : String} : Filled (operation name) ↔ name ≠ "" :=
  filled_always

@[simp] theorem filled_optional {key : String} {value : Option String} :
    Filled (optional key value) ↔ value ≠ some "" := by
  cases value with
  | none => simp [optional]
  | some value => simp [optional]

@[simp] theorem filled_nonempty (key value : String) : Filled (nonempty key value) := by
  intro p hp
  obtain ⟨hvalue, rfl⟩ := mem_nonempty.mp hp
  exact hvalue

@[simp] theorem filled_each (key : String) (values : List String) : Filled (each key values) := by
  intro p hp
  exact (mem_each.mp hp).2.2

@[simp] theorem filled_flag (key : String) (value : Bool) : Filled (flag key value) := by
  cases value with
  | false => simp [flag]
  | true => simp [flag]

end Parameters

/-! ## Orders and filters -/

@[simp] theorem DeviceFilter.parameters_filled (f : DeviceFilter) : f.parameters.Filled := by
  simp [parameters]

@[simp] theorem Constraints.parameters_filled (c : Constraints) : c.parameters.Filled := by
  simp [parameters]

@[simp] theorem Release.parameters_filled (r : Release) : r.parameters.Filled := by
  simp [parameters]

@[simp] theorem Deployment.parameters_filled (d : Deployment) : d.parameters.Filled := by
  simp [parameters]

@[simp] theorem NewDevice.parameters_filled (d : NewDevice) : d.parameters.Filled := by
  simp [parameters]

@[simp] theorem InterfaceChange.parameters_filled (c : InterfaceChange) :
    c.parameters.Filled := by
  simp [parameters]

/-- The name and the hardware address are sent whatever they are, and the check wants both. -/
theorem NewInterface.parameters_filled {i : NewInterface} (h : i.validate = .ok ()) :
    i.parameters.Filled := by
  unfold validate at h
  split at h
  · cases h
  · rename_i hname
    split at h
    · cases h
    · rename_i hmac
      simp [parameters, hname, hmac]

/-- The name of the mode is sent whatever it is, and the check wants one that is known. -/
theorem NewLink.parameters_filled {l : NewLink} (h : l.validate = .ok ()) :
    l.parameters.Filled := by
  have hmode : String.ofList (l.mode.text.toList.map Char.toUpper) ≠ "" := by
    unfold validate at h
    cases hl : l.mode with
    | other name =>
        rw [hl] at h
        cases h
    | _ => decide
  simp [parameters, hmode]

/-- What is uploaded has a name. -/
theorem Upload.filename_ne {u : Upload} {source : UploadSource} (h : u.source = .ok source) :
    u.filename ≠ "" := by
  intro hname
  rw [Upload.source, if_pos hname] at h
  cases h

/-! ## Calls -/

/-- The parameters that a payload carries. The name of an uploaded file is one; its bytes are what
is uploaded and do not count as a parameter, so a file may be empty. -/
def Payload.parameters : Payload → Parameters
  | empty => []
  | form parameters => parameters
  | upload filename _ => [("filename", filename)]

namespace Call

/-- Every parameter of a call has a value. -/
def Filled (call : Call) : Prop :=
  call.query.Filled ∧ call.payload.parameters.Filled

@[simp] theorem filled_mk {method : Method} {path : String} {query : Parameters}
    {payload : Payload} :
    (mk method path query payload).Filled ↔ query.Filled ∧ payload.parameters.Filled :=
  Iff.rfl

@[simp] theorem filled_get {path : String} {query : Parameters} :
    (get path query).Filled ↔ query.Filled :=
  and_iff_left Parameters.filled_nil

@[simp] theorem filled_post {path : String} {query parameters : Parameters} :
    (post path query parameters).Filled ↔ query.Filled ∧ parameters.Filled :=
  Iff.rfl

end Call

/-- An operation on an interface that is accepted sends values only. -/
theorem InterfaceStep.call_filled {step : InterfaceStep} {i : Interface} {call : Call}
    (h : step.admission i = .ok ()) (hcall : step.call? i = some call) : call.Filled := by
  cases step with
  | update change =>
      obtain rfl := Option.some.inj hcall
      simp [Payload.parameters]
  | link order =>
      obtain rfl := Option.some.inj hcall
      have hvalid : order.validate = .ok () := h
      simp [NewLink.parameters_filled hvalid]
  | unlink subnet =>
      obtain ⟨found, -, rfl⟩ := Option.map_eq_some_iff.mp hcall
      simp

/-- So do the calls that place the interface of a new device. -/
theorem Controller.Placing.call_filled {c : Controller} {order : NewMachineDevice} {vlan : Int64}
    {d : Device} {t : Traffic} {call : Call} (hname : order.interfaceName ≠ "")
    (h : c.Placing order vlan d t call) : call.Filled := by
  cases h with
  | naming hd => simp [NewMachineDevice.naming, Payload.parameters, hname]
  | linking hd hsubnet h hid => simp [NewMachineDevice.linking]

/-! ## Operations -/

namespace Operation

variable {c : Controller} {op : Operation} {t : Traffic} {call : Call}

/-- The owner data that an operation sends, if that is what it does. -/
def ownerData? : Operation → Option (SortedMap String)
  | setOwnerData _ data => some data
  | _ => none

/-- **What a call of an operation carries.** Every parameter has a value; but owner data come as
they are, one parameter for each entry, with the keys in ascending order. -/
def Carries (op : Operation) (call : Call) : Prop :=
  match op.ownerData? with
  | none => call.Filled
  | some data =>
      call.query = [("op", "set_owner_data")] ∧ call.payload = .form data.entries ∧
        Ascending data.entries ∧
        ∀ key value, (key, value) ∈ data.entries ↔ data.get? key = some value

theorem Makes.carries (h : op.Makes c t call) (hadmission : op.admission = .ok ()) :
    op.Carries call := by
  cases h with
  | setOwnerData m data => exact ⟨rfl, rfl, data.ascending, data.mem_entries⟩
  -- The calls below hold texts that are sent whatever they are, so the check counts.
  | creation m order =>
      have hvalid : order.validate = .ok () := hadmission
      obtain ⟨-, hmac, -⟩ := NewMachineDevice.validate_eq_ok hvalid
      have hparent : m.systemId.text ≠ "" := m.systemId.text_ne_empty
      show Call.Filled _
      by_cases hhostname : order.hostname = ""
      · simp [NewMachineDevice.creation, hhostname, hmac, hparent]
      · simp [NewMachineDevice.creation, hhostname, hmac, hparent]
  | placing m order hvlan h hcall =>
      have hvalid : order.validate = .ok () := hadmission
      exact hcall.call_filled (NewMachineDevice.validate_eq_ok hvalid).1
  | addInterface d order =>
      have hvalid : order.validate = .ok () := hadmission
      show Call.Filled _
      simp [NewInterface.call, NewInterface.parameters_filled hvalid]
  | updateInterface i change hchange h => exact InterfaceStep.call_filled rfl h
  | linkSubnet i order h =>
      have hstep : InterfaceStep.admission i (.link order) = .ok () := hadmission
      exact InterfaceStep.call_filled hstep h
  | unlinkSubnet i subnet h =>
      have hstep : InterfaceStep.admission i (.unlink subnet) = .ok () := hadmission
      exact InterfaceStep.call_filled hstep h
  | addFile disk upload hsource hcontent =>
      show Call.Filled _
      simp [Payload.parameters, Upload.filename_ne hsource]
  | files beginning =>
      show Call.Filled _
      by_cases hbeginning : beginning = ""
      · simp [hbeginning]
      · simp [hbeginning]
  -- All other blocks of parameters leave out what is empty.
  | _ =>
      show Call.Filled _
      simp [MachineStep.call, Device.deletion, Payload.parameters]

end Operation

namespace Controller

theorem Serves.request_eq {c : Controller} {call : Call} {x : Exchange} (h : c.Serves call x) :
    ∃ url, c.endpoint call.path = .ok url ∧ x.request.url = Request.target url call.query ∧
      x.request.payload = call.payload := by
  obtain ⟨url, header, hurl, hrequest⟩ := h
  obtain ⟨-, -, hr⟩ := Request.make_eq_ok hrequest
  rw [hr]
  exact ⟨url, hurl, rfl, rfl⟩

/-- **No request carries an empty parameter by accident.** What a request of an operation adds to
the address of its path, and what it holds, is that of a call which the operation makes after that
traffic; all parameters of a call have values, except that owner data are sent entry by entry. -/
theorem perform_filled (c : Controller) (op : Operation) (t : Traffic) :
    ∃ new, (op.perform c t).2 = t ++ new ∧ ∀ x ∈ Traffic.exchanges new,
      ∃ call url, op.Makes c t call ∧ c.endpoint call.path = .ok url ∧
        x.request.url = Request.target url call.query ∧ x.request.payload = call.payload ∧
        op.Carries call := by
  obtain ⟨new, hnew, hserves⟩ := (c.perform_sends op t).extends
  refine ⟨new, hnew, fun x hx => ?_⟩
  obtain ⟨call, ⟨hadmission, hmakes⟩, hcall⟩ := hserves x hx
  obtain ⟨url, hurl, htarget, hpayload⟩ := hcall.request_eq
  exact ⟨call, url, hmakes, hurl, htarget, hpayload, hmakes.carries hadmission⟩

end Controller

end RegionClient

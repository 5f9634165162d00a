import RegionClient.Proofs.Operations

set_option autoImplicit false

/-! # Rejections are local

To reject an operation is for the client alone. It looks at the arguments before anything is sent,
and nothing that a region answers afterwards makes it reject them: what goes wrong from there on is
conclusive, or is that of a call.

Main statement: `rejects_locally`.
-/

namespace RegionClient

namespace Operation

/-- A value that the caller of an operation holds. -/
inductive Held where
  | machine (m : Machine)
  | device (d : Device)
  | interface (i : Interface)

/-- The value that an operation is allowed to change, as its caller has it before. -/
def held? : Operation → Option Held
  | deploy m _ | setOwnerData m _ => some (.machine m)
  | addInterface d _ => some (.device d)
  | updateInterface i _ | linkSubnet i _ | unlinkSubnet i _ => some (.interface i)
  | _ => none

/-- The value as the operation leaves it, whether it succeeds or fails. -/
def left? (c : Controller) (t : Traffic) : Operation → Option Held
  | deploy m order => some (.machine (c.deploy order m t).2.1)
  | setOwnerData m data => some (.machine (c.setOwnerData data m t).2.1)
  | addInterface d order => some (.device (c.addInterface order d t).2.1)
  | updateInterface i change => some (.interface (c.updateInterface change i t).2.1)
  | linkSubnet i order => some (.interface (c.linkSubnet order i t).2.1)
  | unlinkSubnet i subnet => some (.interface (c.unlinkSubnet subnet i t).2.1)
  | _ => none

end Operation

namespace Controller

variable {c : Controller} {P : Call → Prop} {t u : Traffic}

/-! ## The statement -/

/-- **Rejections are local.** -/
structure RejectsLocally (c : Controller) : Prop where
  /-- Whether an operation is rejected, and why, does not depend on the region. -/
  rejected_iff : ∀ (op : Operation) (t : Traffic) (r : Rejection),
    (op.perform c t).1 = .error (.notValid r) ↔ op.admission = .error r
  /-- An operation that is rejected sends nothing, so none of its requests is counted either, and
  leaves its caller with the same value as before. -/
  unchanged : ∀ (op : Operation) (t : Traffic) (r : Rejection),
    (op.perform c t).1 = .error (.notValid r) → (op.perform c t).2 = t ∧ op.left? c t = op.held?
  /-- What making a device on a machine checks once more is in order by then: the device, and the
  link of its interface. So no step after the creation of the device is rejected. -/
  nested : ∀ (m : Machine) (order : NewMachineDevice), order.validate = .ok () →
    (NewDevice.mk order.hostname [order.macAddress] "" m.systemId.text).validate = .ok () ∧
    (∀ s, order.subnet = some s → (NewLink.toSubnet .static s).validate = .ok ()) ∧
    ∀ (d : Device) (t : Traffic) (r : Rejection),
      (c.configureDevice order d t).1 ≠ .error (.notValid r)

/-! ## No response rejects -/

section

variable (hauth : ∀ number method url r, c.authorize number method url ≠ .error (.notValid r))
include hauth

theorem Blames.ne_notValid {e : Error} (h : c.Blames P t u e) (r : Rejection) :
    e ≠ .notValid r := by
  cases h with
  | conclusive h => exact Error.ne_notValid h r
  | call hcall hv hw h =>
      rintro rfl
      exact send_ne_notValid hauth r h

/-- A dialogue that is made of calls does not end in a rejection. -/
theorem Traces.ne_notValid {α : Type} {x : Dialogue α} (h : c.Traces P x t) (r : Rejection) :
    (x t).1 ≠ .error (.notValid r) := by
  intro hx
  exact (h.blames (.notValid r) (x t).2 (Prod.ext hx rfl)).ne_notValid hauth r rfl

theorem perform_rejected_iff (op : Operation) (t : Traffic) (r : Rejection) :
    (op.perform c t).1 = .error (.notValid r) ↔ op.admission = .error r := by
  constructor
  · intro h
    cases hadmission : op.admission with
    | error r' =>
        rw [c.perform_rejected hadmission] at h
        cases h
        rfl
    | ok _ => exact absurd h ((c.perform_traces hadmission t).ne_notValid hauth r)
  · intro h
    rw [c.perform_rejected h]

end

/-! ## Rejected operations -/

/-- What is refused is left as it was. -/
theorem left_rejected {op : Operation} {r : Rejection} (h : op.admission = .error r)
    (t : Traffic) : op.left? c t = op.held? := by
  cases op with
  | addInterface d order =>
      have hdevice := congrArg (fun p => p.2.1) (c.addInterface_rejected h d t)
      exact congrArg (fun d => some (Operation.Held.device d)) hdevice
  | linkSubnet i order =>
      have hadmission : InterfaceStep.admission i (.link order) = .error r := h
      have hinterface := congrArg (fun p => p.2.1) (c.interfaceStep_rejected hadmission t)
      exact congrArg (fun i => some (Operation.Held.interface i)) hinterface
  | unlinkSubnet i subnet =>
      have hadmission : InterfaceStep.admission i (.unlink subnet) = .error r := h
      have hinterface := congrArg (fun p => p.2.1) (c.interfaceStep_rejected hadmission t)
      exact congrArg (fun i => some (Operation.Held.interface i)) hinterface
  -- All other operations accept whatever they get, or have no value to leave.
  | deploy | setOwnerData | updateInterface => cases h
  | _ => rfl

/-- **Every operation is rejected locally or not at all**, unless whoever gives the credentials
rejects something. -/
theorem rejects_locally (c : Controller)
    (hauth : ∀ number method url r, c.authorize number method url ≠ .error (.notValid r)) :
    c.RejectsLocally := by
  refine ⟨perform_rejected_iff hauth, ?_, ?_⟩
  · intro op t r h
    have hadmission := (perform_rejected_iff hauth op t r).mp h
    refine ⟨?_, left_rejected hadmission t⟩
    rw [c.perform_rejected hadmission]
  · intro m order hvalid
    obtain ⟨hname, hmac, hnetwork⟩ := NewMachineDevice.validate_eq_ok hvalid
    obtain ⟨vlan, hvlan, -⟩ := NewMachineDevice.validateNetwork_eq_ok hnetwork
    refine ⟨?_, fun _ _ => rfl, fun d t r => ?_⟩
    · simp [NewDevice.validate, hmac]
    · exact (configureDevice_traces hname hvlan d t).ne_notValid hauth r

theorem rejects_locally_busyAtFirst :
    let c := plain .busyAtFirst
    (∀ number method url r, c.authorize number method url ≠ .error (.notValid r)) ∧
      c.RejectsLocally ∧
      ((Operation.getFile "").perform c []).1 = .error (.notValid .filenameMissing) := by
  have hauth : ∀ number method url r,
      (plain .busyAtFirst).authorize number method url ≠ .error (.notValid r) := by
    intro number method url r
    rw [authorize_plain]
    exact nofun
  have hlocal := rejects_locally (plain .busyAtFirst) hauth
  have hadmission : (Operation.getFile "").admission = .error .filenameMissing := by
    rw [Operation.admission, if_pos rfl]
  exact ⟨hauth, hlocal, (hlocal.rejected_iff _ [] _).mpr hadmission⟩

end Controller

end RegionClient

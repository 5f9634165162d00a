import RegionClient.Controller.Operation
import RegionClient.Proofs.Compensation
import RegionClient.Proofs.Failures

set_option autoImplicit false

/-! # The calls of operations

An operation first looks at its arguments (`Operation.admission`). If they are refused, nothing
happens, and that is how it fails (`perform_rejected`). If not, it is made of its calls and fails
with one of them or conclusively (`perform_traces`). Most operations have one call, which depends on
their arguments only; to make a device on a machine takes more, which depend on what was read
before.

Either way an operation is a run of its calls (`perform_sends`), and so is a run of operations one
of all their calls (`performAll_sends`). Every request of a run is that of an operation at the
traffic that it finds (`performAll_exchanges`), and serves a call that the operation makes there
(`HandsOver.serves`).
-/

namespace RegionClient

namespace Operation

/-- **What an operation wants of its arguments**, which no region is needed to tell. -/
def admission : Operation → Except Rejection Unit
  | allocate constraints => constraints.validate
  | createDevice order => order.validate
  | createMachineDevice _ order => order.validate
  | addInterface _ order => order.validate
  | linkSubnet i order => InterfaceStep.admission i (.link order)
  | unlinkSubnet i subnet => InterfaceStep.admission i (.unlink subnet)
  | getFile filename => if filename = "" then .error .filenameMissing else .ok ()
  | addFile disk upload => verdict (upload.source >>= Controller.uploadContent disk)
  | _ => .ok ()

/-- **The calls that an operation makes** after some traffic, once its arguments are accepted. Those
that depend on what was read before are for what the transport answered to the calls before. -/
inductive Makes (c : Controller) (t : Traffic) : Operation → Call → Prop where
  | versionInfo : Makes c t .versionInfo (.get (c.apiPath "version/") [])
  | bootImages : Makes c t .bootImages (.get (c.apiPath "boot-resources/") [])
  | fabrics : Makes c t .fabrics (.get (c.apiPath "fabrics/") [])
  | spaces : Makes c t .spaces (.get (c.apiPath "spaces/") [])
  | staticRoutes : Makes c t .staticRoutes (.get (c.apiPath "static-routes/") [])
  | zones : Makes c t .zones (.get (c.apiPath "zones/") [])
  | machines (filter : MachineFilter) :
      Makes c t (.machines filter) (.get (c.apiPath "machines/") filter.parameters)
  | allocate (constraints : Constraints) : Makes c t (.allocate constraints)
      (.post (c.apiPath "machines/") [("op", "allocate")] constraints.parameters)
  | release (order : Release) (h : order.isEmpty = false) : Makes c t (.release order)
      (.post (c.apiPath "machines/") [("op", "release")] order.parameters)
  | deploy (m : Machine) (order : Deployment) :
      Makes c t (.deploy m order) (MachineStep.call m (.deploy order))
  | setOwnerData (m : Machine) (data : SortedMap String) :
      Makes c t (.setOwnerData m data) (MachineStep.call m (.setOwnerData data))
  | devices (filter : DeviceFilter) :
      Makes c t (.devices filter) (.get (c.apiPath "devices/") filter.parameters)
  | createDevice (order : NewDevice) :
      Makes c t (.createDevice order) (.post (c.apiPath "devices/") [] order.parameters)
  | creation (m : Machine) (order : NewMachineDevice) :
      Makes c t (.createMachineDevice m order) (order.creation c m)
  /-- The device was made. -/
  | placing (m : Machine) (order : NewMachineDevice) {vlan : Int64} {d : Device} {u : Traffic}
      {call : Call} (hvlan : order.effectiveVlanId? = some vlan)
      (h : c.Answered (order.creation c m) Device.reader.read t u d)
      (hcall : c.Placing order vlan d u call) : Makes c t (.createMachineDevice m order) call
  /-- The device was made, and its interface could not be placed. -/
  | deletion (m : Machine) (order : NewMachineDevice) {vlan : Int64} {d : Device} {u v : Traffic}
      {e : Error} (hvlan : order.effectiveVlanId? = some vlan)
      (h : c.Answered (order.creation c m) Device.reader.read t u d)
      (hplaced : c.Placed order vlan d u (.error e) v) :
      Makes c t (.createMachineDevice m order) d.deletion
  | deleteDevice (d : Device) : Makes c t (.deleteDevice d) d.deletion
  | addInterface (d : Device) (order : NewInterface) :
      Makes c t (.addInterface d order) (order.call d)
  | updateInterface (i : Interface) (change : InterfaceChange) {call : Call}
      (hchange : change.isEmpty = false)
      (h : InterfaceStep.call? i (.update change) = some call) :
      Makes c t (.updateInterface i change) call
  | linkSubnet (i : Interface) (order : NewLink) {call : Call}
      (h : InterfaceStep.call? i (.link order) = some call) : Makes c t (.linkSubnet i order) call
  | unlinkSubnet (i : Interface) (subnet : Subnet) {call : Call}
      (h : InterfaceStep.call? i (.unlink subnet) = some call) :
      Makes c t (.unlinkSubnet i subnet) call
  | files (beginning : String) : Makes c t (.files beginning) (.get (c.apiPath "files/")
      (("op", "list") :: if beginning = "" then [] else [("prefix", beginning)]))
  | getFile (filename : String) {path : String} (h : c.filePath filename = .ok path) :
      Makes c t (.getFile filename) (.get path [])
  | addFile (disk : LocalFiles) (upload : Upload) {source : UploadSource} {content : List UInt8}
      (hsource : upload.source = .ok source)
      (hcontent : Controller.uploadContent disk source = .ok content) :
      Makes c t (.addFile disk upload)
        ⟨.post, c.apiPath "files/", [("op", "add")], .upload upload.filename content⟩
  | deleteFile (f : StoredFile) : Makes c t (.deleteFile f) ⟨.delete, f.resourceUri, [], .empty⟩
  | contentOf (f : StoredFile) (h : f.content = none) :
      Makes c t (.contentOf f) (.get f.anonUri [])

end Operation

/-! ## Dialogues about a value -/

/-- A response about another machine is at fault, not the request. -/
theorem Machine.refresh_conclusive (m fresh : Machine) : Conclusive (m.refresh fresh) := by
  rw [refresh]
  split
  · exact .ok fresh
  · exact .error rfl

theorem Interface.refresh_conclusive (i fresh : Interface) : Conclusive (i.refresh fresh) := by
  rw [refresh]
  split
  · exact .ok fresh
  · exact .error rfl

namespace Controller

open Operation

variable (c : Controller)

theorem machineStep_traces (step : MachineStep) (m : Machine) (t : Traffic) :
    c.Traces (· = step.call m) ((c.machineStep step).on m) t := by
  refine .onApply (c.machineStep_apply step m t) (.onBind (.onLift ?_) fun fresh m' u _ => ?_)
  · exact c.sendAndRead_traces (step.call m) Kind.machine.read_conclusive t
  · exact .onReplace (m'.refresh_conclusive fresh)

theorem sendForInterface_traces (call : Call) (i : Interface) (t : Traffic) :
    c.Traces (· = call) ((c.sendForInterface call).on i) t := by
  refine .onBind (.onLift ?_) fun fresh i' u _ => ?_
  · exact c.sendAndRead_traces call Kind.interface.read_conclusive t
  · exact .onReplace (i'.refresh_conclusive fresh)

theorem interfaceStep_traces {step : InterfaceStep} {i : Interface} (h : step.admission i = .ok ())
    (t : Traffic) :
    c.Traces (fun call => step.isIdle = false ∧ step.call? i = some call)
      ((c.interfaceStep step).on i) t := by
  rcases c.interfaceStep_cases step i t with
    ⟨r, hr, -⟩ | ⟨-, -, hstep⟩ | ⟨call, -, hidle, hcall, hstep⟩
  · cases hr.symm.trans h
  · exact .onApply hstep (.onPure ())
  · exact .onApply hstep ((c.sendForInterface_traces call i t).of_eq ⟨hidle, hcall⟩)

theorem addInterface_traces {order : NewInterface} (h : order.validate = .ok ()) (d : Device)
    (t : Traffic) : c.Traces (· = order.call d) ((c.addInterface order).on d) t := by
  have happly : c.addInterface order d t =
      (liftM (c.sendAndRead (order.call d) Interface.reader.read) >>= fun i => do
        InPlace.change fun d => { d with interfaces := d.interfaces ++ [i] }
        return i : InPlace Device Interface) d t := by
    rw [addInterface, h, InPlace.lift_bind_ok (Dialogue.check_ok _ t), InPlace.value_bind]
    rfl
  refine .onApply happly (.onBind (.onLift ?_) fun i d' u _ => ?_)
  · exact c.sendAndRead_traces (order.call d) Kind.interface.read_conclusive t
  · exact .onBind (.onChange _) fun _ _ _ _ => .onPure i

/-! ## Devices on a machine -/

section

variable {c} {m : Machine} {order : NewMachineDevice} {vlan : Int64}

theorem configureInterface_traces (hname : order.interfaceName ≠ "")
    (hvlan : order.effectiveVlanId? = some vlan) {d : Device} {i : Interface}
    (hd : d.interfaces = [i]) (t : Traffic) :
    c.Traces (c.Placing order vlan d t) ((c.configureInterface order).on i) t := by
  have hnaming := updateInterface_naming (c := c) vlan hname i t
  rw [configureInterface, hvlan]
  refine .onBind (.onApply hnaming ?_) fun _ named u h => ?_
  · exact (c.sendForInterface_traces (order.naming vlan i) i t).of_eq (.naming hd)
  · rw [hnaming] at h
    cases hsubnet : order.subnet with
    | none => exact .onPure ()
    | some s =>
        -- The interface that is linked is the one that the response to its naming describes.
        rcases c.sendForInterface_atomic (order.naming vlan i) i t with
          ⟨e, v, hfail⟩ | ⟨_, i', v, hsent, hanswered, hid⟩
        · cases congrArg Prod.fst (hfail.symm.trans h)
        · obtain ⟨-, heq⟩ := Prod.mk.inj (hsent.symm.trans h)
          obtain ⟨rfl, rfl⟩ := Prod.mk.inj heq
          refine .onApply (linkSubnet_static s i' v) ?_
          exact (c.sendForInterface_traces _ i' v).of_eq (.linking hd hsubnet hanswered hid)

theorem configureDevice_traces (hname : order.interfaceName ≠ "")
    (hvlan : order.effectiveVlanId? = some vlan) (d : Device) (t : Traffic) :
    c.Traces (c.Placing order vlan d t) ((c.configureDevice order).on d) t := by
  refine .onApply (InPlace.value_bind _ d t) ?_
  match hd : d.interfaces with
  | [i] => exact .onPart _ (configureInterface_traces hname hvlan hd t)
  | [] => exact .onLift (.ofExcept (.error rfl))
  | _ :: _ :: _ => exact .onLift (.ofExcept (.error rfl))

/-- To make a device on a machine takes its creation, the calls that place its interface, and its
deletion if those fail. -/
theorem createMachineDevice_traces (m : Machine) (hvalid : order.validate = .ok ()) (t : Traffic) :
    c.Traces (Operation.Makes c t (.createMachineDevice m order)) (c.createMachineDevice m order)
      t := by
  obtain ⟨hname, -, hnetwork⟩ := NewMachineDevice.validate_eq_ok hvalid
  obtain ⟨vlan, hvlan, -⟩ := NewMachineDevice.validateNetwork_eq_ok hnetwork
  refine .congr (createMachineDevice_apply m hvalid t) (.bind ?_ fun d u hcreate => ?_)
  · exact (c.sendAndRead_traces (order.creation c m) Kind.device.read_conclusive t).of_eq
      (.creation m order)
  · have hanswered := sendAndRead_ok hcreate
    refine .onNew ?_ fun e d' v hfail => ?_
    · exact (configureDevice_traces hname hvlan d u).mono fun _ => .placing m order hvlan hanswered
    · -- The device that is deleted is at the address of the one created.
      rcases configureDevice_placed (c := c) hname hvlan d u with
        ⟨_, d'', w, h, huri, hplaced⟩ | ⟨placed, w, h, -⟩
      · obtain ⟨-, heq⟩ := Prod.mk.inj (h.symm.trans hfail)
        obtain ⟨rfl, rfl⟩ := Prod.mk.inj heq
        rw [deleteDevice, huri]
        refine (c.delete_traces d.resourceUri w).sends.mono ?_
        rintro _ rfl
        exact .deletion m order hvlan hanswered hplaced
      · cases congrArg Prod.fst (h.symm.trans hfail)

end

/-! ## Operations -/

theorem filePath_conclusive (filename : String) : Conclusive (c.filePath filename) := by
  refine .bind (c.endpoint_conclusive c.filesPath) fun all => ?_
  split
  · exact .error rfl
  · exact .ok _

theorem machines_traces (filter : MachineFilter) (t : Traffic) :
    c.Traces (· = .get (c.apiPath "machines/") filter.parameters) (c.machines filter) t :=
  (c.list_traces .machine "machines/" filter.parameters t).bind fun _ _ _ => .ofExcept (.ok _)

theorem fetchVersionInfo_traces (t : Traffic) :
    c.Traces (· = .get (c.apiPath "version/") []) c.fetchVersionInfo t := by
  refine .bind (.mapError ?_ (c.sendForDocument_traces _ t)) fun value _ _ => .ofExcept ?_
  · intro e
    split
    · exact .inr rfl
    · exact .inl rfl
  · exact Kind.versionInfo.read_conclusive c.version value

theorem allocate_traces {constraints : Constraints} (h : constraints.validate = .ok ())
    (t : Traffic) :
    c.Traces (· = .post (c.apiPath "machines/") [("op", "allocate")] constraints.parameters)
      (c.allocate constraints) t := by
  rw [allocate, h]
  refine .bind (.ofExcept (.ok ())) fun _ u _ => ?_
  refine .bind (.mapError ?_ (c.sendForDocument_traces _ u)) fun value _ _ => .ofExcept ?_
  · intro e
    split
    · exact .inr rfl
    · exact .inl rfl
  · exact Allocation.read_conclusive c.version value

theorem release_traces (order : Release) (t : Traffic) :
    c.Traces (Makes c t (.release order)) (c.release order) t := by
  rw [release]
  split
  · exact .ofExcept (.ok ())
  · rename_i horder
    refine .bind ?_ fun _ _ _ => .ofExcept (.ok ())
    exact (c.sendForDocument_traces _ t).of_eq (.release order (Bool.eq_false_iff.mpr horder))

theorem createDevice_traces {order : NewDevice} (h : order.validate = .ok ()) (t : Traffic) :
    c.Traces (· = .post (c.apiPath "devices/") [] order.parameters) (c.createDevice order) t := by
  rw [createDevice, h]
  refine .bind (.ofExcept (.ok ())) fun _ u _ => ?_
  exact c.sendAndRead_traces _ Kind.device.read_conclusive u

theorem getFile_traces {filename : String} (h : filename ≠ "") (t : Traffic) :
    c.Traces (Makes c t (.getFile filename)) (c.getFile filename) t := by
  rw [getFile, if_neg h]
  refine .bind (.ofExcept (c.filePath_conclusive filename)) fun path u hpath => ?_
  refine (c.sendAndRead_traces (.get path []) Kind.storedFile.read_conclusive u).of_eq ?_
  rw [Dialogue.ofExcept_apply] at hpath
  exact .getFile filename (Prod.mk.inj hpath).1

/-- Once the bytes of an upload are there, they are sent. -/
theorem addFile_apply {disk : LocalFiles} {upload : Upload} {source : UploadSource}
    {content : List UInt8} (hsource : upload.source = .ok source)
    (hcontent : uploadContent disk source = .ok content) (t : Traffic) :
    c.addFile disk upload t = (c.send ⟨.post, c.filesPath, .operation "add",
      .upload upload.filename content⟩ >>= fun _ => pure ()) t := by
  rw [addFile, hsource, Dialogue.bind_ok (Dialogue.check_ok source t), hcontent,
    Dialogue.bind_ok (Dialogue.check_ok content t)]

theorem addFile_traces {disk : LocalFiles} {upload : Upload} {source : UploadSource}
    {content : List UInt8} (hsource : upload.source = .ok source)
    (hcontent : uploadContent disk source = .ok content) (t : Traffic) :
    c.Traces (Makes c t (.addFile disk upload)) (c.addFile disk upload) t := by
  refine .congr (c.addFile_apply hsource hcontent t) (.bind ?_ fun _ _ _ => .ofExcept (.ok ()))
  exact (c.send_traces _ t).of_eq (.addFile disk upload hsource hcontent)

theorem contentOf_traces (f : StoredFile) (t : Traffic) :
    c.Traces (Makes c t (.contentOf f)) (c.contentOf f) t := by
  rw [contentOf]
  cases hcontent : f.content with
  | some content =>
      rw [StoredFile.decodedContent, hcontent]
      exact .ofExcept (.mapError fun _ => rfl)
  | none => exact (c.send_traces (.get f.anonUri []) t).of_eq (.contentOf f hcontent)

/-- An upload that is accepted has a source, and the source its bytes. -/
theorem addFile_admission {disk : LocalFiles} {upload : Upload}
    (h : (Operation.addFile disk upload).admission = .ok ()) :
    ∃ source content, upload.source = .ok source ∧ uploadContent disk source = .ok content := by
  obtain ⟨content, hcontent⟩ := verdict_ok.mp h
  cases hsource : upload.source with
  | error r =>
      rw [hsource] at hcontent
      cases hcontent
  | ok source =>
      rw [hsource] at hcontent
      exact ⟨source, content, rfl, hcontent⟩

/-- **An operation is made of its calls**, once its arguments are accepted. -/
theorem perform_traces {op : Operation} (h : op.admission = .ok ()) (t : Traffic) :
    c.Traces (op.Makes c t) (op.perform c) t := by
  cases op with
  | versionInfo => exact (c.fetchVersionInfo_traces t).void.of_eq .versionInfo
  | bootImages => exact (c.list_traces .bootImage "boot-resources/" [] t).void.of_eq .bootImages
  | fabrics => exact (c.list_traces .fabric "fabrics/" [] t).void.of_eq .fabrics
  | spaces => exact (c.list_traces .space "spaces/" [] t).void.of_eq .spaces
  | staticRoutes =>
      exact (c.list_traces .staticRoute "static-routes/" [] t).void.of_eq .staticRoutes
  | zones => exact (c.list_traces .zone "zones/" [] t).void.of_eq .zones
  | machines filter => exact (c.machines_traces filter t).void.of_eq (.machines filter)
  | allocate constraints => exact (c.allocate_traces h t).void.of_eq (.allocate constraints)
  | release order => exact c.release_traces order t
  | deploy m order => exact (c.machineStep_traces (.deploy order) m t).of_eq (.deploy m order)
  | setOwnerData m data =>
      exact (c.machineStep_traces (.setOwnerData data) m t).of_eq (.setOwnerData m data)
  | devices filter => exact (c.list_traces .device "devices/" _ t).void.of_eq (.devices filter)
  | createDevice order => exact (c.createDevice_traces h t).void.of_eq (.createDevice order)
  | createMachineDevice m order => exact (createMachineDevice_traces m h t).void
  | deleteDevice d => exact (c.delete_traces d.resourceUri t).of_eq (.deleteDevice d)
  | addInterface d order => exact (c.addInterface_traces h d t).void.of_eq (.addInterface d order)
  | updateInterface i change =>
      have hadmitted : InterfaceStep.admission i (.update change) = .ok () := rfl
      exact (c.interfaceStep_traces hadmitted t).mono fun _ h => .updateInterface i change h.1 h.2
  | linkSubnet i order =>
      have hadmitted : InterfaceStep.admission i (.link order) = .ok () := h
      exact (c.interfaceStep_traces hadmitted t).mono fun _ h => .linkSubnet i order h.2
  | unlinkSubnet i subnet =>
      have hadmitted : InterfaceStep.admission i (.unlink subnet) = .ok () := h
      exact (c.interfaceStep_traces hadmitted t).mono fun _ h => .unlinkSubnet i subnet h.2
  | files beginning => exact (c.list_traces .storedFile "files/" _ t).void.of_eq (.files beginning)
  | getFile filename =>
      refine (c.getFile_traces ?_ t).void
      rintro rfl
      cases h
  | addFile disk upload =>
      obtain ⟨source, content, hsource, hcontent⟩ := addFile_admission h
      exact c.addFile_traces hsource hcontent t
  | deleteFile f => exact (c.delete_traces f.resourceUri t).of_eq (.deleteFile f)
  | contentOf f => exact (c.contentOf_traces f t).void

/-- **An operation whose arguments are refused does nothing**, and says why. -/
theorem perform_rejected {op : Operation} {r : Rejection} (h : op.admission = .error r)
    (t : Traffic) : op.perform c t = (.error (.notValid r), t) := by
  cases op with
  | allocate constraints =>
      have hvalid : constraints.validate = .error r := h
      exact Dialogue.void_error (Dialogue.rejected_bind hvalid _ t)
  | createDevice order =>
      have hvalid : order.validate = .error r := h
      exact Dialogue.void_error (Dialogue.rejected_bind hvalid _ t)
  | createMachineDevice m order =>
      have hvalid : order.validate = .error r := h
      exact Dialogue.void_error (Dialogue.rejected_bind hvalid _ t)
  | addInterface d order =>
      refine Dialogue.void_error ?_
      rw [InPlace.on, c.addInterface_rejected h d t]
  | linkSubnet i order =>
      have hadmission : InterfaceStep.admission i (.link order) = .error r := h
      exact congrArg (fun p => (p.1, p.2.2)) (c.interfaceStep_rejected hadmission t)
  | unlinkSubnet i subnet =>
      have hadmission : InterfaceStep.admission i (.unlink subnet) = .error r := h
      exact congrArg (fun p => (p.1, p.2.2)) (c.interfaceStep_rejected hadmission t)
  | getFile filename =>
      rw [admission] at h
      split at h
      · rename_i hmissing
        obtain rfl := Except.error.inj h
        refine Dialogue.void_error ?_
        rw [getFile, if_pos hmissing]
        rfl
      · cases h
  | addFile disk upload =>
      have hcontent := verdict_error.mp h
      cases hsource : upload.source with
      | error r' =>
          rw [hsource] at hcontent
          obtain rfl := Except.error.inj hcontent
          exact Dialogue.rejected_bind hsource _ t
      | ok source =>
          rw [hsource] at hcontent
          have hunreadable : uploadContent disk source = .error r := hcontent
          rw [perform, addFile, hsource, Dialogue.bind_ok (Dialogue.check_ok source t)]
          exact Dialogue.rejected_bind hunreadable _ t
  | _ => cases h

/-- **Every request of an operation serves one of its calls**, and there are none if its arguments
are refused. -/
theorem perform_sends (op : Operation) (t : Traffic) :
    c.Sends (fun call => op.admission = .ok () ∧ op.Makes c t call) t (op.perform c t).2 := by
  cases h : op.admission with
  | error r =>
      rw [c.perform_rejected h]
      exact .refl t
  | ok _ => exact (c.perform_traces h t).sends.mono fun _ hcall => ⟨rfl, hcall⟩

end Controller

/-! ## Several operations -/

namespace Operation

/-- **An operation of a run finds some traffic**: what the operations before it leave. -/
def Finds (c : Controller) (ops : List Operation) (t : Traffic) (op : Operation) (u : Traffic) :
    Prop :=
  ∃ before after, ops = before ++ op :: after ∧ performAll c before t = u

variable {c : Controller} {op op' : Operation} {ops : List Operation} {t u : Traffic}

/-- A request is handed over by an operation that begins after some traffic. -/
def HandsOver (c : Controller) (op : Operation) (t : Traffic) (x : Exchange) : Prop :=
  ∃ own, (op.perform c t).2 = t ++ own ∧ x ∈ Traffic.exchanges own

theorem Finds.head (c : Controller) (op : Operation) (ops : List Operation) (t : Traffic) :
    Finds c (op :: ops) t op t :=
  ⟨[], ops, rfl, rfl⟩

theorem Finds.tail (h : Finds c ops (op.perform c t).2 op' u) : Finds c (op :: ops) t op' u := by
  obtain ⟨before, after, rfl, hu⟩ := h
  exact ⟨op :: before, after, rfl, hu⟩

/-- **Every request of an operation serves a call that it makes.** -/
theorem HandsOver.serves {x : Exchange} (h : op.HandsOver c t x) :
    op.admission = .ok () ∧ ∃ call, op.Makes c t call ∧ c.Serves call x := by
  obtain ⟨own, hown, hx⟩ := h
  obtain ⟨new, hnew, hserves⟩ := (c.perform_sends op t).extends
  obtain rfl := List.append_cancel_left (hown.symm.trans hnew)
  obtain ⟨call, ⟨hadmission, hmakes⟩, hcall⟩ := hserves x hx
  exact ⟨hadmission, call, hmakes, hcall⟩

end Operation

namespace Controller

open Operation

variable {c : Controller}

/-- A run of operations is a run of the calls that each makes after the traffic that it finds. -/
theorem performAll_sends (ops : List Operation) (t : Traffic) :
    c.Sends (fun call => ∃ op u, Finds c ops t op u ∧ op.admission = .ok () ∧ op.Makes c u call) t
      (performAll c ops t) := by
  induction ops generalizing t with
  | nil => exact .refl t
  | cons op rest ih =>
      -- The rest of the run finds the traffic that the first operation leaves.
      have hfirst := c.perform_sends op t
      refine (hfirst.mono ?_).trans ((ih (op.perform c t).2).mono ?_)
      · intro call hcall
        exact ⟨op, t, .head c op rest t, hcall⟩
      · rintro call ⟨op', u, hfinds, hcall⟩
        exact ⟨op', u, hfinds.tail, hcall⟩

/-- **Every request of a run is that of one of its operations**, at the traffic that this operation
finds. -/
theorem performAll_exchanges (ops : List Operation) (t : Traffic) :
    ∃ new, performAll c ops t = t ++ new ∧
      ∀ x ∈ Traffic.exchanges new, ∃ op u, Finds c ops t op u ∧ op.HandsOver c u x := by
  induction ops generalizing t with
  | nil =>
      refine ⟨[], (List.append_nil t).symm, ?_⟩
      intro x hx
      cases hx
  | cons op rest ih =>
      obtain ⟨own, hown, -⟩ := (c.perform_sends op t).extends
      obtain ⟨new, hnew, hrest⟩ := ih (op.perform c t).2
      refine ⟨own ++ new, ?_, ?_⟩
      · rw [performAll, hnew, hown, List.append_assoc]
      · intro x hx
        rw [Traffic.exchanges_append] at hx
        rcases List.mem_append.mp hx with hx | hx
        · exact ⟨op, t, .head c op rest t, own, hown, hx⟩
        · obtain ⟨op', u, hfinds, hop⟩ := hrest x hx
          exact ⟨op', u, hfinds.tail, hop⟩

end Controller

end RegionClient

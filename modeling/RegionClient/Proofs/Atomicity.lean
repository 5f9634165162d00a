import RegionClient.Controller.Interfaces
import RegionClient.Controller.Machines
import RegionClient.Proofs.Calls

set_option autoImplicit false

/-! # Operations in place are atomic

An operation on a machine, an interface or a device that its caller holds either fails and leaves
the value as it was, or succeeds and leaves what the reader makes of the last response. As the
response must be about the same resource, a machine keeps its system id and an interface its id in
every run of operations; the interfaces of a device only ever get more, at their end.

Main statement: `inPlace_atomic`.
-/

namespace RegionClient

namespace InPlace

variable {σ α ι : Type}

/-- **Atomic dialogues.** The dialogue fails and leaves the value as it was, or it succeeds, and
value and traffic before, result, and value and traffic after are related. -/
def Atomic (x : InPlace σ α) (Done : σ → Traffic → α → σ → Traffic → Prop) : Prop :=
  ∀ s t, (∃ e u, x s t = (.error e, s, u)) ∨
    ∃ a s' u, x s t = (.ok a, s', u) ∧ Done s t a s' u

/-- The value after a run of operations, whichever of them fail. What else happens before each of
them is left open, so it comes with the traffic that it finds. -/
def after (x : ι → InPlace σ α) : List (ι × Traffic) → σ → σ
  | [], s => s
  | (i, t) :: rest, s => after x rest (x i s t).2.1

/-- What holds from each operation to the next holds over the whole run. -/
theorem after_induction {x : ι → InPlace σ α} {R : σ → σ → Prop}
    (hrefl : ∀ s, R s s) (htrans : ∀ s s' s'', R s s' → R s' s'' → R s s'')
    (hstep : ∀ i s t, R s (x i s t).2.1) (run : List (ι × Traffic)) (s : σ) :
    R s (after x run s) := by
  -- The first operation changes the value with which the rest of the run begins.
  induction run generalizing s with
  | nil => exact hrefl s
  | cons p rest ih => exact htrans _ _ _ (hstep p.1 s p.2) (ih _)

/-- An atomic dialogue that succeeds only in a relation relates the values in any case. -/
theorem Atomic.rel {x : InPlace σ α} {Done : σ → Traffic → α → σ → Traffic → Prop}
    {R : σ → σ → Prop} (h : x.Atomic Done) (hrefl : ∀ s, R s s)
    (hdone : ∀ s t a s' u, Done s t a s' u → R s s') (s : σ) (t : Traffic) :
    R s (x s t).2.1 := by
  rcases h s t with ⟨e, u, hx⟩ | ⟨a, s', u, hx, hs'⟩
  · rw [hx]
    exact hrefl s
  · rw [hx]
    exact hdone s t a s' u hs'

/-- Atomic operations that succeed only in a relation relate the values at both ends of a run. -/
theorem Atomic.after_rel {x : ι → InPlace σ α} {Done : ι → σ → Traffic → α → σ → Traffic → Prop}
    {R : σ → σ → Prop} (h : ∀ i, (x i).Atomic (Done i)) (hrefl : ∀ s, R s s)
    (htrans : ∀ s s' s'', R s s' → R s' s'' → R s s'')
    (hdone : ∀ i s t a s' u, Done i s t a s' u → R s s') (run : List (ι × Traffic)) (s : σ) :
    R s (after x run s) :=
  after_induction hrefl htrans (fun i => (h i).rel hrefl (hdone i)) run s

/-- To take over what a dialogue gives fails, with the value as it was, or succeeds, with what
replaces it. -/
theorem replace_cases (x : Dialogue α) (f : σ → α → Except Error σ) (s : σ) (t : Traffic) :
    (∃ e u, (liftM x >>= fun a => replace fun s => f s a) s t = (.error e, s, u)) ∨
      ∃ a s' u, x t = (.ok a, u) ∧ f s a = .ok s' ∧
        (liftM x >>= fun a => replace fun s => f s a) s t = (.ok (), s', u) := by
  rcases hx : x t with ⟨e | a, u⟩
  · exact .inl ⟨e, u, lift_bind_error hx⟩
  · cases hf : f s a with
    | error e =>
        refine .inl ⟨e, u, ?_⟩
        rw [lift_bind_ok hx, replace, hf]
    | ok s' =>
        refine .inr ⟨a, s', u, rfl, hf, ?_⟩
        rw [lift_bind_ok hx, replace, hf]

end InPlace

theorem Machine.refresh_eq_ok {m fresh m' : Machine} (h : m.refresh fresh = .ok m') :
    m' = fresh ∧ m'.systemId = m.systemId := by
  unfold Machine.refresh at h
  split at h
  · rename_i hid
    obtain rfl := Except.ok.inj h
    exact ⟨rfl, hid⟩
  · cases h

theorem Interface.refresh_eq_ok {i fresh i' : Interface} (h : i.refresh fresh = .ok i') :
    i' = fresh ∧ i'.id = i.id := by
  unfold Interface.refresh at h
  split at h
  · rename_i hid
    obtain rfl := Except.ok.inj h
    exact ⟨rfl, hid⟩
  · cases h

/-! ## Steps -/

/-- An operation on a machine. -/
inductive MachineStep where
  | deploy (order : Deployment)
  | setOwnerData (data : SortedMap String)

/-- An operation on an interface. -/
inductive InterfaceStep where
  | update (change : InterfaceChange)
  | link (order : NewLink)
  | unlink (subnet : Subnet)

/-- The call of an operation on a machine. -/
def MachineStep.call (m : Machine) : MachineStep → Call
  | deploy order => .post m.resourceUri [("op", "deploy")] order.parameters
  | setOwnerData data => .post m.resourceUri [("op", "set_owner_data")] data.entries

/-- Whether an operation wants nothing to be changed. -/
def InterfaceStep.isIdle : InterfaceStep → Bool
  | update change => change.isEmpty
  | _ => false

/-- What an operation wants of an interface and of its own arguments. -/
def InterfaceStep.admission (i : Interface) : InterfaceStep → Except Rejection Unit
  | update _ => .ok ()
  | link order => order.validate
  | unlink subnet =>
      if (i.linkForSubnet? subnet.id).isSome then .ok ()
      else .error (.interfaceNotLinked i.name subnet.cidr)

/-- The call of an operation on an interface, if the interface has the link that it needs. -/
def InterfaceStep.call? (i : Interface) : InterfaceStep → Option Call
  | update change => some ⟨.put, i.resourceUri, [], .form change.parameters⟩
  | link order => some (.post i.resourceUri [("op", "link_subnet")] order.parameters)
  | unlink subnet =>
      (i.linkForSubnet? subnet.id).map fun found =>
        .post i.resourceUri [("op", "unlink_subnet")] [("id", Numeral.ofInt found.id.toInt)]

/-- The call that adds an interface to a device. -/
def NewInterface.call (d : Device) (order : NewInterface) : Call :=
  .post (d.resourceUri ++ "interfaces/") [("op", "create_physical")] order.parameters

namespace Controller

variable (c : Controller)

/-- Performs an operation on a machine. -/
def machineStep : MachineStep → InPlace Machine Unit
  | .deploy order => c.deploy order
  | .setOwnerData data => c.setOwnerData data

/-- Performs an operation on an interface. -/
def interfaceStep : InterfaceStep → InPlace Interface Unit
  | .update change => c.updateInterface change
  | .link order => c.linkSubnet order
  | .unlink subnet => c.unlinkSubnet subnet

/-! ## Machines -/

theorem machineStep_apply (step : MachineStep) (m : Machine) (t : Traffic) :
    c.machineStep step m t = (liftM (c.sendAndRead (step.call m) Machine.reader.read) >>=
      fun fresh => InPlace.replace fun m => m.refresh fresh) m t := by
  cases step with
  | deploy order => exact InPlace.value_bind _ m t
  | setOwnerData data => exact InPlace.value_bind _ m t

/-- A machine becomes what the last response says, and keeps its system id. -/
theorem machineStep_atomic (step : MachineStep) :
    (c.machineStep step).Atomic fun m t _ m' u =>
      c.Answered (step.call m) Machine.reader.read t u m' ∧ m'.systemId = m.systemId := by
  intro m t
  rw [machineStep_apply]
  rcases InPlace.replace_cases (c.sendAndRead (step.call m) Machine.reader.read) Machine.refresh
    m t with h | ⟨fresh, m', u, hread, hrefresh, h⟩
  · exact .inl h
  · obtain ⟨rfl, hid⟩ := Machine.refresh_eq_ok hrefresh
    exact .inr ⟨(), m', u, h, sendAndRead_ok hread, hid⟩

/-! ## Interfaces -/

theorem sendForInterface_atomic (call : Call) :
    (c.sendForInterface call).Atomic fun i t _ i' u =>
      c.Answered call Interface.reader.read t u i' ∧ i'.id = i.id := by
  intro i t
  rw [sendForInterface]
  rcases InPlace.replace_cases (c.sendAndRead call Interface.reader.read) Interface.refresh i t with
    h | ⟨fresh, i', u, hread, hrefresh, h⟩
  · exact .inl h
  · obtain ⟨rfl, hid⟩ := Interface.refresh_eq_ok hrefresh
    exact .inr ⟨(), i', u, h, sendAndRead_ok hread, hid⟩

theorem sendForInterface_extends (call : Call) (i : Interface) (t : Traffic) :
    c.Extends (· = call) t (c.sendForInterface call i t).2.2 := by
  rw [sendForInterface, InPlace.lift_replace_traffic]
  exact c.sendAndRead_extends call Interface.reader.read t

theorem updateInterface_apply {change : InterfaceChange} (h : change.isEmpty = false)
    (i : Interface) (t : Traffic) : c.updateInterface change i t =
      c.sendForInterface ⟨.put, i.resourceUri, [], .form change.parameters⟩ i t := by
  simp only [updateInterface, h]
  exact InPlace.value_bind _ i t

theorem linkSubnet_apply {order : NewLink} (h : order.validate = .ok ()) (i : Interface)
    (t : Traffic) : c.linkSubnet order i t =
      c.sendForInterface (.post i.resourceUri [("op", "link_subnet")] order.parameters) i t := by
  rw [linkSubnet, h, InPlace.lift_bind_ok (Dialogue.check_ok _ t)]
  exact InPlace.value_bind _ i t

/-- An operation on an interface is rejected before anything is sent, wants nothing to be changed,
or sends its call. -/
theorem interfaceStep_cases (step : InterfaceStep) (i : Interface) (t : Traffic) :
    (∃ r, step.admission i = .error r ∧
      c.interfaceStep step i t = (.error (.notValid r), i, t)) ∨
    (step.admission i = .ok () ∧ step.isIdle = true ∧ c.interfaceStep step i t = (.ok (), i, t)) ∨
    ∃ call, step.admission i = .ok () ∧ step.isIdle = false ∧ step.call? i = some call ∧
      c.interfaceStep step i t = c.sendForInterface call i t := by
  cases step with
  -- Only a change can be idle, and only the others can be refused before anything is sent.
  | update change =>
      cases hidle : change.isEmpty with
      | true =>
          refine .inr (.inl ⟨rfl, hidle, ?_⟩)
          simp [interfaceStep, updateInterface, hidle]
      | false => exact .inr (.inr ⟨_, rfl, hidle, rfl, c.updateInterface_apply hidle i t⟩)
  | link order =>
      cases hvalid : order.validate with
      | error r =>
          refine .inl ⟨r, hvalid, ?_⟩
          simp only [interfaceStep, linkSubnet, hvalid]
          exact InPlace.lift_bind_error (Dialogue.check_error r t)
      | ok _ => exact .inr (.inr ⟨_, hvalid, rfl, rfl, c.linkSubnet_apply hvalid i t⟩)
  | unlink subnet =>
      cases hlink : i.linkForSubnet? subnet.id with
      | none =>
          refine .inl ⟨.interfaceNotLinked i.name subnet.cidr, ?_, ?_⟩
          · simp [InterfaceStep.admission, hlink]
          · simp only [interfaceStep, unlinkSubnet]
            rw [InPlace.value_bind, hlink]
            rfl
      | some found =>
          refine .inr (.inr ⟨_, ?_, rfl, congrArg (Option.map _) hlink, ?_⟩)
          · simp [InterfaceStep.admission, hlink]
          · simp only [interfaceStep, unlinkSubnet]
            rw [InPlace.value_bind, hlink]
            exact InPlace.value_bind _ i t

theorem interfaceStep_rejected {step : InterfaceStep} {i : Interface} {r : Rejection}
    (h : step.admission i = .error r) (t : Traffic) :
    c.interfaceStep step i t = (.error (.notValid r), i, t) := by
  rcases c.interfaceStep_cases step i t with ⟨r', hr', hstep⟩ | ⟨hok, -⟩ | ⟨_, hok, -⟩
  · obtain rfl := Except.error.inj (hr'.symm.trans h)
    exact hstep
  · cases hok.symm.trans h
  · cases hok.symm.trans h

/-- An interface becomes what the last response says, or stays as it is where nothing is to be
changed; it keeps its id. -/
theorem interfaceStep_atomic (step : InterfaceStep) :
    (c.interfaceStep step).Atomic fun i t _ i' u =>
      if step.isIdle then i' = i ∧ u = t
      else ∃ call, step.call? i = some call ∧
        c.Answered call Interface.reader.read t u i' ∧ i'.id = i.id := by
  intro i t
  rcases c.interfaceStep_cases step i t with ⟨r, -, h⟩ | ⟨-, hidle, h⟩ | ⟨call, -, hidle, hcall, h⟩
  · exact .inl ⟨.notValid r, t, h⟩
  · refine .inr ⟨(), i, t, h, ?_⟩
    show if step.isIdle then i = i ∧ t = t else _
    rw [if_pos hidle]
    exact ⟨rfl, rfl⟩
  · rw [h]
    rcases c.sendForInterface_atomic call i t with hfail | ⟨_, i', u, hsend, hdone⟩
    · exact .inl hfail
    · refine .inr ⟨(), i', u, hsend, ?_⟩
      show if step.isIdle then _ else _
      rw [if_neg (Bool.eq_false_iff.mp hidle)]
      exact ⟨call, hcall, hdone⟩

/-! ## Devices -/

theorem addInterface_apply {order : NewInterface} (h : order.validate = .ok ()) (d : Device)
    (t : Traffic) : c.addInterface order d t =
      match c.sendAndRead (order.call d) Interface.reader.read t with
      | (.error e, u) => (.error e, d, u)
      | (.ok i, u) => (.ok i, { d with interfaces := d.interfaces ++ [i] }, u) := by
  rw [addInterface, h, InPlace.lift_bind_ok (Dialogue.check_ok _ t), InPlace.value_bind]
  rcases hread : c.sendAndRead (order.call d) Interface.reader.read t with ⟨e | i, u⟩
  · exact InPlace.lift_bind_error hread
  · exact InPlace.lift_bind_ok hread

theorem addInterface_rejected {order : NewInterface} {r : Rejection}
    (h : order.validate = .error r) (d : Device) (t : Traffic) :
    c.addInterface order d t = (.error (.notValid r), d, t) := by
  rw [addInterface, h]
  exact InPlace.lift_bind_error (Dialogue.check_error r t)

/-- A device gets the interface that the last response describes, after those it has. -/
theorem addInterface_atomic (order : NewInterface) :
    (c.addInterface order).Atomic fun d t i d' u =>
      c.Answered (order.call d) Interface.reader.read t u i ∧
        d' = { d with interfaces := d.interfaces ++ [i] } := by
  intro d t
  cases hvalid : order.validate with
  | error r => exact .inl ⟨.notValid r, t, c.addInterface_rejected hvalid d t⟩
  | ok _ =>
      have happly := c.addInterface_apply hvalid d t
      rcases hread : c.sendAndRead (order.call d) Interface.reader.read t with ⟨e | i, u⟩
      · rw [hread] at happly
        exact .inl ⟨e, u, happly⟩
      · rw [hread] at happly
        exact .inr ⟨i, _, u, happly, sendAndRead_ok hread, rfl⟩

/-! ## Runs -/

/-- A machine stays the one it is. -/
theorem systemId_after (run : List (MachineStep × Traffic)) (m : Machine) :
    (InPlace.after c.machineStep run m).systemId = m.systemId := by
  refine InPlace.Atomic.after_rel (R := fun m m' : Machine => m'.systemId = m.systemId)
    c.machineStep_atomic (fun _ => rfl) (fun _ _ _ h h' => h'.trans h) ?_ run m
  intro step m t _ m' u h
  exact h.2

/-- An interface stays the one it is. -/
theorem id_after (run : List (InterfaceStep × Traffic)) (i : Interface) :
    (InPlace.after c.interfaceStep run i).id = i.id := by
  refine InPlace.Atomic.after_rel (R := fun i i' : Interface => i'.id = i.id)
    c.interfaceStep_atomic (fun _ => rfl) (fun _ _ _ h h' => h'.trans h) ?_ run i
  intro step i t _ i' u h
  split at h
  · rw [h.1]
  · obtain ⟨_, _, _, hid⟩ := h
    exact hid

/-- A device gets more interfaces, after those it has, and stays the same otherwise. -/
theorem interfaces_after (run : List (NewInterface × Traffic)) (d : Device) :
    ∃ added, InPlace.after c.addInterface run d =
      { d with interfaces := d.interfaces ++ added } := by
  refine InPlace.Atomic.after_rel
    (R := fun d d' : Device => ∃ added, d' = { d with interfaces := d.interfaces ++ added })
    c.addInterface_atomic ?_ ?_ ?_ run d
  · intro d
    exact ⟨[], by rw [List.append_nil]⟩
  · rintro d _ _ ⟨first, rfl⟩ ⟨more, rfl⟩
    exact ⟨first ++ more, by rw [List.append_assoc]⟩
  · intro order d t i d' u h
    exact ⟨[i], h.2⟩

/-- **Operations in place are atomic.** Each fails and leaves the value as it was, or succeeds and
leaves what the last response says; a device keeps what it has and gets an interface. So a run of
operations never changes which machine or interface it is about, nor what a device had before. -/
theorem inPlace_atomic :
    (∀ step : MachineStep, (c.machineStep step).Atomic fun m t _ m' u =>
      c.Answered (step.call m) Machine.reader.read t u m' ∧ m'.systemId = m.systemId) ∧
    (∀ step : InterfaceStep, (c.interfaceStep step).Atomic fun i t _ i' u =>
      if step.isIdle then i' = i ∧ u = t
      else ∃ call, step.call? i = some call ∧
        c.Answered call Interface.reader.read t u i' ∧ i'.id = i.id) ∧
    (∀ order : NewInterface, (c.addInterface order).Atomic fun d t i d' u =>
      c.Answered (order.call d) Interface.reader.read t u i ∧
        d' = { d with interfaces := d.interfaces ++ [i] }) ∧
    (∀ run m, (InPlace.after c.machineStep run m).systemId = m.systemId) ∧
    (∀ run i, (InPlace.after c.interfaceStep run i).id = i.id) ∧
    ∀ run d, ∃ added, InPlace.after c.addInterface run d =
      { d with interfaces := d.interfaces ++ added } :=
  ⟨c.machineStep_atomic, c.interfaceStep_atomic, c.addInterface_atomic, c.systemId_after,
    c.id_after, c.interfaces_after⟩

end Controller

end RegionClient

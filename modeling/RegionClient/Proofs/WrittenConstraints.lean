import Mathlib.Data.List.Infix
import RegionClient.Order.Constraints

set_option autoImplicit false

/-! # Written interface constraints

The interface constraints of an allocation are sent as one text, `label:space=name` for each and
semicolons between them. Labels and spaces go into it as they are: no check looks for a delimiter
inside them, so that two lists which are both valid can be written alike
(`Constraints.interfaces_ambiguous`).

The text tells all lists apart in which no label holds `:space=` and no space holds a semicolon
(`InterfaceConstraint.Delimited`). Cut at the first `:space=`, it gives the first label, and cut
there at the first semicolon the first space; `cut_unique` is the fact about either cut, and
`Constraints.interfaces_eq` the result for whole lists.
-/

namespace RegionClient

/-! ## Cutting at a delimiter -/

section Cut

variable {α : Type} {d : α} {m l l' r r' : List α}

/-- A second delimiter cannot begin inside the first, so a text that goes on after the place of the
first cut holds a whole one. -/
theorem eq_nil_of_cut (hm : d ∉ m) {a : List α} (ha : ¬ d :: m <:+: l ++ a)
    (h : d :: m ++ r = a ++ (d :: m ++ r')) : a = [] := by
  cases a with
  | nil => rfl
  | cons e a =>
    obtain ⟨rfl, hrest⟩ : d = e ∧ m ++ r = a ++ (d :: m ++ r') := by simpa using h
    rcases List.append_eq_append_iff.mp hrest with ⟨x, hx, -⟩ | ⟨x, rfl, hx⟩
    · exact absurd ⟨l, x, by simp [hx]⟩ ha
    · cases x with
      | nil => exact absurd ⟨l, [], by simp⟩ ha
      | cons e x =>
        obtain ⟨rfl, -⟩ := List.cons.inj hx
        exact absurd (List.mem_append_right a List.mem_cons_self) hm

/-- **A cut at a delimiter is unique**: there is one way to write a list as a part without the
delimiter, the delimiter, and a rest, if the delimiter does not hold its first element twice. -/
theorem cut_unique (hm : d ∉ m) (hl : ¬ d :: m <:+: l) (hl' : ¬ d :: m <:+: l')
    (h : l ++ (d :: m ++ r) = l' ++ (d :: m ++ r')) : l = l' ∧ r = r' := by
  have hparts : l = l' := by
    rcases List.append_eq_append_iff.mp h with ⟨a, rfl, ha⟩ | ⟨a, rfl, ha⟩
    · rw [eq_nil_of_cut hm hl' ha, List.append_nil]
    · rw [eq_nil_of_cut hm hl ha, List.append_nil]
  subst hparts
  have hrest : d :: m ++ r = d :: m ++ r' := List.append_cancel_left h
  exact ⟨rfl, List.append_cancel_left hrest⟩

/-- **Items one after the other** tell the list that they come from, if each tells itself and what
follows it. -/
theorem flatMap_inj {β : Type} {f : β → List α} {P : β → Prop} (hne : ∀ b, f b ≠ [])
    (hinj : ∀ {b b' : β}, P b → P b' → ∀ {s s' : List α}, f b ++ s = f b' ++ s' →
      b = b' ∧ s = s')
    {bs bs' : List β} (hbs : ∀ b ∈ bs, P b) (hbs' : ∀ b ∈ bs', P b)
    (h : bs.flatMap f = bs'.flatMap f) : bs = bs' := by
  induction bs generalizing bs' with
  | nil =>
    cases bs' with
    | nil => rfl
    | cons b' rest' => simp [hne] at h
  | cons b rest ih =>
    cases bs' with
    | nil => simp [hne] at h
    | cons b' rest' =>
      obtain ⟨hb, hrest⟩ := List.forall_mem_cons.mp hbs
      obtain ⟨hb', hrest'⟩ := List.forall_mem_cons.mp hbs'
      rw [List.flatMap_cons, List.flatMap_cons] at h
      obtain ⟨rfl, hs⟩ := hinj hb hb' h
      rw [ih hrest hrest' hs]

end Cut

/-! ## The written form of a list -/

/-- With one more separator at the end, every text stands before a separator. -/
theorem Text.joined_closed (separator : String) {texts : List String} (hne : texts ≠ []) :
    (joined separator texts).toList ++ separator.toList =
      texts.flatMap fun t => t.toList ++ separator.toList := by
  induction texts with
  | nil => exact absurd rfl hne
  | cons t rest ih =>
    cases rest with
    | nil => simp [joined]
    | cons t' rest =>
      have hrest := ih (List.cons_ne_nil t' rest)
      rw [toList_joined_cons, List.flatMap_cons, ← hrest, List.append_assoc, List.append_assoc,
        List.append_assoc]

/-- The text of a list is empty if the list is, or has one empty item. -/
theorem Text.joined_eq_empty {separator : String} (hseparator : separator ≠ "")
    {texts : List String} : joined separator texts = "" ↔ texts = [] ∨ texts = [""] := by
  have hne : separator.toList ≠ [] := fun h => hseparator (String.toList_eq_nil_iff.mp h)
  match texts with
  | [] => simp [joined]
  | [t] => simp [joined]
  | t :: t' :: rest =>
    rw [← String.toList_eq_nil_iff, toList_joined_cons]
    simp [hne]

namespace InterfaceConstraint

/-- A delimiter of the written form stands in no part that it ends. -/
def Delimited (c : InterfaceConstraint) : Prop :=
  ¬ ":space=".toList <:+: c.label.toList ∧ ';' ∉ c.space.toList

instance (c : InterfaceConstraint) : Decidable c.Delimited :=
  inferInstanceAs (Decidable (¬ ":space=".toList <:+: c.label.toList ∧ ';' ∉ c.space.toList))

/-- The written form of a constraint with a semicolon at the end. -/
def closed (c : InterfaceConstraint) : List Char :=
  c.label.toList ++ (":space=".toList ++ (c.space.toList ++ [';']))

theorem text_closed (c : InterfaceConstraint) : c.text.toList ++ [';'] = c.closed := by
  simp [text, closed]

/-- What begins with a closed constraint tells it and what follows. -/
theorem closed_append_inj {c c' : InterfaceConstraint} (hc : c.Delimited) (hc' : c'.Delimited)
    {s s' : List Char} (h : c.closed ++ s = c'.closed ++ s') : c = c' ∧ s = s' := by
  have hsemicolon {t : List Char} (ht : ';' ∉ t) : ¬ [';'] <:+: t := by
    rwa [List.singleton_infix_iff]
  have hlabel : c.label.toList = c'.label.toList ∧
      c.space.toList ++ ([';'] ++ s) = c'.space.toList ++ ([';'] ++ s') := by
    refine cut_unique (d := ':') (m := "space=".toList) (by decide) hc.1 hc'.1 ?_
    simpa [closed] using h
  have hspace : c.space.toList = c'.space.toList ∧ s = s' :=
    cut_unique List.not_mem_nil (hsemicolon hc.2) (hsemicolon hc'.2) hlabel.2
  refine ⟨?_, hspace.2⟩
  obtain ⟨label, space⟩ := c
  obtain ⟨label', space'⟩ := c'
  obtain rfl : label = label' := String.toList_inj.mp hlabel.1
  obtain rfl : space = space' := String.toList_inj.mp hspace.1
  rfl

/-- **Closed constraints one after the other** tell the list that they come from. -/
theorem flatMap_closed_inj {cs cs' : List InterfaceConstraint} (hcs : ∀ c ∈ cs, c.Delimited)
    (hcs' : ∀ c ∈ cs', c.Delimited) (h : cs.flatMap closed = cs'.flatMap closed) : cs = cs' := by
  have hne (c : InterfaceConstraint) : c.closed ≠ [] := by simp [closed]
  exact flatMap_inj hne closed_append_inj hcs hcs' h

theorem joined_text_closed {cs : List InterfaceConstraint} (hne : cs ≠ []) :
    (Text.joined ";" (cs.map text)).toList ++ [';'] = cs.flatMap closed := by
  have htexts : cs.map text ≠ [] := by simpa using hne
  have hclosed := Text.joined_closed ";" htexts
  simpa [List.flatMap_map, text_closed] using hclosed

theorem joined_text_ne_empty {cs : List InterfaceConstraint} (hne : cs ≠ []) :
    Text.joined ";" (cs.map text) ≠ "" := by
  rw [Ne, Text.joined_eq_empty (by decide), List.map_eq_nil_iff]
  rintro (h | h)
  · exact hne h
  · obtain ⟨c, -, htext⟩ := List.map_eq_singleton_iff.mp h
    simp [text] at htext

end InterfaceConstraint

/-! ## The parameter -/

namespace Parameters

variable {key name : String} {ps qs : Parameters}

theorem findEntry_append : findEntry name (ps ++ qs) =
    (findEntry name ps).or (findEntry name qs) := by
  induction ps with
  | nil => rfl
  | cons p rest ih =>
    rw [List.cons_append, findEntry, findEntry]
    split
    · rfl
    · exact ih

/-- A block has nothing under other names. -/
theorem findEntry_eq_none (h : ∀ p ∈ ps, p.1 ≠ name) : findEntry name ps = none := by
  cases hfound : findEntry name ps with
  | none => rfl
  | some value => exact absurd rfl (h _ (mem_of_findEntry hfound))

theorem findEntry_nonempty (value : String) : findEntry name (nonempty key value) =
    if key = name ∧ value ≠ "" then some value else none := by
  unfold nonempty
  by_cases hvalue : value = "" <;> simp [hvalue, findEntry]

theorem findEntry_optional (hne : key ≠ name) (value : Option String) :
    findEntry name (optional key value) = none := by
  cases value <;> simp [optional, findEntry, hne]

theorem findEntry_each (hne : key ≠ name) (values : List String) :
    findEntry name (each key values) = none :=
  findEntry_eq_none fun _ hp heq => hne ((mem_each.mp hp).1.symm.trans heq)

theorem findEntry_flag (hne : key ≠ name) (value : Bool) :
    findEntry name (flag key value) = none := by
  cases value <;> simp [flag, findEntry, hne]

end Parameters

namespace Constraints

theorem findEntry_interfaces (c : Constraints) :
    findEntry "interfaces" c.parameters =
      if c.interfaces = [] then none
      else some (Text.joined ";" (c.interfaces.map InterfaceConstraint.text)) := by
  have hblock : findEntry "interfaces" c.parameters =
      if Text.joined ";" (c.interfaces.map InterfaceConstraint.text) = "" then none
      else some (Text.joined ";" (c.interfaces.map InterfaceConstraint.text)) := by
    simp [parameters, Parameters.findEntry_append, Parameters.findEntry_nonempty,
      Parameters.findEntry_optional, Parameters.findEntry_each, Parameters.findEntry_flag]
  rw [hblock]
  by_cases hempty : c.interfaces = []
  · simp [hempty, Text.joined]
  · rw [if_neg (InterfaceConstraint.joined_text_ne_empty hempty), if_neg hempty]

variable {c c' : Constraints}

/-- **Interface constraints survive being written**, unless a label or a space holds the delimiter
at its end: allocations with the same parameter, or both without it, want the same interfaces. -/
theorem interfaces_eq (hc : ∀ i ∈ c.interfaces, i.Delimited)
    (hc' : ∀ i ∈ c'.interfaces, i.Delimited)
    (h : findEntry "interfaces" c.parameters = findEntry "interfaces" c'.parameters) :
    c.interfaces = c'.interfaces := by
  rw [findEntry_interfaces, findEntry_interfaces] at h
  by_cases hne : c.interfaces = []
  · by_cases hne' : c'.interfaces = []
    · rw [hne, hne']
    · simp [hne, hne'] at h
  · by_cases hne' : c'.interfaces = []
    · simp [hne, hne'] at h
    · rw [if_neg hne, if_neg hne'] at h
      refine InterfaceConstraint.flatMap_closed_inj hc hc' ?_
      rw [← InterfaceConstraint.joined_text_closed hne,
        ← InterfaceConstraint.joined_text_closed hne', Option.some.inj h]

/-- Constraints on the interfaces and the name of a machine. -/
def wanting (interfaces : List InterfaceConstraint) (hostname : String) : Constraints where
  hostname := hostname
  systemId := ""
  architecture := ""
  minCpuCount := none
  minMemory := none
  tags := []
  excludedTags := []
  zone := ""
  excludedZones := []
  interfaces := interfaces
  excludedSpaces := []
  storage := []
  agentName := ""
  comment := ""
  dryRun := false

/-- Labels may hold semicolons, and spaces what stands between a label and a space. -/
theorem interfaces_eq_mixed :
    (∀ i ∈ (wanting [⟨"a;b", "x:space=y"⟩, ⟨"c", "d"⟩] "").interfaces, i.Delimited) ∧
    findEntry "interfaces" (wanting [⟨"a;b", "x:space=y"⟩, ⟨"c", "d"⟩] "").parameters =
      findEntry "interfaces" (wanting [⟨"a;b", "x:space=y"⟩, ⟨"c", "d"⟩] "node-1").parameters ∧
    (wanting [⟨"a;b", "x:space=y"⟩, ⟨"c", "d"⟩] "").interfaces =
      (wanting [⟨"a;b", "x:space=y"⟩, ⟨"c", "d"⟩] "node-1").interfaces := by
  have hdelimited :
      ∀ i ∈ (wanting [⟨"a;b", "x:space=y"⟩, ⟨"c", "d"⟩] "").interfaces, i.Delimited := by
    decide
  exact ⟨hdelimited, rfl, interfaces_eq hdelimited hdelimited rfl⟩

/-- **Valid constraints may be written alike**: one text for a label with `:space=` inside, a space
with a semicolon inside, and two constraints without either. -/
theorem interfaces_ambiguous :
    ((wanting [⟨"a:space=b;c", "x"⟩] "").validate = .ok () ∧
      (wanting [⟨"a", "b;c:space=x"⟩] "").validate = .ok () ∧
      (wanting [⟨"a", "b"⟩, ⟨"c", "x"⟩] "").validate = .ok ()) ∧
    (findEntry "interfaces" (wanting [⟨"a:space=b;c", "x"⟩] "").parameters =
        some "a:space=b;c:space=x" ∧
      findEntry "interfaces" (wanting [⟨"a", "b;c:space=x"⟩] "").parameters =
        some "a:space=b;c:space=x" ∧
      findEntry "interfaces" (wanting [⟨"a", "b"⟩, ⟨"c", "x"⟩] "").parameters =
        some "a:space=b;c:space=x") ∧
    (wanting [⟨"a:space=b;c", "x"⟩] "").interfaces ≠ (wanting [⟨"a", "b;c:space=x"⟩] "").interfaces ∧
    (wanting [⟨"a:space=b;c", "x"⟩] "").interfaces ≠
      (wanting [⟨"a", "b"⟩, ⟨"c", "x"⟩] "").interfaces ∧
    (wanting [⟨"a", "b;c:space=x"⟩] "").interfaces ≠
      (wanting [⟨"a", "b"⟩, ⟨"c", "x"⟩] "").interfaces := by
  refine ⟨⟨rfl, rfl, rfl⟩, ⟨?_, ?_, ?_⟩, by decide, by decide, by decide⟩
  · decide
  · decide
  · decide

end Constraints

end RegionClient

import TradeRegister.Proofs.Store.Record
import TradeRegister.Service.Validation

/-! # What validation lets pass

A new record that passes has all that a row needs. A partial update that passes names its target and
its editor, clears nothing but perhaps the description, and leaves the creator alone.
-/

namespace TradeRegister

theorem Attribute.isUnset_iff {α : Type} {x : Attribute α} : x.isUnset = true ↔ x = .unset := by
  cases x <;> simp [isUnset]

namespace Service.Limits

/-- What validation asks of a partial update of `id`. -/
structure Passes (l : Limits) (c : Company) (id : Uuid) : Prop where
  id : c.id = .value id
  editor : ∃ actor, c.updatedBy = .value actor ∧ checkActor "updated_by" actor = .ok ()
  name : c.name ≠ .cleared
  checkName : checkGiven l.checkName c.name.value? = .ok ()
  description : l.checkDescription c.description = .ok ()
  employeeCount : c.employeeCount ≠ .cleared
  checkEmployeeCount : checkGiven checkEmployeeCount c.employeeCount.value? = .ok ()
  registered : c.registered ≠ .cleared
  kind : c.kind ≠ .cleared
  createdBy : c.createdBy = .unset

theorem checkPatch_eq_ok_iff {l : Limits} {c : Company} {id : Uuid} :
    l.checkPatch c = .ok id ↔ l.Passes c id := by
  simp only [checkPatch, bind_eq_ok_iff, discard_eq_ok_iff, Attribute.require_eq_ok_iff,
    Attribute.rejectCleared_eq_ok_iff]
  constructor
  · rintro ⟨_, hid, actor, heditor, _, hactor, _, ⟨hname, rfl⟩, _, hchecked, _, hdescription, _,
      ⟨hcount, rfl⟩, _, hnumber, _, ⟨_, hregistered, _⟩, _, ⟨_, hkind, _⟩, hcreator⟩
    by_cases hunset : c.createdBy.isUnset
    · rw [if_pos hunset] at hcreator
      obtain rfl := Except.ok.inj hcreator
      exact ⟨hid, ⟨actor, heditor, hactor⟩, hname, hchecked, hdescription, hcount, hnumber,
        hregistered, hkind, Attribute.isUnset_iff.1 hunset⟩
    · rw [if_neg hunset] at hcreator
      cases hcreator
  · rintro ⟨hid, ⟨actor, heditor, hactor⟩, hname, hchecked, hdescription, hcount, hnumber,
      hregistered, hkind, hcreator⟩
    refine ⟨id, hid, actor, heditor, _, hactor, _, ⟨hname, rfl⟩, _, hchecked, _, hdescription, _,
      ⟨hcount, rfl⟩, _, hnumber, ⟨⟩, ⟨_, hregistered, rfl⟩, ⟨⟩, ⟨_, hkind, rfl⟩, ?_⟩
    rw [if_pos (Attribute.isUnset_iff.2 hcreator)]
    rfl

/-- A partial update that passes can be written. -/
theorem Passes.isWritable {l : Limits} {c : Company} {id : Uuid} (h : l.Passes c id) :
    Store.CompanyWrite.IsWritable c := by
  obtain ⟨actor, heditor, _⟩ := h.editor
  exact ⟨h.name, h.employeeCount, h.registered, h.kind, by simp [heditor]⟩

/-- What validation asks of a new record. -/
structure Admits (l : Limits) (c : Company) : Prop where
  id : c.id ≠ .cleared
  name : ∃ name, c.name = .value name ∧ l.checkName name = .ok ()
  description : l.checkDescription c.description = .ok ()
  employeeCount : ∃ n, c.employeeCount = .value n ∧ checkEmployeeCount n = .ok ()
  registered : ∃ registered, c.registered = .value registered
  kind : ∃ kind, c.kind = .value kind
  createdBy : ∃ actor, c.createdBy = .value actor ∧ checkActor "created_by" actor = .ok ()
  updatedBy : c.updatedBy ≠ .cleared

theorem checkNew_eq_ok_iff {l : Limits} {c : Company} : l.checkNew c = .ok () ↔ l.Admits c := by
  simp only [checkNew, bind_eq_ok_iff, discard_eq_ok_iff, Attribute.require_eq_ok_iff,
    Attribute.rejectCleared_eq_ok_iff]
  constructor
  · rintro ⟨_, ⟨_, hid, _⟩, name, hname, _, hchecked, _, hdescription, n, hcount, _, hnumber, _,
      hregistered, _, hkind, actor, hcreator, _, hactor, _, heditor, _⟩
    exact ⟨hid, ⟨name, hname, hchecked⟩, hdescription, ⟨n, hcount, hnumber⟩, hregistered, hkind,
      ⟨actor, hcreator, hactor⟩, heditor⟩
  · rintro ⟨hid, ⟨name, hname, hchecked⟩, hdescription, ⟨n, hcount, hnumber⟩, hregistered, hkind,
      ⟨actor, hcreator, hactor⟩, heditor⟩
    exact ⟨⟨⟩, ⟨_, hid, rfl⟩, name, hname, _, hchecked, _, hdescription, n, hcount, _, hnumber, ⟨⟩,
      hregistered, ⟨⟩, hkind, actor, hcreator, _, hactor, _, heditor, rfl⟩

/-- A new record that passes asks for a row. -/
theorem Admits.exists_records {l : Limits} {c : Company} (h : l.Admits c) (fresh : Uuid) :
    ∃ row : Store.CompanyRow, row.Records c fresh := by
  obtain ⟨name, hname, _⟩ := h.name
  obtain ⟨n, hcount, _⟩ := h.employeeCount
  obtain ⟨registered, hregistered⟩ := h.registered
  obtain ⟨kind, hkind⟩ := h.kind
  obtain ⟨actor, hcreator, _⟩ := h.createdBy
  have hid : ∃ id, c.id = .value id ∨ c.id = .unset ∧ id = fresh := by
    cases hid : c.id with
    | unset => exact ⟨fresh, .inr ⟨rfl, rfl⟩⟩
    | cleared => exact absurd hid h.id
    | value id => exact ⟨id, .inl rfl⟩
  obtain ⟨id, hid⟩ := hid
  exact ⟨⟨id, name, c.description.value?, n, registered, kind.name, actor, c.updatedBy.value?⟩,
    hid, hname, rfl, hcount, hregistered, ⟨kind, hkind, rfl⟩, hcreator, h.updatedBy, rfl⟩

/-! ## Refused records -/

theorem refuses_checkName (l : Limits) (name : String) :
    Refuses Fault.IsValidation (l.checkName name) := by
  unfold checkName
  split
  · exact refuses_validation _ _
  · split
    · exact refuses_validation _ _
    · exact .ok _

theorem refuses_checkDescription (l : Limits) (x : Attribute String) :
    Refuses Fault.IsValidation (l.checkDescription x) := by
  unfold checkDescription
  split
  · split
    · exact refuses_validation _ _
    · exact .ok _
  · exact .ok _

theorem refuses_checkEmployeeCount (n : Int32) :
    Refuses Fault.IsValidation (checkEmployeeCount n) := by
  unfold checkEmployeeCount
  split
  · exact refuses_validation _ _
  · exact .ok _

theorem refuses_checkActor (field : String) (actor : Uuid) :
    Refuses Fault.IsValidation (checkActor field actor) := by
  unfold checkActor
  split
  · exact refuses_validation _ _
  · exact .ok _

theorem refuses_checkGiven {α : Type} {check : α → Except Fault Unit}
    (h : ∀ a, Refuses Fault.IsValidation (check a)) (o : Option α) :
    Refuses Fault.IsValidation (checkGiven check o) := by
  cases o with
  | none => exact .ok _
  | some a => exact h a

theorem refuses_checkNew (l : Limits) (c : Company) :
    Refuses Fault.IsValidation (l.checkNew c) := by
  apply (c.id.refuses_rejectCleared "id").discarded.bind
  intro _
  apply (c.name.refuses_require "name").bind
  intro name
  apply (l.refuses_checkName name).bind
  intro _
  apply (l.refuses_checkDescription c.description).bind
  intro _
  apply (c.employeeCount.refuses_require "employee_count").bind
  intro employeeCount
  apply (refuses_checkEmployeeCount employeeCount).bind
  intro _
  apply (c.registered.refuses_require "registered").discarded.bind
  intro _
  apply (c.kind.refuses_require "company_type").discarded.bind
  intro _
  apply (c.createdBy.refuses_require "created_by").bind
  intro createdBy
  apply (refuses_checkActor "created_by" createdBy).bind
  intro _
  exact (c.updatedBy.refuses_rejectCleared "updated_by").discarded

theorem refuses_checkPatch (l : Limits) (c : Company) :
    Refuses Fault.IsValidation (l.checkPatch c) := by
  apply (c.id.refuses_require "id").bind
  intro id
  apply (c.updatedBy.refuses_require "updated_by").bind
  intro actor
  apply (refuses_checkActor "updated_by" actor).bind
  intro _
  apply (c.name.refuses_rejectCleared "name").bind
  intro name
  apply (refuses_checkGiven l.refuses_checkName name).bind
  intro _
  apply (l.refuses_checkDescription c.description).bind
  intro _
  apply (c.employeeCount.refuses_rejectCleared "employee_count").bind
  intro employeeCount
  apply (refuses_checkGiven refuses_checkEmployeeCount employeeCount).bind
  intro _
  apply (c.registered.refuses_rejectCleared "registered").discarded.bind
  intro _
  apply (c.kind.refuses_rejectCleared "company_type").discarded.bind
  intro _
  by_cases hunset : c.createdBy.isUnset
  · simp only [hunset, if_true]
    exact .ok id
  · simp only [hunset]
    exact refuses_validation _ _

end Service.Limits
end TradeRegister

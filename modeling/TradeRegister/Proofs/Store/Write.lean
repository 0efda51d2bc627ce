import TradeRegister.Proofs.Result
import TradeRegister.Store.Write

/-! # What a partial update writes

A partial update can be written when it names its target and clears no column but the description.
Each attribute with a value is then written to its column; the identifier and the creator stay as
they are.
-/

namespace TradeRegister.Store

namespace Column

variable {α : Type}

def ofOption : Option α → Column α
  | none => .notSet
  | some a => .set a

theorem overwrite_of_not_isSet {col : Column α} (h : col.isSet = false) (old : α) :
    col.overwrite old = old := by
  cases col with
  | set a => cases h
  | notSet => rfl
  | unchanged a => rfl

theorem ofAttribute_eq_ok_iff {field : String} {x : Attribute α} {col : Column α} :
    ofAttribute field x = .ok col ↔ x ≠ .cleared ∧ ofOption x.value? = col := by
  cases x <;> simp [ofAttribute, Attribute.value?, ofOption]

theorem ofSettable_eq_ok_iff {field : String} {x : Attribute α} {col : Column (Option α)} :
    ofSettable field x = .ok col ↔ x ≠ .cleared ∧ ofOption (x.value?.map some) = col := by
  cases x <;> simp [ofSettable, Attribute.value?, ofOption]

theorem refuses_ofAttribute (field : String) (x : Attribute α) :
    Refuses Fault.IsValidation (ofAttribute field x) := by
  cases x with
  | unset => exact .ok _
  | cleared => exact refuses_validation field "cannot be cleared"
  | value a => exact .ok _

theorem refuses_ofSettable (field : String) (x : Attribute α) :
    Refuses Fault.IsValidation (ofSettable field x) := by
  cases x with
  | unset => exact .ok _
  | cleared => exact refuses_validation field "cannot be cleared"
  | value a => exact .ok _

end Column

theorem refuses_assignId (fresh : Uuid) (id : Attribute Uuid) :
    Refuses Fault.IsValidation (assignId fresh id) :=
  (id.refuses_rejectCleared "id").map _

namespace CompanyWrite

theorem refuses_ofNew (fresh : Uuid) (c : Company) :
    Refuses Fault.IsValidation (ofNew fresh c) := by
  apply (refuses_assignId fresh c.id).bind
  intro id
  apply (c.name.refuses_require "name").bind
  intro name
  apply (c.employeeCount.refuses_require "employee_count").bind
  intro employeeCount
  apply (c.registered.refuses_require "registered").bind
  intro registered
  apply (c.kind.refuses_require "company_type").bind
  intro kind
  apply (c.createdBy.refuses_require "created_by").bind
  intro createdBy
  apply (Column.refuses_ofSettable "updated_by" c.updatedBy).bind
  intro updatedBy
  exact .ok _

theorem refuses_ofPatch (c : Company) : Refuses Fault.IsValidation (ofPatch c) := by
  apply (c.id.refuses_require "id").bind
  intro id
  apply (Column.refuses_ofAttribute "name" c.name).bind
  intro name
  apply (Column.refuses_ofAttribute "employee_count" c.employeeCount).bind
  intro employeeCount
  apply (Column.refuses_ofAttribute "registered" c.registered).bind
  intro registered
  apply (Column.refuses_ofAttribute "company_type" (c.kind.map CompanyKind.name)).bind
  intro kind
  apply (Column.refuses_ofSettable "updated_by" c.updatedBy).bind
  intro updatedBy
  exact .ok _

/-- A new record that can be written has every column that a row needs. -/
theorem exists_newRow_of_ofNew {fresh : Uuid} {c : Company} {w : CompanyWrite}
    (h : ofNew fresh c = .ok w) : ∃ row, w.newRow? = some row := by
  simp only [ofNew, bind_eq_ok_iff] at h
  obtain ⟨id, _, name, _, employeeCount, _, registered, _, kind, _, createdBy, _, updatedBy, _, hw⟩ := h
  rw [← Except.ok.inj hw]
  exact ⟨_, rfl⟩

/-- What a partial update of `id` writes if it can be written. -/
def forPatch (id : Uuid) (c : Company) : CompanyWrite where
  id := .unchanged id
  name := .ofOption c.name.value?
  description := .ofNullable c.description
  employeeCount := .ofOption c.employeeCount.value?
  registered := .ofOption c.registered.value?
  kind := .ofOption (c.kind.value?.map CompanyKind.name)
  createdBy := .notSet
  updatedBy := .ofOption (c.updatedBy.value?.map some)

/-- Only the description may be cleared. -/
structure IsWritable (c : Company) : Prop where
  name : c.name ≠ .cleared
  employeeCount : c.employeeCount ≠ .cleared
  registered : c.registered ≠ .cleared
  kind : c.kind ≠ .cleared
  updatedBy : c.updatedBy ≠ .cleared

theorem ofPatch_eq_ok_iff {c : Company} {id : Uuid} {w : CompanyWrite} :
    ofPatch c = .ok (id, w) ↔ c.id = .value id ∧ IsWritable c ∧ forPatch id c = w := by
  simp only [ofPatch, bind_eq_ok_iff, Attribute.require_eq_ok_iff, Column.ofAttribute_eq_ok_iff,
    Column.ofSettable_eq_ok_iff, Attribute.value?_map, Ne, Attribute.map_eq_cleared_iff]
  constructor
  · rintro ⟨_, hid, _, ⟨hname, rfl⟩, _, ⟨hcount, rfl⟩, _, ⟨hregistered, rfl⟩, _, ⟨hform, rfl⟩, _,
      ⟨heditor, rfl⟩, h⟩
    obtain ⟨rfl, rfl⟩ := Prod.mk.inj (Except.ok.inj h)
    exact ⟨hid, ⟨hname, hcount, hregistered, hform, heditor⟩, rfl⟩
  · rintro ⟨hid, ⟨hname, hcount, hregistered, hform, heditor⟩, rfl⟩
    exact ⟨_, hid, _, ⟨hname, rfl⟩, _, ⟨hcount, rfl⟩, _, ⟨hregistered, rfl⟩, _, ⟨hform, rfl⟩, _,
      ⟨heditor, rfl⟩, rfl⟩

theorem overwrite_id {w : CompanyWrite} {id : Uuid} (h : w.id = .unchanged id) (r : CompanyRow) :
    (w.overwrite r).id = r.id := by
  simp [overwrite, h, Column.overwrite]

theorem overwrite_of_not_isChanged {w : CompanyWrite} (h : w.isChanged = false) (r : CompanyRow) :
    w.overwrite r = r := by
  simp only [isChanged, Bool.or_eq_false_iff] at h
  obtain ⟨⟨⟨⟨⟨⟨⟨hid, hname⟩, hdescription⟩, hcount⟩, hregistered⟩, hkind⟩, hcreator⟩, heditor⟩ := h
  simp only [overwrite, Column.overwrite_of_not_isSet, *]

end CompanyWrite

namespace UserWrite

theorem refuses_ofNew (fresh : Uuid) (u : User) : Refuses Fault.IsValidation (ofNew fresh u) := by
  apply (refuses_assignId fresh u.id).bind
  intro id
  apply (u.username.refuses_require "username").bind
  intro username
  apply (u.passwordHash.refuses_require "password_hash").bind
  intro passwordHash
  exact .ok _

theorem exists_newRow_of_ofNew {fresh : Uuid} {u : User} {w : UserWrite}
    (h : ofNew fresh u = .ok w) : ∃ row, w.newRow? = some row := by
  simp only [ofNew, bind_eq_ok_iff] at h
  obtain ⟨id, _, username, _, passwordHash, _, hw⟩ := h
  rw [← Except.ok.inj hw]
  exact ⟨_, rfl⟩

end UserWrite
end TradeRegister.Store

import TradeRegister.Proofs.Store.Table
import TradeRegister.Store.Database
import TradeRegister.Store.Memory

/-! # What a lookup answers

Both stores answer a lookup with the row that a search through their rows finds, read as a record,
or else that there is no such record.
-/

namespace TradeRegister.Store

variable {ρ α : Type}

/-- How the rows of a table are identified, named and read as records. -/
structure Entity (ρ α : Type) where
  label : String
  id : ρ → Uuid
  name : ρ → String
  read : ρ → Except Fault α
  nameOf : α → Attribute String
  nameOf_read : ∀ {r a}, read r = .ok a → nameOf a = .value (name r)

namespace Entity

def company : Entity CompanyRow Company where
  label := "company"
  id := CompanyRow.id
  name := CompanyRow.name
  read := CompanyRow.read
  nameOf := Company.name
  nameOf_read := by
    intro r c h
    rw [CompanyRow.read] at h
    split at h
    · rw [← Except.ok.inj h]
      rfl
    · cases h

def user : Entity UserRow User where
  label := "user"
  id := UserRow.id
  name := UserRow.username
  read := fun r => .ok r.read
  nameOf := User.username
  nameOf_read := by
    intro r u h
    rw [← Except.ok.inj h]
    rfl

/-- The answer of a lookup that found this row, or none. -/
def answer (e : Entity ρ α) : Option ρ → Except Fault α
  | some r => e.read r
  | none => .error (.notFound e.label)

theorem answer_eq_ok_iff {β : Type} [BEq β] [LawfulBEq β] (e : Entity ρ α) {f : ρ → β}
    {rows : List ρ} (h : (rows.map f).Nodup) {x : β} {a : α} :
    e.answer (rows.find? fun r => f r == x) = .ok a ↔ ∃ r ∈ rows, f r = x ∧ e.read r = .ok a := by
  constructor
  · intro hread
    cases hfind : rows.find? fun r => f r == x with
    | none => simp [hfind, answer] at hread
    | some r =>
      rw [hfind] at hread
      obtain ⟨hr, hx⟩ := (find?_eq_some_iff_of_nodup h).1 hfind
      exact ⟨r, hr, hx, hread⟩
  · rintro ⟨r, hr, hx, hread⟩
    rw [(find?_eq_some_iff_of_nodup h).2 ⟨hr, hx⟩]
    exact hread

end Entity

section Company

variable {m : Memory} {d : Database} {rows : List CompanyRow}

theorem Memory.companyById_eq (h : Table.Holds CompanyRow.id CompanyRow.name m.companies rows) (id : Uuid) :
    m.companyById id = Entity.company.answer (rows.find? fun r => r.id == id) := by
  rw [Memory.companyById, h.get?_eq]
  cases rows.find? fun r => r.id == id <;> rfl

theorem Memory.companyByName_eq (h : Table.Holds CompanyRow.id CompanyRow.name m.companies rows) (n : String) :
    m.companyByName n = Entity.company.answer (rows.find? fun r => r.name == n) := by
  rw [Memory.companyByName, h.find?_name_eq]
  cases rows.find? fun r => r.name == n <;> rfl

theorem Database.companyById_eq (h : d.companyRows = .ok rows) (id : Uuid) :
    d.companyById id = Entity.company.answer (rows.find? fun r => r.id == id) := by
  rw [Database.companyById, Database.selectCompany, h, Except.map]
  cases rows.find? fun r => r.id == id <;> rfl

theorem Database.companyByName_eq (h : d.companyRows = .ok rows) (n : String) :
    d.companyByName n = Entity.company.answer (rows.find? fun r => r.name == n) := by
  rw [Database.companyByName, Database.selectCompany, h, Except.map]
  cases rows.find? fun r => r.name == n <;> rfl

end Company

section User

variable {m : Memory} {d : Database} {rows : List UserRow}

theorem Memory.userById_eq (h : Table.Holds UserRow.id UserRow.username m.users rows) (id : Uuid) :
    m.userById id = Entity.user.answer (rows.find? fun r => r.id == id) := by
  rw [Memory.userById, h.get?_eq]
  cases rows.find? fun r => r.id == id <;> rfl

theorem Memory.userByUsername_eq (h : Table.Holds UserRow.id UserRow.username m.users rows) (n : String) :
    m.userByUsername n = Entity.user.answer (rows.find? fun r => r.username == n) := by
  rw [Memory.userByUsername, h.find?_name_eq]
  cases rows.find? fun r => r.username == n <;> rfl

theorem Database.userById_eq (h : d.userRows = .ok rows) (id : Uuid) :
    d.userById id = Entity.user.answer (rows.find? fun r => r.id == id) := by
  rw [Database.userById, Database.selectUser, h, Except.map]
  cases rows.find? fun r => r.id == id <;> rfl

theorem Database.userByUsername_eq (h : d.userRows = .ok rows) (n : String) :
    d.userByUsername n = Entity.user.answer (rows.find? fun r => r.username == n) := by
  rw [Database.userByUsername, Database.selectUser, h, Except.map]
  cases rows.find? fun r => r.username == n <;> rfl

end User

end TradeRegister.Store

import TradeRegister.User

/-! # Stored rows

A row has no unset column. The legal form of a company is stored by its name, so a damaged row may
name a form that does not exist; reading it is an infrastructure fault.
-/

namespace TradeRegister.Store

structure CompanyRow where
  id : Uuid
  name : String
  description : Option String
  employeeCount : Int32
  registered : Bool
  kind : String
  createdBy : Uuid
  updatedBy : Option Uuid
deriving DecidableEq

structure UserRow where
  id : Uuid
  username : String
  passwordHash : String
deriving DecidableEq

/-- The company that a row of a known legal form describes. -/
def CompanyRow.company (r : CompanyRow) (kind : CompanyKind) : Company where
  id := .value r.id
  name := .value r.name
  description := .ofNullable r.description
  employeeCount := .value r.employeeCount
  registered := .value r.registered
  kind := .value kind
  createdBy := .value r.createdBy
  updatedBy := .ofNullable r.updatedBy

def CompanyRow.read (r : CompanyRow) : Except Fault Company :=
  match CompanyKind.ofName? r.kind with
  | some kind => .ok (r.company kind)
  | none => .error (.infrastructure (.unknownKind r.id r.kind))

theorem CompanyRow.id_of_read {r : CompanyRow} {c : Company} (h : r.read = .ok c) :
    c.id = .value r.id := by
  unfold read at h
  split at h
  · rw [← Except.ok.inj h]
    rfl
  · cases h

def UserRow.read (r : UserRow) : User where
  id := .value r.id
  username := .value r.username
  passwordHash := .value r.passwordHash

end TradeRegister.Store

import TradeRegister.Company
import TradeRegister.Service.Limits
import TradeRegister.Text.Blank

/-! # Validation of company records

Records are checked before storage is asked, attribute by attribute in a fixed order; the first
attribute at fault is reported.
-/

namespace TradeRegister.Service.Limits

def tooLong (field : String) (limit : Nat) : Fault :=
  .validation field ("exceeds maximum length of " ++ toString limit)

def checkName (l : Limits) (name : String) : Except Fault Unit :=
  if Text.isBlank name then .error (.validation "name" "must not be empty")
  else if l.maxNameLength < name.length then .error (tooLong "name" l.maxNameLength)
  else .ok ()

def checkDescription (l : Limits) : Attribute String → Except Fault Unit
  | .value text =>
    if l.maxDescriptionLength < text.length then
      .error (tooLong "description" l.maxDescriptionLength)
    else .ok ()
  | _ => .ok ()

def checkEmployeeCount (n : Int32) : Except Fault Unit :=
  if n < 0 then .error (.validation "employee_count" "must be greater than or equal to 0")
  else .ok ()

def checkActor (field : String) (actor : Uuid) : Except Fault Unit :=
  if actor.isNil then .error (.validation field "must not be nil") else .ok ()

/-- A check that only a given value has to pass. -/
def checkGiven {α : Type} (check : α → Except Fault Unit) : Option α → Except Fault Unit
  | some a => check a
  | none => .ok ()

/-- What a new record must fulfil. -/
def checkNew (l : Limits) (c : Company) : Except Fault Unit := do
  discard (c.id.rejectCleared "id")
  l.checkName (← c.name.require "name")
  l.checkDescription c.description
  checkEmployeeCount (← c.employeeCount.require "employee_count")
  discard (c.registered.require "registered")
  discard (c.kind.require "company_type")
  checkActor "created_by" (← c.createdBy.require "created_by")
  discard (c.updatedBy.rejectCleared "updated_by")

/-- What a partial update must fulfil; the company it is for. -/
def checkPatch (l : Limits) (c : Company) : Except Fault Uuid := do
  let id ← c.id.require "id"
  checkActor "updated_by" (← c.updatedBy.require "updated_by")
  checkGiven l.checkName (← c.name.rejectCleared "name")
  l.checkDescription c.description
  checkGiven checkEmployeeCount (← c.employeeCount.rejectCleared "employee_count")
  discard (c.registered.rejectCleared "registered")
  discard (c.kind.rejectCleared "company_type")
  unless c.createdBy.isUnset do throw (.validation "created_by" "cannot be changed")
  return id

end TradeRegister.Service.Limits

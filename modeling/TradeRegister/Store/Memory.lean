import TradeRegister.Store.Repository
import TradeRegister.Store.Table
import TradeRegister.Store.Write

/-! # A store in memory

Two keyed tables. Names are kept unique by looking through all rows before a write.
-/

namespace TradeRegister.Store

/-- The row after a partial update, attribute by attribute; a refused update changes nothing. -/
def CompanyRow.amend (r : CompanyRow) (patch : Company) : Except Fault CompanyRow := do
  let (_, w) ← CompanyWrite.ofPatch patch
  let r := match w.name with
    | .set v => { r with name := v }
    | _ => r
  let r := match w.description with
    | .set v => { r with description := v }
    | _ => r
  let r := match w.employeeCount with
    | .set v => { r with employeeCount := v }
    | _ => r
  let r := match w.registered with
    | .set v => { r with registered := v }
    | _ => r
  let r := match w.kind with
    | .set v => { r with kind := v }
    | _ => r
  return match w.updatedBy with
    | .set v => { r with updatedBy := v }
    | _ => r

/-- Amending a row writes exactly the columns that the update sets. -/
theorem CompanyRow.amend_eq (r : CompanyRow) (patch : Company) :
    r.amend patch = (CompanyWrite.ofPatch patch).map fun target => target.2.overwrite r := by
  simp only [amend, bind, Except.bind, pure, Except.pure, Except.map]
  cases h : CompanyWrite.ofPatch patch with
  | error fault => rfl
  | ok target =>
    obtain ⟨id, w⟩ := target
    obtain ⟨hid, hcreator⟩ := CompanyWrite.ofPatch_fixed h
    obtain ⟨_, name, description, employeeCount, registered, kind, _, updatedBy⟩ := w
    cases hid
    cases hcreator
    cases name <;> cases description <;> cases employeeCount <;> cases registered <;>
      cases kind <;> cases updatedBy <;> rfl

/-- Amends the row that is held. It is replaced once the new one is complete. -/
def CompanyRow.amendInPlace (patch : Company) : ExceptT Fault (StateM CompanyRow) Unit := do
  set (← (← get).amend patch)

structure Memory where
  companies : Table CompanyRow := {}
  users : Table UserRow := {}
deriving DecidableEq

namespace Memory

def createCompany (fresh : Uuid) (c : Company) (m : Memory) : Except Fault Company × Memory :=
  match CompanyWrite.ofNew fresh c with
  | .error fault => (.error fault, m)
  | .ok w =>
    match w.newRow? with
    | none => (.error (.infrastructure .engine), m)
    | some row =>
      if m.companies.contains row.id || m.companies.any (fun r => r.name == row.name) then
        (.error (.conflict "company"), m)
      else (row.read, { m with companies := m.companies.put row.id row })

def companyById (id : Uuid) (m : Memory) : Except Fault Company :=
  match m.companies.get? id with
  | some row => row.read
  | none => .error (.notFound "company")

def companyByName (name : String) (m : Memory) : Except Fault Company :=
  match m.companies.find? fun r => r.name == name with
  | some row => row.read
  | none => .error (.notFound "company")

/-- The row is looked up before the update itself is checked. -/
def updateCompany (c : Company) (m : Memory) : Except Fault Company × Memory :=
  match c.id.require "id" with
  | .error fault => (.error fault, m)
  | .ok id =>
    match m.companies.get? id with
    | none => (.error (.notFound "company"), m)
    | some row =>
      match row.amend c with
      | .error fault => (.error fault, m)
      | .ok next =>
        if m.companies.any (fun r => r.id != id && r.name == next.name) then
          (.error (.conflict "company"), m)
        else (next.read, { m with companies := m.companies.put id next })

def deleteCompany (id : Uuid) (m : Memory) : Except Fault Unit × Memory :=
  if m.companies.contains id then (.ok (), { m with companies := m.companies.erase id })
  else (.error (.notFound "company"), m)

def createUser (fresh : Uuid) (u : User) (m : Memory) : Except Fault User × Memory :=
  match UserWrite.ofNew fresh u with
  | .error fault => (.error fault, m)
  | .ok w =>
    match w.newRow? with
    | none => (.error (.infrastructure .engine), m)
    | some row =>
      if m.users.contains row.id || m.users.any (fun r => r.username == row.username) then
        (.error (.conflict "user"), m)
      else (.ok row.read, { m with users := m.users.put row.id row })

def userById (id : Uuid) (m : Memory) : Except Fault User :=
  match m.users.get? id with
  | some row => .ok row.read
  | none => .error (.notFound "user")

def userByUsername (username : String) (m : Memory) : Except Fault User :=
  match m.users.find? fun r => r.username == username with
  | some row => .ok row.read
  | none => .error (.notFound "user")

def companyRepository : CompanyRepository Memory where
  create := createCompany
  byId := companyById
  byName := companyByName
  update := updateCompany
  delete := deleteCompany

def userRepository : UserRepository Memory where
  create := createUser
  byId := userById
  byUsername := userByUsername

end Memory
end TradeRegister.Store

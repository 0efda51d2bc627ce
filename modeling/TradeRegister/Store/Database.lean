import TradeRegister.Store.Repository
import TradeRegister.Store.Write

/-! # A relational store

Two tables that exist once the schema is in place, reached over a connection that may be closed.
Each statement is checked against the keys and unique columns of its table and then takes effect
as a whole. Records are turned into statements before the engine is asked.
-/

namespace TradeRegister.Store

structure Database where
  isOpen : Bool := true
  companies : Option (List CompanyRow) := none
  users : Option (List UserRow) := none
deriving DecidableEq

/-- What one column of a table admits. -/
structure ColumnRule where
  name : String
  notNull : Bool
  isKey : Bool := false
deriving DecidableEq

namespace Database

def companyColumns : List ColumnRule :=
  [⟨"id", true, true⟩, ⟨"name", true, false⟩, ⟨"description", false, false⟩,
    ⟨"employee_count", true, false⟩, ⟨"registered", true, false⟩, ⟨"company_type", true, false⟩,
    ⟨"created_by", true, false⟩, ⟨"updated_by", false, false⟩]

def userColumns : List ColumnRule :=
  [⟨"id", true, true⟩, ⟨"username", true, false⟩, ⟨"password_hash", true, false⟩]

/-- The tables that an open connection shows. -/
def tables (d : Database) : List (String × List ColumnRule) :=
  if d.isOpen then
    (if d.companies.isSome then [("companies", companyColumns)] else []) ++
      (if d.users.isSome then [("users", userColumns)] else [])
  else []

/-- Puts the schema in place; tables that exist are kept with their rows. -/
def migrateUp (d : Database) : Except EngineError Unit × Database :=
  if d.isOpen then
    (.ok (), { d with companies := some (d.companies.getD []), users := some (d.users.getD []) })
  else (.error .failure, d)

def migrateDown (d : Database) : Except EngineError Unit × Database :=
  if d.isOpen then (.ok (), { d with companies := none, users := none }) else (.error .failure, d)

/-- A database with the schema in place and no rows. -/
def fresh : Database := { companies := some [], users := some [] }

def close (d : Database) : Database := { d with isOpen := false }

/-! ## Statements on the companies table -/

def companyRows (d : Database) : Except EngineError (List CompanyRow) :=
  match d.isOpen, d.companies with
  | true, some rows => .ok rows
  | _, _ => .error .failure

def insertCompany (row : CompanyRow) (d : Database) : Except EngineError CompanyRow × Database :=
  match d.companyRows with
  | .error e => (.error e, d)
  | .ok rows =>
    if rows.any fun r => r.id == row.id || r.name == row.name then (.error .uniqueViolation, d)
    else (.ok row, { d with companies := some (rows ++ [row]) })

def selectCompany (p : CompanyRow → Bool) (d : Database) :
    Except EngineError (Option CompanyRow) :=
  d.companyRows.map fun rows => rows.find? p

/-- Writes the set columns of the row with the key `id`. -/
def writeCompany (id : Uuid) (w : CompanyWrite) (d : Database) :
    Except EngineError CompanyRow × Database :=
  match d.companyRows with
  | .error e => (.error e, d)
  | .ok rows =>
    match rows.find? fun r => r.id == id with
    | none => (.error .rowNotUpdated, d)
    | some row =>
      let next := w.overwrite row
      if rows.any fun r => r.id != id && r.name == next.name then (.error .uniqueViolation, d)
      else
        (.ok next, { d with companies := some (rows.map fun r => if r.id = id then next else r) })

/-- The number of rows deleted. -/
def removeCompany (id : Uuid) (d : Database) : Except EngineError Nat × Database :=
  match d.companyRows with
  | .error e => (.error e, d)
  | .ok rows =>
    let kept := rows.filter fun r => r.id != id
    (.ok (rows.length - kept.length), { d with companies := some kept })

/-- Gives every company the same legal form, known or not; the number of rows written. -/
def overwriteKinds (kind : String) (d : Database) : Except EngineError Nat × Database :=
  match d.companyRows with
  | .error e => (.error e, d)
  | .ok rows =>
    (.ok rows.length, { d with companies := some (rows.map fun r => { r with kind }) })

/-! ## Statements on the users table -/

def userRows (d : Database) : Except EngineError (List UserRow) :=
  match d.isOpen, d.users with
  | true, some rows => .ok rows
  | _, _ => .error .failure

def insertUser (row : UserRow) (d : Database) : Except EngineError UserRow × Database :=
  match d.userRows with
  | .error e => (.error e, d)
  | .ok rows =>
    if rows.any fun r => r.id == row.id || r.username == row.username then
      (.error .uniqueViolation, d)
    else (.ok row, { d with users := some (rows ++ [row]) })

def selectUser (p : UserRow → Bool) (d : Database) : Except EngineError (Option UserRow) :=
  d.userRows.map fun rows => rows.find? p

/-! ## Repositories -/

/-- What a statement returned, read as a company. -/
def readCompany : Except EngineError CompanyRow → Except Fault Company
  | .error e => .error (e.fault "company")
  | .ok row => row.read

def readUser : Except EngineError UserRow → Except Fault User
  | .error e => .error (e.fault "user")
  | .ok row => .ok row.read

/-- A selection without a row is not found. -/
def first {ρ : Type} : Except EngineError (Option ρ) → Except EngineError ρ
  | .error e => .error e
  | .ok none => .error .rowNotFound
  | .ok (some row) => .ok row

def companyById (id : Uuid) (d : Database) : Except Fault Company :=
  readCompany (first (d.selectCompany fun r => r.id == id))

def companyByName (name : String) (d : Database) : Except Fault Company :=
  readCompany (first (d.selectCompany fun r => r.name == name))

def createCompany (fresh : Uuid) (c : Company) (d : Database) : Except Fault Company × Database :=
  match CompanyWrite.ofNew fresh c with
  | .error fault => (.error fault, d)
  | .ok w =>
    match w.newRow? with
    | none => (.error (.infrastructure .engine), d)
    | some row =>
      let (result, d) := d.insertCompany row
      (readCompany result, d)

/-- An update that writes nothing still reports a missing row. -/
def updateCompany (c : Company) (d : Database) : Except Fault Company × Database :=
  match CompanyWrite.ofPatch c with
  | .error fault => (.error fault, d)
  | .ok (id, w) =>
    if w.isChanged then
      let (result, d) := d.writeCompany id w
      (readCompany result, d)
    else (d.companyById id, d)

def deleteCompany (id : Uuid) (d : Database) : Except Fault Unit × Database :=
  match d.removeCompany id with
  | (.error e, d) => (.error (e.fault "company"), d)
  | (.ok 0, d) => (.error (.notFound "company"), d)
  | (.ok _, d) => (.ok (), d)

def createUser (fresh : Uuid) (u : User) (d : Database) : Except Fault User × Database :=
  match UserWrite.ofNew fresh u with
  | .error fault => (.error fault, d)
  | .ok w =>
    match w.newRow? with
    | none => (.error (.infrastructure .engine), d)
    | some row =>
      let (result, d) := d.insertUser row
      (readUser result, d)

def userById (id : Uuid) (d : Database) : Except Fault User :=
  readUser (first (d.selectUser fun r => r.id == id))

def userByUsername (username : String) (d : Database) : Except Fault User :=
  readUser (first (d.selectUser fun r => r.username == username))

def companyRepository : CompanyRepository Database where
  create := createCompany
  byId := companyById
  byName := companyByName
  update := updateCompany
  delete := deleteCompany

def userRepository : UserRepository Database where
  create := createUser
  byId := userById
  byUsername := userByUsername

end Database
end TradeRegister.Store

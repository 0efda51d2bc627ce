import TradeRegister.Store.Row

/-! # Writes

What a record asks of each column. A column that does not hold nulls refuses a cleared attribute,
the description takes one as null, and the last editor may be set but never cleared. The creator
is fixed when the row is made.
-/

namespace TradeRegister.Store

inductive Column (α : Type)
  | notSet
  | set (a : α)
  | unchanged (a : α)
deriving DecidableEq

namespace Column

variable {α : Type}

def isSet : Column α → Bool
  | .set _ => true
  | _ => false

def overwrite (old : α) : Column α → α
  | .set a => a
  | _ => old

def content? : Column α → Option α
  | .notSet => none
  | .set a => some a
  | .unchanged a => some a

def ofAttribute (field : String) : Attribute α → Except Fault (Column α)
  | .unset => .ok .notSet
  | .cleared => .error (.validation field "cannot be cleared")
  | .value a => .ok (.set a)

/-- For a column with nulls. -/
def ofNullable (x : Attribute α) : Column (Option α) :=
  match x.patch? with
  | none => .notSet
  | some o => .set o

/-- For a column with nulls that nobody may write. -/
def ofSettable (field : String) : Attribute α → Except Fault (Column (Option α))
  | .unset => .ok .notSet
  | .cleared => .error (.validation field "cannot be cleared")
  | .value a => .ok (.set (some a))

end Column

structure CompanyWrite where
  id : Column Uuid
  name : Column String
  description : Column (Option String)
  employeeCount : Column Int32
  registered : Column Bool
  kind : Column String
  createdBy : Column Uuid
  updatedBy : Column (Option Uuid)
deriving DecidableEq

structure UserWrite where
  id : Column Uuid
  username : Column String
  passwordHash : Column String
deriving DecidableEq

def assignId (fresh : Uuid) (id : Attribute Uuid) : Except Fault Uuid :=
  (id.rejectCleared "id").map fun id => id.getD fresh

namespace CompanyWrite

/-- The first column that is missing or cleared decides the fault. -/
def ofNew (fresh : Uuid) (c : Company) : Except Fault CompanyWrite := do
  let id ← assignId fresh c.id
  let name ← c.name.require "name"
  let employeeCount ← c.employeeCount.require "employee_count"
  let registered ← c.registered.require "registered"
  let kind ← c.kind.require "company_type"
  let createdBy ← c.createdBy.require "created_by"
  let updatedBy ← Column.ofSettable "updated_by" c.updatedBy
  return {
    id := .set id
    name := .set name
    description := .ofNullable c.description
    employeeCount := .set employeeCount
    registered := .set registered
    kind := .set kind.name
    createdBy := .set createdBy
    updatedBy }

/-- The target of a partial update, and what it writes. -/
def ofPatch (c : Company) : Except Fault (Uuid × CompanyWrite) := do
  let id ← c.id.require "id"
  let name ← Column.ofAttribute "name" c.name
  let employeeCount ← Column.ofAttribute "employee_count" c.employeeCount
  let registered ← Column.ofAttribute "registered" c.registered
  let kind ← Column.ofAttribute "company_type" (c.kind.map CompanyKind.name)
  let updatedBy ← Column.ofSettable "updated_by" c.updatedBy
  return (id, {
    id := .unchanged id
    name
    description := .ofNullable c.description
    employeeCount
    registered
    kind
    createdBy := .notSet
    updatedBy })

def isChanged (w : CompanyWrite) : Bool :=
  w.id.isSet || w.name.isSet || w.description.isSet || w.employeeCount.isSet ||
    w.registered.isSet || w.kind.isSet || w.createdBy.isSet || w.updatedBy.isSet

/-- The row that an insertion makes. Columns with nulls default to null; any other must be given. -/
def newRow? (w : CompanyWrite) : Option CompanyRow := do
  let id ← w.id.content?
  let name ← w.name.content?
  let employeeCount ← w.employeeCount.content?
  let registered ← w.registered.content?
  let kind ← w.kind.content?
  let createdBy ← w.createdBy.content?
  some {
    id, name, employeeCount, registered, kind, createdBy
    description := w.description.content?.join
    updatedBy := w.updatedBy.content?.join }

def overwrite (w : CompanyWrite) (r : CompanyRow) : CompanyRow where
  id := w.id.overwrite r.id
  name := w.name.overwrite r.name
  description := w.description.overwrite r.description
  employeeCount := w.employeeCount.overwrite r.employeeCount
  registered := w.registered.overwrite r.registered
  kind := w.kind.overwrite r.kind
  createdBy := w.createdBy.overwrite r.createdBy
  updatedBy := w.updatedBy.overwrite r.updatedBy

/-- A partial update writes neither the identifier nor the creator. -/
theorem ofPatch_fixed {c : Company} {id : Uuid} {w : CompanyWrite} (h : ofPatch c = .ok (id, w)) :
    w.id = .unchanged id ∧ w.createdBy = .notSet := by
  simp only [ofPatch, bind, Except.bind, pure, Except.pure] at h
  repeat' split at h
  all_goals first | contradiction | skip
  obtain ⟨rfl, rfl⟩ := Prod.mk.inj (Except.ok.inj h)
  exact ⟨rfl, rfl⟩

end CompanyWrite

namespace UserWrite

def ofNew (fresh : Uuid) (u : User) : Except Fault UserWrite := do
  let id ← assignId fresh u.id
  let username ← u.username.require "username"
  let passwordHash ← u.passwordHash.require "password_hash"
  return ⟨.set id, .set username, .set passwordHash⟩

def newRow? (w : UserWrite) : Option UserRow := do
  some ⟨← w.id.content?, ← w.username.content?, ← w.passwordHash.content?⟩

end UserWrite
end TradeRegister.Store

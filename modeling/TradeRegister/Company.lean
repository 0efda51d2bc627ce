import TradeRegister.Attribute
import TradeRegister.Company.Kind

/-! # Companies

One record serves creation, partial update and reading: every attribute may be unset, cleared or
have a value. A record that was read has no unset attribute.
-/

namespace TradeRegister

structure Company where
  id : Attribute Uuid := .unset
  name : Attribute String := .unset
  description : Attribute String := .unset
  employeeCount : Attribute Int32 := .unset
  registered : Attribute Bool := .unset
  kind : Attribute CompanyKind := .unset
  createdBy : Attribute Uuid := .unset
  updatedBy : Attribute Uuid := .unset
deriving DecidableEq

/-- A unique identifier in a JSON text. -/
def Uuid.toJson (u : Uuid) : Json := .ofString u.text

def Uuid.ofJson? (v : Json) : Option Uuid := (Json.asString? v).bind Uuid.parse?

namespace Company

/-- A partial update that names its target and who asks for it, and changes nothing else. -/
def patch (id updatedBy : Uuid) : Company := { id := .value id, updatedBy := .value updatedBy }

def keys : List String :=
  ["id", "name", "description", "employee_count", "registered", "company_type", "created_by",
    "updated_by"]

def toJson (c : Company) : Json :=
  .ofFields (c.id.member "id" Uuid.toJson ++ c.name.member "name" Json.ofString ++
    c.description.member "description" Json.ofString ++
    c.employeeCount.member "employee_count" (fun n => .ofInt n.toInt) ++
    c.registered.member "registered" Json.bool ++
    c.kind.member "company_type" CompanyKind.toJson ++
    c.createdBy.member "created_by" Uuid.toJson ++ c.updatedBy.member "updated_by" Uuid.toJson)

def ofJson? (v : Json) : Option Company :=
  match Json.Layout.read? ⟨keys, false⟩ v with
  | some [id, name, description, employeeCount, registered, kind, createdBy, updatedBy] => do
    let id ← Attribute.ofMember? Uuid.ofJson? id
    let name ← Attribute.ofMember? Json.asString? name
    let description ← Attribute.ofMember? Json.asString? description
    let employeeCount ← Attribute.ofMember? Json.asInt32? employeeCount
    let registered ← Attribute.ofMember? Json.asBool? registered
    let kind ← Attribute.ofMember? CompanyKind.ofJson? kind
    let createdBy ← Attribute.ofMember? Uuid.ofJson? createdBy
    let updatedBy ← Attribute.ofMember? Uuid.ofJson? updatedBy
    some ⟨id, name, description, employeeCount, registered, kind, createdBy, updatedBy⟩
  | _ => none

def render (c : Company) : Bytes := c.toJson.render

def parse? (b : Bytes) : Option Company := (Json.parse? b).bind ofJson?

end Company
end TradeRegister

import TradeRegister.Company

/-! # Accounts

The password hash of an account never appears in a JSON text, and is never read from one.
-/

namespace TradeRegister

structure User where
  id : Attribute Uuid := .unset
  username : Attribute String := .unset
  passwordHash : Attribute String := .unset
deriving DecidableEq

namespace User

/-- An account that storage has not seen yet. -/
def unregistered (username passwordHash : String) : User :=
  { username := .value username, passwordHash := .value passwordHash }

def toJson (u : User) : Json :=
  .ofFields (u.id.member "id" Uuid.toJson ++ u.username.member "username" Json.ofString)

def ofJson? (v : Json) : Option User :=
  match Json.Layout.read? ⟨["id", "username"], false⟩ v with
  | some [id, username] => do
    let id ← Attribute.ofMember? Uuid.ofJson? id
    let username ← Attribute.ofMember? Json.asString? username
    some { id, username }
  | _ => none

def render (u : User) : Bytes := u.toJson.render

def parse? (b : Bytes) : Option User := (Json.parse? b).bind ofJson?

end User
end TradeRegister

import TradeRegister.Json.Record

/-! # Input limits -/

namespace TradeRegister.Service

structure Limits where
  /-- In characters. -/
  maxNameLength : Nat := 15
  maxDescriptionLength : Nat := 3000
deriving DecidableEq

def Limits.ofJson? (v : Json) : Option Limits :=
  match Json.Layout.read? ⟨["max_name_length", "max_description_length"], true⟩ v with
  | some [name, description] => do
    let usual : Limits := {}
    let name ← Json.withDefault? usual.maxNameLength (Json.asNat? UInt64.size) name
    let description ← Json.withDefault? usual.maxDescriptionLength (Json.asNat? UInt64.size) description
    some ⟨name, description⟩
  | _ => none

end TradeRegister.Service

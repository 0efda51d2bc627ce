import TradeRegister.Json.Record

/-! # Token claims

Who issued a token, for whom, and from when to when, in Unix seconds.
-/

namespace TradeRegister.Token

structure Claims where
  issuer : String
  subject : String
  issuedAt : Int64
  expiry : Int64
deriving DecidableEq

namespace Claims

def isExpiredAt (c : Claims) (now : Int) : Bool := c.expiry.toInt ≤ now

def toJson (c : Claims) : Json :=
  .ofFields [("iss", .ofString c.issuer), ("sub", .ofString c.subject),
    ("iat", .ofInt c.issuedAt.toInt), ("exp", .ofInt c.expiry.toInt)]

def ofJson? (v : Json) : Option Claims :=
  match Json.Layout.read? ⟨["iss", "sub", "iat", "exp"], false⟩ v with
  | some [iss, sub, iat, exp] => do
    let issuer ← Json.required? Json.asString? iss
    let subject ← Json.required? Json.asString? sub
    let issuedAt ← Json.required? Json.asInt64? iat
    let expiry ← Json.required? Json.asInt64? exp
    some ⟨issuer, subject, issuedAt, expiry⟩
  | _ => none

def render (c : Claims) : Bytes := c.toJson.render

def parse? (b : Bytes) : Option Claims := (Json.parse? b).bind ofJson?

end Claims
end TradeRegister.Token

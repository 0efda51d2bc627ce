import TradeRegister.Secret
import TradeRegister.Time.SpanText
import TradeRegister.Token.Error

/-! # Settings of a token authority

The secret has no usable default: the default settings are refused.
-/

namespace TradeRegister.Token

structure Settings where
  issuer : String := "company-registry"
  secret : Secret := .empty
  lifetime : Span := .ofSeconds 900
deriving DecidableEq

namespace Settings

def fields : List String := ["issuer", "secret", "lifetime"]

def readSpan (v : Json) : Except Span.TextFault Span :=
  match Json.asString? v with
  | some text => Span.parse text
  | none => .error .unreadable

def ofJson? (v : Json) : Option Settings :=
  match Json.Layout.read? ⟨fields, true⟩ v with
  | some [issuer, secret, lifetime] => do
    let usual : Settings := {}
    let issuer ← Json.withDefault? usual.issuer Json.asString? issuer
    let secret ← Json.withDefault? usual.secret Secret.ofJson? secret
    let lifetime ← Json.withDefault? usual.lifetime (fun v => (readSpan v).toOption) lifetime
    some ⟨issuer, secret, lifetime⟩
  | _ => none

/-! ## The first fault -/

/-- What is wrong with the value of a field, if anything is. -/
def fieldFault? (name : String) (v : Json) : Option Span.TextFault :=
  if name = "lifetime" then
    match readSpan v with
    | .ok _ => none
    | .error f => some f
  else if (Json.asString? v).isSome then none
  else some .unreadable

/-- The first fault in these fields, none of which may be unknown or among those `seen` before. -/
def firstFault? (seen : List String) : List (Option String × Json) → Option Span.TextFault
  | [] => none
  | (none, _) :: _ => some .unreadable
  | (some name, v) :: rest =>
    if seen.contains name || !fields.contains name then some .unreadable
    else (fieldFault? name v).or (firstFault? (name :: seen) rest)

def named : Json → List (Option String × Json)
  | .object members => members.map fun (key, v) => (Json.text? key, v)
  | .array items => (fields.map some).zip items
  | _ => []

/-- Settings from JSON; of several faults the first one counts. -/
def read (v : Json) : Except Span.TextFault Settings :=
  match ofJson? v with
  | some s => .ok s
  | none => .error ((firstFault? [] (named v)).getD .unreadable)

end Settings
end TradeRegister.Token

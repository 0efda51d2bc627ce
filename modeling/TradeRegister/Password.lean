import TradeRegister.Base64
import TradeRegister.Decimal
import TradeRegister.Hash.Argon2
import TradeRegister.Text.Split

/-! # Stored passwords

A password is stored as one text of fields that each follow a dollar sign: algorithm, version,
parameters, salt and digest. Verification takes every setting from the stored text.
-/

namespace TradeRegister.Password

open Argon2 (Variant Version Cost Job)

/-- A stored password by its fields, before their meaning is looked at. -/
structure Stored where
  algorithm : List Char
  version : Option Nat
  parameters : List (List Char × List Char)
  salt : Option (List Char)
  output : Option Bytes

def isNameChar (c : Char) : Bool := c.isLower || c.isDigit || c == '-'

def isValueChar (c : Char) : Bool :=
  c.isAlphanum || c == '/' || c == '+' || c == '.' || c == '-'

def isName (cs : List Char) : Bool :=
  1 ≤ cs.length && cs.length ≤ 32 && cs.all isNameChar

def isValue (cs : List Char) : Bool := cs.length ≤ 64 && cs.all isValueChar

/-- A decimal without leading zeros that fits 32 bits. -/
def decimal? (cs : List Char) : Option Nat := do
  let n ← Decimal.read? cs
  if (cs.head? = some '0' && 1 < cs.length) || 0x100000000 ≤ n then none else some n

def parameter? (cs : List Char) : Option (List Char × List Char) :=
  match Text.split '=' cs with
  | [name, value] => if isName name && isValue value then some (name, value) else none
  | _ => none

def parameters? (cs : List Char) : Option (List (List Char × List Char)) :=
  if 127 < cs.length then none else (Text.split ',' cs).mapM parameter?

def salt? (cs : List Char) : Option (List Char) :=
  if 4 ≤ cs.length && isValue cs then some cs else none

/-- A digest of 10 to 64 octets. -/
def output? (cs : List Char) : Option Bytes := do
  let b ← Base64.decode? .standard cs
  if 10 ≤ b.length && b.length ≤ 64 then some b else none

namespace Stored

/-- The version field of a text that has one, and the fields after it. -/
def versionField? : List (List Char) → Option (Option Nat × List (List Char))
  | ('v' :: '=' :: digits) :: rest =>
    if digits.contains ',' then some (none, ('v' :: '=' :: digits) :: rest)
    else if isValue digits then (decimal? digits).map fun n => (some n, rest)
    else none
  | fields => some (none, fields)

def parametersField? : List (List Char) → Option (List (List Char × List Char) × List (List Char))
  | [] => some ([], [])
  | field :: rest =>
    if field.contains '=' then (parameters? field).map fun ps => (ps, rest)
    else some ([], field :: rest)

def parse? (text : String) : Option Stored :=
  match Text.split '$' text.toList with
  | [] :: algorithm :: fields => do
    guard (isName algorithm)
    let (version, fields) ← versionField? fields
    let (parameters, fields) ← parametersField? fields
    match fields with
    | [] => some ⟨algorithm, version, parameters, none, none⟩
    | [salt] => some ⟨algorithm, version, parameters, some (← salt? salt), none⟩
    | [salt, output] =>
      some ⟨algorithm, version, parameters, some (← salt? salt), some (← output? output)⟩
    | _ => none
  | _ => none

def chars (s : Stored) : List Char :=
  '$' :: s.algorithm ++
    (match s.version with
      | some n => '$' :: 'v' :: '=' :: Decimal.write n
      | none => []) ++
    (match s.parameters with
      | [] => []
      | ps => '$' :: Text.join ',' (ps.map fun p => p.1 ++ '=' :: p.2)) ++
    (match s.salt with
      | some salt => '$' :: salt
      | none => []) ++
    (match s.output with
      | some b => '$' :: Base64.encode .standard b
      | none => [])

def text (s : Stored) : String := String.ofList s.chars

end Stored

/-- What the parameters of a stored text set; those it leaves out keep the usual cost. -/
structure Setup where
  cost : Cost
  data : Bytes

def usualCost : Cost := ⟨19456, 2, 1⟩

def Setup.apply? (s : Setup) : List Char × List Char → Option Setup
  | (['m'], v) => (decimal? v).map fun n => { s with cost := { s.cost with memory := n } }
  | (['t'], v) => (decimal? v).map fun n => { s with cost := { s.cost with passes := n } }
  | (['p'], v) => (decimal? v).map fun n => { s with cost := { s.cost with lanes := n } }
  | (name, v) => do
    let b ← Base64.decode? .standard v
    match String.ofList name with
    | "keyid" => if b.length ≤ 8 then some s else none
    | "data" => if b.length ≤ 32 then some { s with data := b } else none
    | _ => none

def maxLength : Nat := 0x100000000 - 1

/-- The digest of `password` under the settings of a stored text, if these are usable. -/
def Stored.recompute? (s : Stored) (password : Bytes) : Option Bytes := do
  let salt ← s.salt
  let output ← s.output
  let setup ← s.parameters.foldlM Setup.apply? ⟨usualCost, []⟩
  guard setup.cost.isValid
  let variant ← Variant.ofName? (String.ofList s.algorithm)
  let version ←
    match s.version with
    | none => some .v19
    | some n => Version.ofNumber? n
  let saltOctets ← Base64.decode? .standard salt
  guard (8 ≤ saltOctets.length && password.length ≤ maxLength)
  some (Job.run ⟨variant, version, setup.cost, output.length⟩ password saltOctets setup.data)

/-- A text that is no stored password matches nothing. -/
def verify (password stored : String) : Bool :=
  match Stored.parse? stored with
  | none => false
  | some s =>
    match s.output, s.recompute? (Bytes.ofString password) with
    | some expected, some actual => expected == actual
    | _, _ => false

def costParameters (c : Cost) : List (List Char × List Char) :=
  [(['m'], Decimal.write c.memory), (['t'], Decimal.write c.passes),
    (['p'], Decimal.write c.lanes)]

/-- The stored form of a password at the usual cost; `none` if the password is too long. -/
def hash? (salt : Bytes) (password : String) : Option String :=
  let octets := Bytes.ofString password
  if octets.length ≤ maxLength then
    some (Stored.text {
      algorithm := Variant.id.name.toList
      version := some Version.v19.number
      parameters := costParameters usualCost
      salt := some (Base64.encode .standard salt)
      output := some (Job.run ⟨.id, .v19, usualCost, 32⟩ octets salt []) })
  else none

end TradeRegister.Password

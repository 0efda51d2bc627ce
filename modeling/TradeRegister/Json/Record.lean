import TradeRegister.Json.Reader

/-! # Reading records

A record is read from an object by key or from an array by position. A known key may not occur
twice. Unknown keys are skipped, with whatever they hold, unless the record is closed.
-/

namespace TradeRegister.Json

def asString? : Json → Option String
  | .string l => text? l
  | _ => none

def asBool? : Json → Option Bool
  | .bool b => some b
  | _ => none

/-- The integer that a literal without fraction and exponent denotes; minus zero is not one. -/
def integer? : List Char → Option Int
  | '-' :: ds =>
    match Decimal.read? ds with
    | some (n + 1) => some (Int.negSucc n)
    | _ => none
  | ds => (Decimal.read? ds).map Int.ofNat

def asInt? : Json → Option Int
  | .number l => integer? l
  | _ => none

def asNat? (size : Nat) (v : Json) : Option Nat :=
  match asInt? v with
  | some (.ofNat n) => if n < size then some n else none
  | _ => none

def asInt32? (v : Json) : Option Int32 := do
  let n ← asInt? v
  if -0x80000000 ≤ n && n < 0x80000000 then some (Int32.ofInt n) else none

def asInt64? (v : Json) : Option Int64 := do
  let n ← asInt? v
  if -0x8000000000000000 ≤ n && n < 0x8000000000000000 then some (Int64.ofInt n) else none

def asList? {α : Type} (f : Json → Option α) : Json → Option (List α)
  | .array items => items.mapM f
  | _ => none

/-- A value that may also be `null`. -/
def asNullable? {α : Type} (f : Json → Option α) : Json → Option (Option α)
  | .null => some none
  | v => (f v).map some

structure Layout where
  keys : List String
  closed : Bool := false

/-- The members of an object under the texts of their keys. -/
def named? (members : List (Bytes × Json)) : Option (List (String × Json)) :=
  members.mapM fun (key, v) => (text? key).map fun name => (name, v)

def values (name : String) (members : List (String × Json)) : List Json :=
  (members.filter fun m => m.1 == name).map (·.2)

/-- What each key of the layout holds, in its order; `none` where the text has nothing for it. -/
def Layout.read? (layout : Layout) : Json → Option (List (Option Json))
  | .object members => do
    let members ← named? members
    guard (!layout.closed || members.all fun m => layout.keys.contains m.1)
    layout.keys.mapM fun key =>
      match values key members with
      | [] => some none
      | [v] => some (some v)
      | _ => none
  | .array items =>
    if items.length ≤ layout.keys.length then
      some (items.map some ++ List.replicate (layout.keys.length - items.length) none)
    else none
  | _ => none

def required? {α : Type} (f : Json → Option α) : Option Json → Option α
  | some v => f v
  | none => none

/-- A field that takes `default` when it is left out. -/
def withDefault? {α : Type} (default : α) (f : Json → Option α) : Option Json → Option α
  | some v => f v
  | none => some default

end TradeRegister.Json

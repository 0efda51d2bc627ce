import TradeRegister.Json.Meaning

/-! # Payloads of tokens

The second reading of a payload does not need the values of its claims, so a value that cannot be
used is no error. But reading goes on where the value stopped making sense, and what is found there
has to continue the object.
-/

namespace TradeRegister.Token.Payload

open Json (skipSpace)

/-- How far a value was read: to its end, or to where it stopped making sense. -/
structure Reach where
  isWhole : Bool
  rest : Bytes

/-- Where the characters of a string stop making sense, if they do: at a surrogate outside a pair,
with the octets that were taken for the rest of the pair. -/
def lostSurrogate? : Bytes → Option Bytes
  | [] => none
  | 0x22 :: _ => none
  | 0x5C :: 0x75 :: a :: b :: c :: d :: rest =>
    match Json.unit? a b c d with
    | none => none
    | some high =>
      if 0xD800 ≤ high && high < 0xDC00 then
        match rest with
        | 0x5C :: 0x75 :: e :: f :: g :: h :: rest =>
          match Json.unit? e f g h with
          | none => none
          | some low => if 0xDC00 ≤ low && low < 0xE000 then lostSurrogate? rest else some rest
        | 0x5C :: rest => some (rest.drop 1)
        | rest => some (rest.drop 1)
      else if 0xDC00 ≤ high && high < 0xE000 then some rest
      else lostSurrogate? rest
  | 0x5C :: _ :: rest => lostSurrogate? rest
  | _ :: rest => lostSurrogate? rest

def string? (b : Bytes) : Option Reach :=
  match lostSurrogate? b with
  | some rest => some ⟨false, rest⟩
  | none => (Json.literal? b).map fun (literal, rest) => ⟨(Json.text? literal).isSome, rest⟩

def hasLongExponent (literal : List Char) : Bool :=
  match Decimal.Floating.ofChars? literal with
  | some x => 0x7FFFFFFF < x.exponent / 10
  | none => false

/-- A word or a number. A number that is too large stops making sense at its end or before. -/
def atom? (b : Bytes) : Option Reach :=
  match Json.value? 1 b with
  | some (.number literal, rest) =>
    if Json.isFinite literal then some ⟨true, rest⟩
    else if hasLongExponent literal then none
    else some ⟨false, rest⟩
  | some (_, rest) => some ⟨true, rest⟩
  | none => none

def endList (r : Reach) : Reach :=
  match skipSpace r.rest with
  | 0x5D :: rest => ⟨r.isWhole, rest⟩
  | 0x2C :: rest => ⟨false, skipSpace rest⟩
  | rest => ⟨false, rest⟩

def endObject (r : Reach) : Reach :=
  match skipSpace r.rest with
  | 0x7D :: rest => ⟨r.isWhole, rest⟩
  | rest => ⟨false, rest⟩

mutual

def content? : Nat → Nat → Bytes → Option Reach
  | 0, _, _ => none
  | fuel + 1, depth, b =>
    match skipSpace b, depth with
    | 0x22 :: rest, _ => string? rest
    | 0x5B :: _, 0 => none
    | 0x7B :: _, 0 => none
    | 0x5B :: rest, depth + 1 =>
      match skipSpace rest with
      | 0x5D :: rest => some ⟨true, rest⟩
      | rest => (elements? fuel depth rest).map endList
    | 0x7B :: rest, depth + 1 =>
      match skipSpace rest with
      | 0x7D :: rest => some ⟨true, rest⟩
      | rest => (members? fuel depth rest).map endObject
    | b, _ => atom? b

def elements? : Nat → Nat → Bytes → Option Reach
  | 0, _, _ => none
  | fuel + 1, depth, b => do
    let r ← content? fuel depth b
    if r.isWhole then
      match skipSpace r.rest with
      | 0x2C :: rest => elements? fuel depth rest
      | rest => some ⟨true, rest⟩
    else some r

def members? : Nat → Nat → Bytes → Option Reach
  | 0, _, _ => none
  | fuel + 1, depth, b =>
    match skipSpace b with
    | 0x22 :: rest => do
      let key ← string? rest
      if key.isWhole then
        match skipSpace key.rest with
        | 0x3A :: rest =>
          let r ← content? fuel depth rest
          if r.isWhole then
            match skipSpace r.rest with
            | 0x2C :: rest => members? fuel depth rest
            | rest => some ⟨true, rest⟩
          else some r
        | _ => none
      else some key
    | _ => none

end

/-- A time. A list or an object is left after its start, which is an end only if it is empty. -/
def time? (b : Bytes) : Option Reach :=
  match skipSpace b with
  | 0x22 :: rest => string? rest
  | 0x5B :: rest => some (endList ⟨true, rest⟩)
  | 0x7B :: rest => some (endObject ⟨true, rest⟩)
  | b => atom? b

/-! ## Claims -/

def times : List String := ["exp", "nbf"]
def names : List String := ["sub", "iss", "aud"]

def afterClaim? (name : String) (b : Bytes) : Option Bytes :=
  if times.contains name then (time? b).map Reach.rest
  else if names.contains name then
    (content? (b.length + 1) (Json.maxDepth - 1) b).map Reach.rest
  else (Json.value? (b.length + 1) b).map (·.2)

def claim? (b : Bytes) : Option (String × Bytes) :=
  match skipSpace b with
  | 0x22 :: rest => do
    let (literal, rest) ← Json.literal? rest
    let name ← Json.text? literal
    match skipSpace rest with
    | 0x3A :: rest => some (name, rest)
    | _ => none
  | _ => none

def claims? : Nat → List String → Bytes → Option Bytes
  | 0, _, _ => none
  | fuel + 1, seen, b => do
    let (name, rest) ← claim? b
    if seen.contains name then none
    else
      let rest ← afterClaim? name rest
      let seen := if (times ++ names).contains name then name :: seen else seen
      match skipSpace rest with
      | 0x2C :: rest => claims? fuel seen rest
      | 0x7D :: rest => some rest
      | _ => none

/-- The second reading of a payload: an object, and nothing after it but white space. -/
def isSound (b : Bytes) : Bool :=
  match skipSpace b with
  | 0x7B :: rest =>
    match skipSpace rest with
    | 0x7D :: rest => (skipSpace rest).isEmpty
    | rest => (claims? rest.length [] rest).any fun rest => (skipSpace rest).isEmpty
  | _ => false

end TradeRegister.Token.Payload

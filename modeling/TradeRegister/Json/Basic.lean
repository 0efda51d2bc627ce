import TradeRegister.Bytes
import TradeRegister.Decimal
import TradeRegister.Hexadecimal

/-! # JSON texts

A text is a tree whose numbers and strings are kept as they are written, and whose objects keep
every member in order, repeated keys included. What a literal denotes is a separate question: a
reader that skips a value never asks it.
-/

namespace TradeRegister

inductive Json
  | null
  | bool (b : Bool)
  | number (literal : List Char)
  | string (literal : Bytes)
  | array (items : List Json)
  | object (members : List (Bytes × Json))

namespace Json

/-- The two hexadecimal digits of an octet. -/
def hexPair (b : UInt8) : Bytes := (Hexadecimal.write 2 b.toNat).map Char.toUInt8

/-- Quotes, backslashes and control characters are escaped; all else stands for itself. -/
def escapeOctet (b : UInt8) : Bytes :=
  if b = 0x22 then [0x5C, 0x22]
  else if b = 0x5C then [0x5C, 0x5C]
  else if b = 0x08 then [0x5C, 0x62]
  else if b = 0x09 then [0x5C, 0x74]
  else if b = 0x0A then [0x5C, 0x6E]
  else if b = 0x0C then [0x5C, 0x66]
  else if b = 0x0D then [0x5C, 0x72]
  else if b < 0x20 then [0x5C, 0x75, 0x30, 0x30] ++ hexPair b
  else [b]

def escape (b : Bytes) : Bytes := b.flatMap escapeOctet

def simpleEscape? (b : UInt8) : Option UInt8 :=
  if b = 0x22 || b = 0x5C || b = 0x2F then some b
  else if b = 0x62 then some 0x08
  else if b = 0x66 then some 0x0C
  else if b = 0x6E then some 0x0A
  else if b = 0x72 then some 0x0D
  else if b = 0x74 then some 0x09
  else none

def unit? (a b c d : UInt8) : Option Nat :=
  Hexadecimal.read? ([a, b, c, d].map Char.ofUInt8)

/-- The octets a string literal denotes; a surrogate outside a pair denotes nothing. -/
def unescape? : Bytes → Option Bytes
  | [] => some []
  | 0x5C :: 0x75 :: a :: b :: c :: d :: rest =>
    match unit? a b c d with
    | none => none
    | some high =>
      if 0xD800 ≤ high && high < 0xDC00 then
        match rest with
        | 0x5C :: 0x75 :: e :: f :: g :: h :: rest =>
          match unit? e f g h with
          | none => none
          | some low =>
            if 0xDC00 ≤ low && low < 0xE000 then
              let point := 0x10000 + (high - 0xD800) * 0x400 + (low - 0xDC00)
              (unescape? rest).map (Bytes.ofChars [Char.ofNat point] ++ ·)
            else none
        | _ => none
      else if 0xDC00 ≤ high && high < 0xE000 then none
      else (unescape? rest).map (Bytes.ofChars [Char.ofNat high] ++ ·)
  | 0x5C :: e :: rest =>
    match simpleEscape? e with
    | none => none
    | some b => (unescape? rest).map (b :: ·)
  | [0x5C] => none
  | b :: rest => (unescape? rest).map (b :: ·)

/-- The text a string literal denotes. -/
def text? (literal : Bytes) : Option String := (unescape? literal).bind Bytes.toString?

def ofOctets (b : Bytes) : Json := .string (escape b)
def ofString (s : String) : Json := ofOctets (Bytes.ofString s)
def ofNat (n : Nat) : Json := .number (Decimal.write n)
def ofInt (n : Int) : Json := .number (Decimal.writeInt n)
def ofOption {α : Type} (f : α → Json) : Option α → Json
  | none => .null
  | some a => f a

/-- An object with these keys, in this order. -/
def ofFields (fields : List (String × Json)) : Json :=
  .object (fields.map fun f => (escape (Bytes.ofString f.1), f.2))

def quoted (literal : Bytes) : Bytes := 0x22 :: literal ++ [0x22]

mutual

/-- The text without any white space. -/
def render : Json → Bytes
  | .null => [0x6E, 0x75, 0x6C, 0x6C]
  | .bool true => [0x74, 0x72, 0x75, 0x65]
  | .bool false => [0x66, 0x61, 0x6C, 0x73, 0x65]
  | .number literal => literal.map Char.toUInt8
  | .string literal => quoted literal
  | .array items => 0x5B :: renderItems items ++ [0x5D]
  | .object members => 0x7B :: renderMembers members ++ [0x7D]

def renderItems : List Json → Bytes
  | [] => []
  | [v] => render v
  | v :: w :: rest => render v ++ 0x2C :: renderItems (w :: rest)

def renderMembers : List (Bytes × Json) → Bytes
  | [] => []
  | [(key, v)] => quoted key ++ 0x3A :: render v
  | (key, v) :: m :: rest => quoted key ++ 0x3A :: render v ++ 0x2C :: renderMembers (m :: rest)

end

end Json
end TradeRegister

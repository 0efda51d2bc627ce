import TradeRegister.Decimal.Floating
import TradeRegister.Json.Record

/-! # Texts with a meaning

A text may hold strings that denote no characters and numbers beyond double precision. A reader
that keeps what it does not know needs every value to have a meaning.
-/

namespace TradeRegister.Json

def isFinite (literal : List Char) : Bool :=
  (Decimal.Floating.ofChars? literal).any fun x => x.isFinite

mutual

/-- True if all values have a meaning, with at most `depth` lists and objects one in the other. -/
def isMeaningful : Nat → Json → Bool
  | _, .null => true
  | _, .bool _ => true
  | _, .number literal => isFinite literal
  | _, .string literal => (text? literal).isSome
  | 0, _ => false
  | depth + 1, .array items => areMeaningful depth items
  | depth + 1, .object members => haveMeaning depth members

def areMeaningful (depth : Nat) : List Json → Bool
  | [] => true
  | v :: rest => isMeaningful depth v && areMeaningful depth rest

def haveMeaning (depth : Nat) : List (Bytes × Json) → Bool
  | [] => true
  | (key, v) :: rest =>
    (text? key).isSome && isMeaningful depth v && haveMeaning depth rest

end

/-- How many lists and objects one in the other a reader that keeps values can hold. -/
def maxDepth : Nat := 127

end TradeRegister.Json

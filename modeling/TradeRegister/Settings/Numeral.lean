import TradeRegister.Decimal.Floating

/-! # Numerals in settings texts -/

namespace TradeRegister.Settings.Numeral

/-- A numeral of 64 bits without a minus sign. -/
def count? (cs : List Char) : Option Nat := do
  let n ← Decimal.read? (if cs.head? = some '+' then cs.drop 1 else cs)
  if n < 0x10000000000000000 then some n else none

def integer? : List Char → Option Int
  | '-' :: cs => (Decimal.read? cs).bind fun n => if n ≤ 0x8000000000000000 then some (-n) else none
  | '+' :: cs => (Decimal.read? cs).bind fun n => if n < 0x8000000000000000 then some n else none
  | cs => (Decimal.read? cs).bind fun n => if n < 0x8000000000000000 then some n else none

def isDecimal (cs : List Char) : Bool := (Decimal.Floating.ofChars? cs).isSome

end TradeRegister.Settings.Numeral

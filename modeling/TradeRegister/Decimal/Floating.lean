import TradeRegister.Decimal

/-! # Floating numerals

Decimal numerals with an optional sign, point and exponent. A numeral is finite if the number that
it denotes, rounded to the nearest one of double precision, is not infinite.
-/

namespace TradeRegister.Decimal

/-- The magnitude of a numeral: the digits around the point, and the power of ten they are scaled by. -/
structure Floating where
  whole : List Char
  fraction : List Char
  exponent : Int

def unsigned : List Char → List Char
  | '+' :: cs => cs
  | '-' :: cs => cs
  | cs => cs

namespace Floating

def signedExponent? : List Char → Option Int
  | '-' :: cs => (read? cs).map fun n => -n
  | '+' :: cs => (read? cs).map Int.ofNat
  | cs => (read? cs).map Int.ofNat

def exponent? : List Char → Option Int
  | [] => some 0
  | c :: cs => if c == 'e' || c == 'E' then signedExponent? cs else none

def ofChars? (cs : List Char) : Option Floating :=
  let cs := unsigned cs
  let whole := cs.takeWhile Char.isDigit
  match cs.dropWhile Char.isDigit with
  | '.' :: rest =>
    let fraction := rest.takeWhile Char.isDigit
    if whole.isEmpty && fraction.isEmpty then none
    else (exponent? (rest.dropWhile Char.isDigit)).map (⟨whole, fraction, ·⟩)
  | rest => if whole.isEmpty then none else (exponent? rest).map (⟨whole, [], ·⟩)

/-- The least number that rounds to infinity, halfway between the largest finite one and the next
power of two. -/
def infinityBound : Nat := Nat.shiftLeft 0x3FFFFFFFFFFFFF 970

def isBelowBound (digits : Nat) : Int → Bool
  | .ofNat e => digits * Nat.pow 10 e < infinityBound
  | .negSucc e => digits < infinityBound * Nat.pow 10 (e + 1)

/-- The place of the first digit decides, except for numbers of 309 places before the point. -/
def isFinite (x : Floating) : Bool :=
  match (x.whole ++ x.fraction).dropWhile (· == '0') with
  | [] => true
  | ds =>
    let scale := x.exponent - x.fraction.length
    let places := scale + ds.length
    if places < 309 then true
    else if 309 < places then false
    else isBelowBound (Nat.ofDigitChars 10 ds 0) scale

end Floating
end TradeRegister.Decimal

/-! # Decimal numerals

Plain decimal text of whole numbers: no sign for naturals, a leading minus for negative integers,
never a leading zero when written.
-/

namespace TradeRegister.Decimal

def write (n : Nat) : List Char := Nat.toDigits 10 n

def writeInt (n : Int) : List Char := if n < 0 then '-' :: write n.natAbs else write n.natAbs

/-- The number that a non-empty run of ASCII digits denotes. -/
def read? (cs : List Char) : Option Nat :=
  if cs.isEmpty || !cs.all Char.isDigit then none else some (Nat.ofDigitChars 10 cs 0)

theorem read?_write (n : Nat) : read? (write n) = some n := by
  have hd : (Nat.toDigits 10 n).all Char.isDigit = true :=
    List.all_eq_true.mpr fun _ hc => Nat.isDigit_of_mem_toDigits (by decide) (by decide) hc
  have hne : (Nat.toDigits 10 n).isEmpty = false := by
    simp [Nat.toDigits_ne_nil]
  simp [read?, write, hd, hne, Nat.ofDigitChars_ten_toDigits]

theorem write_all_isDigit (n : Nat) : (write n).all Char.isDigit = true :=
  List.all_eq_true.mpr fun _ hc => Nat.isDigit_of_mem_toDigits (by decide) (by decide) hc

end TradeRegister.Decimal

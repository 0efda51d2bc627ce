import TradeRegister.Proofs.Json.Numeral
import TradeRegister.Time.SpanText

/-! # Seconds in words

A number of seconds that fits 64 bits is read from its digits and the unit.
-/

namespace TradeRegister.Span

variable (n : UInt64)

/-! ## The amount -/

theorem isSpace_eq_false_of_isDigit {c : Char} (h : c.isDigit = true) : Text.isSpace c = false := by
  have hcode : 48 ≤ c.toNat ∧ c.toNat ≤ 57 := by
    simpa [Char.isDigit, UInt32.le_iff_toNat_le] using h
  simp only [Text.isSpace]
  grind

theorem digits_write (m : Nat) : digits (Decimal.write m ++ ['s']) = (Decimal.write m, ['s']) := by
  have hnumber : ∀ c ∈ Decimal.write m, isNumberChar c = true := fun c hc => by
    simp [isNumberChar, Decimal.isDigit_of_mem_write hc]
  have hs : isNumberChar 's' = false := by decide
  rw [digits, List.takeWhile_append_of_pos hnumber, List.dropWhile_append_of_pos hnumber]
  simp [hs, List.filter_eq_self.2 fun c => Decimal.isDigit_of_mem_write]

end TradeRegister.Span

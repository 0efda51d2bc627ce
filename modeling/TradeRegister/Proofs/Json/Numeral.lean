import Mathlib.Algebra.Group.Nat.Defs
import Mathlib.Data.List.Basic
import TradeRegister.Json.Meaning

/-! # Written integers

An integer is written without fraction, exponent or leading zeros. It is read back where the text
after it cannot continue a number, and it is finite while it has fewer than 309 digits.
-/

namespace TradeRegister

namespace Decimal

theorem write_ne_nil (n : Nat) : write n ≠ [] := Nat.toDigits_ne_nil

/-- No leading zero is written. -/
theorem head?_write_ne_zero {n : Nat} (h : n ≠ 0) : (write n).head? ≠ some '0' := by
  induction n using Nat.strongRecOn with
  | ind n ih =>
    rw [write, Nat.toDigits_eq_if (by decide)]
    split
    · next hlt =>
      have all : ∀ m : Fin 10, m.val ≠ 0 → [Nat.digitChar m.val].head? ≠ some '0' := by decide
      exact all ⟨n, hlt⟩ h
    · next hge =>
      have hq : n / 10 ≠ 0 := by omega
      have hhead := ih (n / 10) (by omega) hq
      change (write (n / 10) ++ [Nat.digitChar (n % 10)]).head? ≠ some '0'
      rwa [List.head?_append_of_ne_nil _ (write_ne_nil (n / 10))]

theorem isDigit_of_mem_write {n : Nat} {c : Char} (h : c ∈ write n) : c.isDigit = true :=
  List.all_eq_true.1 (write_all_isDigit n) c h

end Decimal

namespace Json

/-- The octets of a numeral's characters. -/
def numeralOctets (cs : List Char) : Bytes := cs.map Char.toUInt8

def isNumberPart (b : UInt8) : Bool := isDigit b || b = 0x2E || b = 0x65 || b = 0x45

/-- A text that does not continue a number. -/
def EndsNumber (rest : Bytes) : Prop := ∀ b ∈ rest.head?, isNumberPart b = false

theorem endsNumber_nil : EndsNumber [] := by simp [EndsNumber]

theorem endsNumber_cons {b : UInt8} {rest : Bytes} (h : isNumberPart b = false) :
    EndsNumber (b :: rest) := by
  intro c hc
  obtain rfl := Option.some.inj hc
  exact h

private theorem digit_toUInt8 {c : Char} (h : c.isDigit = true) :
    isDigit c.toUInt8 = true ∧ Char.ofUInt8 c.toUInt8 = c ∧ (c ≠ '0' → c.toUInt8 ≠ 0x30) := by
  have all : ∀ n : Fin 10, isDigit (Char.ofNat (48 + n.val)).toUInt8 = true ∧
      Char.ofUInt8 (Char.ofNat (48 + n.val)).toUInt8 = Char.ofNat (48 + n.val) ∧
      (Char.ofNat (48 + n.val) ≠ '0' → (Char.ofNat (48 + n.val)).toUInt8 ≠ 0x30) := by decide
  have hc : 48 ≤ c.toNat ∧ c.toNat ≤ 57 := by
    simpa [Char.isDigit, UInt32.le_iff_toNat_le] using h
  have hn : c = Char.ofNat (48 + (c.toNat - 48)) := by
    rw [show 48 + (c.toNat - 48) = c.toNat by omega, Char.ofNat_toNat]
  rw [hn]
  exact all ⟨c.toNat - 48, by omega⟩

theorem isDigit_of_mem_numeralOctets {n : Nat} {b : UInt8}
    (h : b ∈ numeralOctets (Decimal.write n)) : isDigit b = true := by
  obtain ⟨c, hc, rfl⟩ := List.mem_map.1 h
  exact (digit_toUInt8 (Decimal.isDigit_of_mem_write hc)).1

theorem digits_write (n : Nat) {rest : Bytes} (h : EndsNumber rest) :
    digits (numeralOctets (Decimal.write n) ++ rest) =
      (numeralOctets (Decimal.write n), rest) := by
  have hall : ∀ b ∈ numeralOctets (Decimal.write n), isDigit b = true :=
    fun b hb => isDigit_of_mem_numeralOctets hb
  rw [digits, List.takeWhile_append_of_pos hall, List.dropWhile_append_of_pos hall]
  cases rest with
  | nil => simp
  | cons b rest =>
    have hb : isDigit b = false := by
      have := h b rfl
      simp only [isNumberPart, Bool.or_eq_false_iff] at this
      exact this.1.1.1
    simp [hb]

theorem wholePart?_write (n : Nat) {rest : Bytes} (h : EndsNumber rest) :
    wholePart? (numeralOctets (Decimal.write n) ++ rest) =
      some (numeralOctets (Decimal.write n), rest) := by
  by_cases hn : n = 0
  · subst hn
    rfl
  · have hdigits := digits_write n h
    have hhead := Decimal.head?_write_ne_zero hn
    have hall : ∀ c ∈ Decimal.write n, c.isDigit = true := fun c => Decimal.isDigit_of_mem_write
    cases hw : Decimal.write n with
    | nil => exact absurd hw (Decimal.write_ne_nil n)
    | cons c cs =>
      rw [hw] at hhead hdigits hall
      have hc : c ≠ '0' := fun hc => hhead (by rw [hc]; rfl)
      have h30 := (digit_toUInt8 (hall c List.mem_cons_self)).2.2 hc
      rw [wholePart?.eq_2 _ (by simp [numeralOctets, h30]), digits1?, hdigits]
      rfl

theorem unsigned?_write (n : Nat) {rest : Bytes} (h : EndsNumber rest) :
    unsigned? (numeralOctets (Decimal.write n) ++ rest) =
      some (numeralOctets (Decimal.write n), rest) := by
  have hfraction : fractionPart? rest = some ([], rest) := by
    refine fractionPart?.eq_2 _ ?_
    rintro tail rfl
    exact absurd (h 0x2E rfl) (by decide)
  have hexponent : exponentPart? rest = some ([], rest) := by
    cases rest with
    | nil => rfl
    | cons b rest =>
      have hb := h b rfl
      simp only [isNumberPart, Bool.or_eq_false_iff, decide_eq_false_iff_not] at hb
      rw [exponentPart?, if_neg (by simp [hb])]
  simp [unsigned?, wholePart?_write n h, hfraction, hexponent]

/-- The octets of a written integer. -/
def intOctets (n : Int) : Bytes := numeralOctets (Decimal.writeInt n)

theorem number?_writeInt (n : Int) {rest : Bytes} (h : EndsNumber rest) :
    number? (intOctets n ++ rest) = some (intOctets n, rest) := by
  unfold intOctets Decimal.writeInt
  split
  · have hsign : numeralOctets ('-' :: Decimal.write n.natAbs) =
        0x2D :: numeralOctets (Decimal.write n.natAbs) := rfl
    rw [hsign, List.cons_append, number?, unsigned?_write _ h]
    rfl
  · have hfirst : ∀ tail, numeralOctets (Decimal.write n.natAbs) ++ rest ≠ 0x2D :: tail := by
      intro tail heq
      cases hw : numeralOctets (Decimal.write n.natAbs) with
      | nil => exact Decimal.write_ne_nil _ (List.map_eq_nil_iff.1 hw)
      | cons b bs =>
        have hb : isDigit b = true :=
          isDigit_of_mem_numeralOctets (n := n.natAbs) (by rw [hw]; exact List.mem_cons_self)
        rw [hw] at heq
        obtain rfl : b = 0x2D := (List.cons.inj heq).1
        exact absurd hb (by decide)
    rw [number?.eq_2 _ (fun tail => hfirst tail), unsigned?_write _ h]

theorem map_ofUInt8_intOctets (n : Int) : (intOctets n).map Char.ofUInt8 = Decimal.writeInt n := by
  have hdigits (m : Nat) :
      (numeralOctets (Decimal.write m)).map Char.ofUInt8 = Decimal.write m := by
    rw [numeralOctets, List.map_map]
    refine (List.map_congr_left fun c hc => ?_).trans (List.map_id _)
    exact (digit_toUInt8 (Decimal.isDigit_of_mem_write hc)).2.1
  unfold intOctets Decimal.writeInt
  split
  · exact congrArg ('-' :: ·) (hdigits n.natAbs)
  · exact hdigits n.natAbs

/-- A written integer starts with a minus or a digit. -/
theorem intOctets_eq_cons (n : Int) :
    ∃ b rest, intOctets n = b :: rest ∧ (b = 0x2D ∨ isDigit b = true) := by
  unfold intOctets Decimal.writeInt
  split
  · exact ⟨0x2D, numeralOctets (Decimal.write n.natAbs), rfl, .inl rfl⟩
  · cases hw : numeralOctets (Decimal.write n.natAbs) with
    | nil => exact absurd (List.map_eq_nil_iff.1 hw) (Decimal.write_ne_nil _)
    | cons b bs =>
      refine ⟨b, bs, rfl, .inr ?_⟩
      exact isDigit_of_mem_numeralOctets (n := n.natAbs) (by rw [hw]; exact List.mem_cons_self)

/-! ## What a written integer denotes -/

theorem integer?_writeInt (n : Int) : integer? (Decimal.writeInt n) = some n := by
  unfold Decimal.writeInt
  split
  · next h =>
    obtain ⟨m, rfl⟩ := Int.eq_negSucc_of_lt_zero h
    rw [Int.natAbs_negSucc, integer?, Decimal.read?_write]
  · next h =>
    have hfirst : ∀ ds, Decimal.write n.natAbs ≠ '-' :: ds := by
      intro ds heq
      have := Decimal.isDigit_of_mem_write (n := n.natAbs) (c := '-') (by simp [heq])
      exact absurd this (by decide)
    rw [integer?.eq_2 _ (fun ds => hfirst ds), Decimal.read?_write, Option.map_some]
    exact congrArg some (Int.natAbs_of_nonneg (by omega))

theorem asInt64?_ofInt (n : Int64) : asInt64? (ofInt n.toInt) = some n := by
  have hlo := n.le_toInt
  have hhi := n.toInt_lt
  simp only [asInt64?, ofInt, asInt?, integer?_writeInt, Option.bind_eq_bind, Option.bind_some]
  rw [if_pos (by simp; omega), Int64.ofInt_toInt]

theorem asInt32?_ofInt (n : Int32) : asInt32? (ofInt n.toInt) = some n := by
  have hlo := n.le_toInt
  have hhi := n.toInt_lt
  simp only [asInt32?, ofInt, asInt?, integer?_writeInt, Option.bind_eq_bind, Option.bind_some]
  rw [if_pos (by simp; omega), Int32.ofInt_toInt]

open Decimal in
theorem isFinite_writeInt {n : Int} (h : (write n.natAbs).length ≤ 308) :
    isFinite (writeInt n) = true := by
  have hall : ∀ c ∈ write n.natAbs, c.isDigit = true := fun c => isDigit_of_mem_write
  have hunsigned : unsigned (writeInt n) = write n.natAbs := by
    unfold writeInt
    split
    · rfl
    · refine unsigned.eq_3 _ ?_ ?_
      · intro cs heq
        exact absurd (hall '+' (by simp [heq])) (by decide)
      · intro cs heq
        exact absurd (hall '-' (by simp [heq])) (by decide)
  have hwhole : (write n.natAbs).takeWhile Char.isDigit = write n.natAbs := by
    simpa using @List.takeWhile_append_of_pos _ _ _ [] hall
  have hrest : (write n.natAbs).dropWhile Char.isDigit = [] := by
    simpa using @List.dropWhile_append_of_pos _ _ _ [] hall
  have hread : Floating.ofChars? (writeInt n) = some ⟨write n.natAbs, [], 0⟩ := by
    simp [Floating.ofChars?, hunsigned, hwhole, hrest, write_ne_nil, Floating.exponent?]
  have hdrop := (List.dropWhile_sublist (l := write n.natAbs) (· == '0')).length_le
  rw [isFinite, hread, Option.any_some, Floating.isFinite]
  simp only [List.append_nil]
  split
  · rfl
  · rw [if_pos (by simp; omega)]

end Json
end TradeRegister

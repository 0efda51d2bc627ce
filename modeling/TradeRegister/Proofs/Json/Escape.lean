import Mathlib.Data.List.Basic
import TradeRegister.Json.Reader
import TradeRegister.Json.Record

/-! # Escaped strings

Every octet is escaped in one of three ways. A reader that meets the escape of an octet takes all
of it and nothing more, so a written string is found again whatever follows its closing quote.
-/

namespace TradeRegister.Json

/-- The forms of an escaped octet: a letter after a backslash, a code point below 32, or the octet
itself. -/
inductive EscapeForm (b : UInt8) : Bytes → Prop
  | letter (e : UInt8) (hu : e ≠ 0x75) (h : simpleEscape? e = some b) : EscapeForm b [0x5C, e]
  | control (c d : UInt8) (hdigits : [0x30, 0x30, c, d].all isHexDigit = true)
      (hunit : unit? 0x30 0x30 c d = some b.toNat) (hlt : b < 0x20) :
      EscapeForm b [0x5C, 0x75, 0x30, 0x30, c, d]
  | plain (hquote : b ≠ 0x22) (hslash : b ≠ 0x5C) (hge : ¬b < 0x20) : EscapeForm b [b]

private theorem controlForm (n : Fin 32) :
    ∃ c d, hexPair (UInt8.ofNat n.val) = [c, d] ∧
      [0x30, 0x30, c, d].all isHexDigit = true ∧
      unit? 0x30 0x30 c d = some n.val := by
  have h : ∀ n : Fin 32, (hexPair (UInt8.ofNat n.val)).length = 2 ∧
      [0x30, 0x30, (hexPair (UInt8.ofNat n.val)).getD 0 0,
        (hexPair (UInt8.ofNat n.val)).getD 1 0].all isHexDigit = true ∧
      unit? 0x30 0x30 ((hexPair (UInt8.ofNat n.val)).getD 0 0)
        ((hexPair (UInt8.ofNat n.val)).getD 1 0) = some n.val := by decide
  obtain ⟨hlength, hdigits, hunit⟩ := h n
  obtain ⟨c, d, hpair⟩ := List.length_eq_two.1 hlength
  rw [hpair] at hdigits hunit
  exact ⟨c, d, hpair, hdigits, hunit⟩

theorem escapeForm (b : UInt8) : EscapeForm b (escapeOctet b) := by
  have letter {e : UInt8} (hu : e ≠ 0x75) (h : simpleEscape? e = some b) :
      EscapeForm b [0x5C, e] := .letter e hu h
  unfold escapeOctet
  split
  · next h => subst h; exact letter (by decide) (by decide)
  split
  · next h => subst h; exact letter (by decide) (by decide)
  split
  · next h => subst h; exact letter (by decide) (by decide)
  split
  · next h => subst h; exact letter (by decide) (by decide)
  split
  · next h => subst h; exact letter (by decide) (by decide)
  split
  · next h => subst h; exact letter (by decide) (by decide)
  split
  · next h => subst h; exact letter (by decide) (by decide)
  split
  · next h =>
    have hn : b.toNat < 32 := by simpa [UInt8.lt_iff_toNat_lt] using h
    obtain ⟨c, d, hpair, hdigits, hunit⟩ := controlForm ⟨b.toNat, hn⟩
    rw [UInt8.ofNat_toNat] at hpair
    rw [hpair]
    exact .control c d hdigits hunit h
  · next hquote hslash _ _ _ _ _ hge => exact .plain hquote hslash hge

/-- The octets of a character below 128. -/
theorem ofChars_ofNat_of_lt {b : UInt8} (h : b.toNat < 0x80) :
    Bytes.ofChars [Char.ofNat b.toNat] = [b] := by
  have all : ∀ n : Fin 0x80, Bytes.ofChars [Char.ofNat n.val] = [UInt8.ofNat n.val] := by decide
  simpa using all ⟨b.toNat, h⟩

theorem unescape?_escapeOctet_append (b : UInt8) (rest : Bytes) :
    unescape? (escapeOctet b ++ rest) = (unescape? rest).map (b :: ·) := by
  have form := escapeForm b
  revert form
  generalize escapeOctet b = form
  rintro (⟨e, hu, h⟩ | ⟨c, d, _, hunit, hlt⟩ | ⟨_, hslash, _⟩)
  · rw [List.cons_append, List.cons_append, List.nil_append, unescape?.eq_3 _ _ (by simp [hu]), h]
  · have hn : b.toNat < 32 := by simpa [UInt8.lt_iff_toNat_lt] using hlt
    simp only [List.cons_append, List.nil_append, unescape?, hunit]
    rw [if_neg (by simp; omega), if_neg (by simp; omega), ofChars_ofNat_of_lt (by omega)]
    rfl
  · rw [List.cons_append, List.nil_append,
      unescape?.eq_5 _ _ (by simp [hslash]) (by simp [hslash]) (by simp [hslash])]

theorem literal?_escapeOctet_append (b : UInt8) (rest : Bytes) :
    literal? (escapeOctet b ++ rest) =
      (literal? rest).map fun p => (escapeOctet b ++ p.1, p.2) := by
  have form := escapeForm b
  revert form
  generalize escapeOctet b = form
  rintro (⟨e, hu, h⟩ | ⟨c, d, hdigits, _, _⟩ | ⟨hquote, hslash, hge⟩)
  · rw [List.cons_append, List.cons_append, List.nil_append, literal?.eq_4 _ _ (by simp [hu]),
      if_pos (by simp [h])]
    rfl
  · simp only [List.cons_append, List.nil_append, literal?, if_pos hdigits]
  · rw [List.cons_append, List.nil_append,
      literal?.eq_5 _ _ (by simp [hquote]) (by simp [hslash]) (by simp [hslash]),
      if_neg (by simp [hslash, hge])]
    rfl

theorem unescape?_escape (b : Bytes) : unescape? (escape b) = some b := by
  induction b with
  | nil => rfl
  | cons b bs ih =>
    have h := unescape?_escapeOctet_append b (escape bs)
    rw [ih] at h
    exact h

/-- A written string ends at its own closing quote. -/
theorem literal?_escape (b rest : Bytes) :
    literal? (escape b ++ 0x22 :: rest) = some (escape b, rest) := by
  induction b with
  | nil => rfl
  | cons b bs ih =>
    have h := literal?_escapeOctet_append b (escape bs ++ 0x22 :: rest)
    rw [ih] at h
    rw [escape, List.flatMap_cons, List.append_assoc]
    exact h

@[simp] theorem text?_escape (s : String) : text? (escape (Bytes.ofString s)) = some s := by
  rw [text?, unescape?_escape, Option.bind_some, Bytes.toString?_ofString]

@[simp] theorem asString?_ofString (s : String) : asString? (ofString s) = some s := text?_escape s

end TradeRegister.Json

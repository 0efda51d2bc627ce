/-! # Blank text

White space is the Unicode property `White_Space`. Text is blank when it holds nothing else.
-/

namespace TradeRegister.Text

def isSpace (c : Char) : Bool :=
  let n := c.toNat
  (0x09 ≤ n && n ≤ 0x0D) || n == 0x20 || n == 0x85 || n == 0xA0 || n == 0x1680 ||
    (0x2000 ≤ n && n ≤ 0x200A) || n == 0x2028 || n == 0x2029 || n == 0x202F || n == 0x205F ||
    n == 0x3000

def trimChars (cs : List Char) : List Char :=
  ((cs.dropWhile isSpace).reverse.dropWhile isSpace).reverse

def trim (s : String) : String := String.ofList (trimChars s.toList)

/-- True for text that trimming empties. -/
def isBlank (s : String) : Bool := s.toList.all isSpace

private theorem dropWhile_isSpace_eq_nil_iff (cs : List Char) :
    cs.dropWhile isSpace = [] ↔ cs.all isSpace = true := by
  induction cs with
  | nil => simp
  | cons c cs ih => cases h : isSpace c <;> simp [h, ih]

private theorem not_all_isSpace_dropWhile (cs : List Char) (h : cs.dropWhile isSpace ≠ []) :
    (cs.dropWhile isSpace).all isSpace = false := by
  induction cs with
  | nil => exact absurd rfl h
  | cons c cs ih =>
    cases hc : isSpace c with
    | true =>
      rw [List.dropWhile_cons_of_pos hc] at h ⊢
      exact ih h
    | false => rw [List.dropWhile_cons_of_neg (by simp [hc]), List.all_cons, hc, Bool.false_and]

theorem trimChars_eq_nil_iff (cs : List Char) : trimChars cs = [] ↔ cs.all isSpace = true := by
  rw [trimChars, List.reverse_eq_nil_iff, dropWhile_isSpace_eq_nil_iff, List.all_reverse]
  constructor
  · intro h
    rw [← dropWhile_isSpace_eq_nil_iff]
    refine Classical.byContradiction fun hne => ?_
    rw [not_all_isSpace_dropWhile cs hne] at h
    cases h
  · intro h
    rw [(dropWhile_isSpace_eq_nil_iff cs).2 h]
    rfl

theorem isBlank_iff_trim (s : String) : isBlank s = true ↔ trim s = "" := by
  rw [isBlank, ← trimChars_eq_nil_iff, trim]
  exact ⟨fun h => by rw [h], fun h => by simpa using congrArg String.toList h⟩

end TradeRegister.Text

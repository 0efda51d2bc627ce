import Mathlib.Data.List.TakeWhile
import TradeRegister.Proofs.Json.Numeral
import TradeRegister.Proofs.Settings.Section
import TradeRegister.Proofs.Span
import TradeRegister.Settings.Environment

/-! # The notation of variables

A text is taken as it is written in two cases: the notation does not read it to its end, or it is a
word, which is neither quoted nor a truth value nor a number and has no white space around it. A
text that the notation reads as anything else is another text than the written one, or none.
-/

namespace TradeRegister.Settings.Environment

/-! ## Texts as they are written -/

/-- A text that the notation reads as itself. -/
structure IsWord (cs : List Char) : Prop where
  trimmed : Text.trimChars cs = cs
  whole : ∀ c ∈ cs, isSeparator c = false
  unquoted : cs.head? ≠ some '"' ∧ cs.head? ≠ some '\''
  notTruth : ¬"true".toList <+: cs ∧ ¬"false".toList <+: cs
  notNumber : Numeral.count? cs = none ∧ Numeral.integer? cs = none ∧
    ¬('.' ∈ cs ∧ Numeral.isDecimal cs = true)

/-- The notation reads the text to its end. -/
def IsRead (s : String) (v : Value) : Prop := value? (2 * s.length + 1) s.toList = some (v, [])

/-- A text that is taken as it is written. -/
def IsPlain (s : String) : Prop := (¬∃ v, IsRead s v) ∨ IsWord s.toList

theorem read_of_isRead {s : String} {v : Value} (h : IsRead s v) : read s = v := by
  rw [read, h]

theorem read_of_not_isRead {s : String} (h : ¬∃ v, IsRead s v) : read s = .text s := by
  rw [read]
  split
  · next v hv => exact absurd ⟨v, hv⟩ h
  · rfl

/-! ## Quoted texts -/

theorem length_quotedBody? {cs body rest : List Char} (h : quotedBody? cs = some (body, rest)) :
    body.length < cs.length := by
  fun_induction quotedBody? cs generalizing body rest with
  | case1 => cases h
  | case2 rest => cases h; simp
  | case3 c rest ih =>
    obtain ⟨⟨body', rest'⟩, hbody, heq⟩ := Option.map_eq_some_iff.1 h
    cases heq
    have := ih hbody
    simp only [List.length_cons]
    omega
  | case4 c rest _ _ ih =>
    obtain ⟨⟨body', rest'⟩, hbody, heq⟩ := Option.map_eq_some_iff.1 h
    cases heq
    have := ih hbody
    simp only [List.length_cons]
    omega

theorem exists_tail_of_escape {x : Option Char} {y : Option (List Char)} {us : List Char}
    (h : (do some ((← x) :: (← y))) = some us) : ∃ c vs, y = some vs ∧ us = c :: vs := by
  obtain ⟨c, -, h⟩ := Option.bind_eq_some_iff.1 h
  obtain ⟨vs, hvs, h⟩ := Option.bind_eq_some_iff.1 h
  cases h
  exact ⟨c, vs, hvs, rfl⟩

theorem length_unescape? {cs us : List Char} (h : unescape? cs = some us) :
    us.length ≤ cs.length := by
  fun_induction unescape? cs generalizing us with
  | case1 => cases h; simp
  | case2 a b c d rest ih =>
    obtain ⟨_, vs, hvs, rfl⟩ := exists_tail_of_escape h
    have := ih hvs
    simp only [List.length_cons]
    omega
  | case3 a b c d e f g k rest ih =>
    obtain ⟨_, vs, hvs, rfl⟩ := exists_tail_of_escape h
    have := ih hvs
    simp only [List.length_cons]
    omega
  | case4 c rest _ _ ih =>
    obtain ⟨_, vs, hvs, rfl⟩ := exists_tail_of_escape h
    have := ih hvs
    simp only [List.length_cons]
    omega
  | case5 c rest _ _ _ hplain ih =>
    obtain ⟨vs, hvs, rfl⟩ := Option.map_eq_some_iff.1 h
    have := ih hvs
    simp only [List.length_cons]
    omega
  | case6 => cases h

theorem length_quoted? {cs rest : List Char} {s : String} (h : quoted? cs = some (s, rest)) :
    s.toList.length < cs.length := by
  cases cs with
  | nil => cases h
  | cons c cs =>
    rw [quoted?.eq_def] at h
    split at h
    · next cs' heq =>
      cases heq
      obtain ⟨⟨body, rest'⟩, hbody, h⟩ := Option.bind_eq_some_iff.1 h
      obtain ⟨us, hus, h⟩ := Option.bind_eq_some_iff.1 h
      cases h
      have h₁ := length_quotedBody? hbody
      have h₂ := length_unescape? hus
      rw [String.toList_ofList, List.length_cons]
      omega
    · cases h

/-! ## White space -/

theorem isSpace_of_isSpace {c : Char} (h : isSpace c = true) : Text.isSpace c = true := by
  simp only [isSpace, Bool.or_eq_true, beq_iff_eq] at h
  rcases h with (((rfl | rfl) | rfl) | rfl) | rfl <;> decide

theorem length_skipSpace_le (cs : List Char) : (skipSpace cs).length ≤ cs.length :=
  (List.dropWhile_suffix isSpace).length_le

theorem length_trimChars_le (cs : List Char) : (Text.trimChars cs).length ≤ cs.length := by
  have hfront := (List.dropWhile_suffix (l := cs) Text.isSpace).length_le
  have hback :=
    (List.dropWhile_suffix (l := (cs.dropWhile Text.isSpace).reverse) Text.isSpace).length_le
  rw [List.length_reverse] at hback
  rw [Text.trimChars, List.length_reverse]
  omega

theorem skipSpace_of_trimmed {cs : List Char} (h : Text.trimChars cs = cs) : skipSpace cs = cs := by
  cases cs with
  | nil => rfl
  | cons c cs =>
    cases hc : Text.isSpace c with
    | true =>
      have hshort := length_trimChars_le cs
      have htrim : Text.trimChars cs = c :: cs := by
        rwa [Text.trimChars, List.dropWhile_cons_of_pos hc] at h
      rw [htrim, List.length_cons] at hshort
      omega
    | false =>
      have hc' : ¬isSpace c = true := fun hspace => by
        rw [isSpace_of_isSpace hspace] at hc
        cases hc
      exact List.dropWhile_cons_of_neg hc'

theorem trimChars_of_no_space {cs : List Char} (h : ∀ c ∈ cs, Text.isSpace c = false) :
    Text.trimChars cs = cs := by
  have hdrop {ds : List Char} (hds : ∀ c ∈ ds, Text.isSpace c = false) :
      ds.dropWhile Text.isSpace = ds := by
    cases ds with
    | nil => rfl
    | cons d ds => exact List.dropWhile_cons_of_neg (by simp [hds d List.mem_cons_self])
  rw [Text.trimChars, hdrop h, hdrop fun c hc => h c (List.mem_reverse.1 hc), List.reverse_reverse]

/-! ## Words -/

theorem after?_eq_none_iff {part cs : List Char} : Text.after? part cs = none ↔ ¬part <+: cs := by
  rw [← List.isPrefixOf_iff_prefix, Text.after?]
  split <;> simp [*]

theorem ofBare_of_isWord {cs : List Char} (h : IsWord cs) :
    ofBare cs = .text (String.ofList cs) := by
  have hreal : (cs.contains '.' && Numeral.isDecimal cs) = false := by
    rw [Bool.and_eq_false_imp, List.contains_iff_mem]
    exact fun hdot => by simpa using fun hdecimal => h.notNumber.2.2 ⟨hdot, hdecimal⟩
  simp only [ofBare, h.trimmed, hreal, h.notNumber.1, h.notNumber.2.1, Bool.false_eq_true,
    if_false]

/-- What is not quoted, has no separator and starts neither with white space nor with a truth value
is read to its end. -/
theorem isRead_of_unquoted {s : String} (hskip : skipSpace s.toList = s.toList)
    (hwhole : ∀ c ∈ s.toList, isSeparator c = false)
    (hunquoted : s.toList.head? ≠ some '"' ∧ s.toList.head? ≠ some '\'')
    (htruth : ¬"true".toList <+: s.toList ∧ ¬"false".toList <+: s.toList) :
    IsRead s (ofBare s.toList) := by
  have hread : s.toList.takeWhile (!isSeparator ·) = s.toList ∧
      s.toList.dropWhile (!isSeparator ·) = [] := by
    constructor
    · exact List.takeWhile_eq_self_iff.2 fun c hc => by simp [hwhole c hc]
    · exact List.dropWhile_eq_nil_iff.2 fun c hc => by simp [hwhole c hc]
  have htrue : Text.after? ['t', 'r', 'u', 'e'] s.toList = none := after?_eq_none_iff.2 htruth.1
  have hfalse : Text.after? ['f', 'a', 'l', 's', 'e'] s.toList = none :=
    after?_eq_none_iff.2 htruth.2
  rw [IsRead, value?, hskip]
  simp only [htrue, hfalse]
  split
  · next heq => cases heq
  · next heq _ => cases heq
  · next heq _ _ => cases hwhole '\x7b' (heq ▸ List.mem_cons_self)
  · next heq _ _ => cases hwhole '[' (heq ▸ List.mem_cons_self)
  · next heq _ _ => exact absurd (congrArg List.head? heq) hunquoted.1
  · next heq _ _ => exact absurd (congrArg List.head? heq) hunquoted.2
  · next heq _ _ => exact absurd (congrArg List.head? heq) hunquoted.2
  · simp only [hread, Option.map_some]
    rfl

theorem isRead_of_isWord {s : String} (h : IsWord s.toList) : IsRead s (.text s) := by
  have hread := isRead_of_unquoted (skipSpace_of_trimmed h.trimmed) h.whole h.unquoted h.notTruth
  rwa [ofBare_of_isWord h, String.ofList_toList] at hread

/-- An unquoted text that is read as text is no number, and has lost its white space. -/
theorem ofBare_eq_text {cs : List Char} {s : String} (h : readText (ofBare cs) = .ok s) :
    s.toList = Text.trimChars cs ∧ Numeral.count? (Text.trimChars cs) = none ∧
      Numeral.integer? (Text.trimChars cs) = none ∧
      ¬('.' ∈ Text.trimChars cs ∧ Numeral.isDecimal (Text.trimChars cs) = true) := by
  simp only [ofBare] at h
  split at h
  · cases h
  · next hreal =>
    split at h
    · cases h
    · next hcount =>
      split at h
      · cases h
      · next hinteger =>
        cases h
        exact ⟨String.toList_ofList, hcount, hinteger, by simpa using hreal⟩

/-- No white space is skipped before a separator, so a text that goes on with one is not read to
its end. -/
theorem whole_of_skipSpace {cs : List Char}
    (h : skipSpace (cs.dropWhile (!isSeparator ·)) = []) : ∀ c ∈ cs, isSeparator c = false := by
  have hspace {c : Char} (hc : isSeparator c = true) : ¬isSpace c = true := by
    simp only [isSeparator, Bool.or_eq_true, beq_iff_eq] at hc
    rcases hc with (((rfl | rfl) | rfl) | rfl) | rfl <;> decide
  intro c hc
  cases hsep : isSeparator c with
  | false => rfl
  | true =>
    obtain ⟨d, rest, hdrop⟩ : ∃ d rest, cs.dropWhile (!isSeparator ·) = d :: rest := by
      refine List.exists_cons_of_ne_nil fun hnil => ?_
      simpa [hsep] using List.dropWhile_eq_nil_iff.1 hnil c hc
    have hd : isSeparator d = true := by
      have := List.head?_dropWhile_not (!isSeparator ·) cs
      simpa [hdrop] using this
    rw [hdrop, skipSpace, List.dropWhile_cons_of_neg (hspace hd)] at h
    cases h

/-- A text that is read to its end as itself is a word. -/
theorem isWord_of_isRead {s : String} {v : Value} (h : IsRead s v) (hv : readText v = .ok s) :
    IsWord s.toList := by
  rw [IsRead, value?] at h
  obtain ⟨⟨w, rest⟩, hread, heq⟩ := Option.map_eq_some_iff.1 h
  rw [Prod.mk.injEq] at heq
  obtain ⟨rfl, hrest⟩ := heq
  have hlength := length_skipSpace_le s.toList
  split at hread
  · cases hread
    cases hv
  · cases hread
    cases hv
  · obtain ⟨es, -, hes⟩ := Option.map_eq_some_iff.1 hread
    cases hes
    cases hv
  · obtain ⟨vs, -, hvs⟩ := Option.map_eq_some_iff.1 hread
    cases hvs
    cases hv
  · obtain ⟨⟨t, after⟩, ht, heq⟩ := Option.map_eq_some_iff.1 hread
    cases heq
    have hquoted := length_quoted? ht
    cases hv
    omega
  · next c after heq _ _ =>
    cases hread
    cases hv
    have hletter : (String.singleton c).toList.length = 1 := by simp
    rw [heq, hletter, List.length_cons, List.length_cons] at hlength
    omega
  · cases hread
  · next htrue hfalse hdict hlist hquote _ hmark =>
    cases hread
    have hwhole := whole_of_skipSpace hrest
    rw [List.takeWhile_eq_self_iff.2 fun c hc => by simp [hwhole c hc]] at hv
    obtain ⟨htext, hnumber⟩ := ofBare_eq_text hv
    have hle : s.toList.length ≤ (skipSpace s.toList).length :=
      Nat.le_trans (Nat.le_of_eq (congrArg List.length htext)) (length_trimChars_le _)
    have hskip : skipSpace s.toList = s.toList :=
      (List.dropWhile_suffix isSpace).eq_of_length_le hle
    rw [hskip] at htext hwhole hquote hmark htrue hfalse
    rw [hskip, ← htext] at hnumber
    refine ⟨htext.symm, hwhole, ⟨fun hhead => ?_, fun hhead => ?_⟩, ⟨?_, ?_⟩, hnumber⟩
    · obtain ⟨rest, hrest⟩ := List.head?_eq_some_iff.1 hhead
      exact hquote rest hrest
    · obtain ⟨rest, hrest⟩ := List.head?_eq_some_iff.1 hhead
      exact hmark rest hrest
    · exact after?_eq_none_iff.1 (Option.eq_none_iff_forall_ne_some.2 htrue)
    · exact after?_eq_none_iff.1 (Option.eq_none_iff_forall_ne_some.2 hfalse)

theorem readText_read_iff (s : String) : readText (read s) = .ok s ↔ IsPlain s := by
  by_cases hread : ∃ v, IsRead s v
  · obtain ⟨v, hv⟩ := hread
    rw [read_of_isRead hv]
    refine ⟨fun h => .inr (isWord_of_isRead hv h), fun h => ?_⟩
    rcases h with hnot | hword
    · exact absurd ⟨v, hv⟩ hnot
    · have htext := (hv.symm.trans (isRead_of_isWord hword))
      cases htext
      rfl
  · rw [read_of_not_isRead hread]
    exact iff_of_true rfl (.inl hread)

/-! ## Numerals -/

theorem read_write (n : UInt64) :
    read (String.ofList (Decimal.write n.toNat)) = .count n.toNat := by
  have hdigit : ∀ c ∈ Decimal.write n.toNat, c.isDigit = true := fun c hc =>
    Decimal.isDigit_of_mem_write hc
  have hnotMem {c : Char} (hc : c.isDigit = false) : c ∉ Decimal.write n.toNat := fun hmem => by
    rw [hdigit c hmem] at hc
    cases hc
  have hhead {c : Char} (hc : c.isDigit = false) : (Decimal.write n.toNat).head? ≠ some c :=
    fun hhead => hnotMem hc (List.mem_of_head? hhead)
  have htrimmed := trimChars_of_no_space fun c hc => Span.isSpace_eq_false_of_isDigit (hdigit c hc)
  have hbare : ofBare (Decimal.write n.toNat) = .count n.toNat := by
    have hdot : (Decimal.write n.toNat).contains '.' = false := by
      simpa using hnotMem (c := '.') (by decide)
    have hcount : Numeral.count? (Decimal.write n.toNat) = some n.toNat := by
      have hlt : n.toNat < 0x10000000000000000 := n.toNat_lt
      rw [Numeral.count?, if_neg (hhead (c := '+') (by decide)), Decimal.read?_write]
      exact if_pos hlt
    simp only [ofBare, htrimmed, hdot, hcount, Bool.false_and, Bool.false_eq_true, if_false]
  have hread : IsRead (String.ofList (Decimal.write n.toNat)) (ofBare (Decimal.write n.toNat)) := by
    have hsep : ∀ c ∈ Decimal.write n.toNat, isSeparator c = false := by
      intro c hc
      cases hsep : isSeparator c with
      | false => rfl
      | true =>
        simp only [isSeparator, Bool.or_eq_true, beq_iff_eq] at hsep
        rcases hsep with (((rfl | rfl) | rfl) | rfl) | rfl <;> cases hdigit _ hc
    have hchars : (String.ofList (Decimal.write n.toNat)).toList = Decimal.write n.toNat :=
      String.toList_ofList
    have hunquoted := isRead_of_unquoted (s := String.ofList (Decimal.write n.toNat))
    rw [hchars] at hunquoted
    refine hunquoted (skipSpace_of_trimmed htrimmed) hsep ⟨hhead (by decide), hhead (by decide)⟩
      ⟨fun hstart => ?_, fun hstart => ?_⟩
    · exact hnotMem (c := 't') (by decide) (List.IsPrefix.subset hstart (by decide))
    · exact hnotMem (c := 'f') (by decide) (List.IsPrefix.subset hstart (by decide))
  rw [read_of_isRead hread, hbare]

end TradeRegister.Settings.Environment

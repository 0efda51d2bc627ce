import Mathlib.Algebra.Group.Nat.Defs
import Mathlib.Data.List.Basic
import TradeRegister.Uuid

/-! # Texts of identifiers

An identifier has four text forms over the same 32 digits. Reading takes exactly these forms, and
the form that is written is one of them.
-/

namespace TradeRegister

namespace Hexadecimal

theorem value?_lt {c : Char} {v : Nat} (h : value? c = some v) : v < 16 := by
  simp only [value?, Bool.and_eq_true, decide_eq_true_eq] at h
  split at h
  · obtain rfl := Option.some.inj h
    omega
  split at h
  · obtain rfl := Option.some.inj h
    omega
  split at h
  · obtain rfl := Option.some.inj h
    omega
  · cases h

private theorem foldlM_lt {cs : List Char} {m n : Nat}
    (h : cs.foldlM (fun n c => (value? c).map (16 * n + ·)) m = some n) :
    n < (m + 1) * 16 ^ cs.length := by
  induction cs generalizing m with
  | nil =>
    obtain rfl : m = n := by simpa using h
    simp
  | cons c cs ih =>
    rw [List.foldlM_cons, Option.bind_eq_bind, Option.bind_eq_some_iff] at h
    obtain ⟨k, hk, h⟩ := h
    obtain ⟨v, hv, rfl⟩ := Option.map_eq_some_iff.1 hk
    have hlt := value?_lt hv
    calc n < (16 * m + v + 1) * 16 ^ cs.length := ih h
      _ ≤ ((m + 1) * 16) * 16 ^ cs.length := Nat.mul_le_mul_right _ (by omega)
      _ = (m + 1) * 16 ^ (c :: cs).length := by
        rw [List.length_cons, Nat.pow_succ, Nat.mul_comm (16 ^ cs.length), Nat.mul_assoc]

theorem read?_lt {cs : List Char} {n : Nat} (h : read? cs = some n) : n < 16 ^ cs.length := by
  simpa using foldlM_lt h

/-- The digits that are written. -/
def digits : List Char := "0123456789abcdef".toList

theorem digit_mem_digits {v : Nat} (h : v < 16) : digit v ∈ digits := by
  have : ∀ v : Fin 16, digit v.val ∈ digits := by decide
  exact this ⟨v, h⟩

theorem mem_digits_of_mem_write {width n : Nat} {c : Char} (hc : c ∈ write width n) :
    c ∈ digits := by
  induction width generalizing n with
  | zero => cases hc
  | succ width ih =>
    rw [write, List.mem_append, List.mem_singleton] at hc
    rcases hc with hc | rfl
    · exact ih hc
    · exact digit_mem_digits (Nat.mod_lt _ (by decide))

end Hexadecimal

namespace Uuid

/-- These are 32 digits, of either case, for the number of `u`. -/
def Spells (ds : List Char) (u : Uuid) : Prop :=
  ds.length = 32 ∧ Hexadecimal.read? ds = some u.value

/-- The four text forms of an identifier. -/
inductive IsText (u : Uuid) : List Char → Prop
  | digits {ds : List Char} (h : Spells ds u) : IsText u ds
  | hyphenated {ds : List Char} (h : Spells ds u) : IsText u (hyphenate ds)
  | braced {ds : List Char} (h : Spells ds u) : IsText u ('\x7b' :: hyphenate ds ++ ['\x7d'])
  | urn {start ds : List Char} (hstart : start.map Char.toLower = "urn:uuid:".toList)
      (h : Spells ds u) : IsText u (start ++ hyphenate ds)

theorem hyphenate_length {ds : List Char} (h : ds.length = 32) : (hyphenate ds).length = 36 := by
  simp [hyphenate, h]

theorem unhyphenate?_hyphenate {ds : List Char} (h : ds.length = 32) :
    unhyphenate? (hyphenate ds) = some ds := by
  obtain ⟨a, b, c, d, e, rfl, ha, hb, hc, hd⟩ : ∃ a b c d e, ds = a ++ (b ++ (c ++ (d ++ e))) ∧
      a.length = 8 ∧ b.length = 4 ∧ c.length = 4 ∧ d.length = 4 := by
    refine ⟨ds.take 8, (ds.drop 8).take 4, (ds.drop 12).take 4, (ds.drop 16).take 4, ds.drop 20,
      ?_, ?_, ?_, ?_, ?_⟩
    · have h16 : (ds.drop 16).take 4 ++ ds.drop 20 = ds.drop 16 := by
        simpa using List.take_append_drop 4 (ds.drop 16)
      have h12 : (ds.drop 12).take 4 ++ ds.drop 16 = ds.drop 12 := by
        simpa using List.take_append_drop 4 (ds.drop 12)
      have h8 : (ds.drop 8).take 4 ++ ds.drop 12 = ds.drop 8 := by
        simpa using List.take_append_drop 4 (ds.drop 8)
      rw [h16, h12, h8, List.take_append_drop]
    all_goals simp [h]
  have he : e.length = 12 := by simp [ha, hb, hc, hd] at h; omega
  have hyphens : hyphenate (a ++ (b ++ (c ++ (d ++ e)))) =
      a ++ '-' :: (b ++ '-' :: (c ++ '-' :: (d ++ '-' :: e))) := by
    simp [hyphenate, List.drop_append, List.drop_eq_nil_of_le, ha, hb, hc, hd]
  rw [hyphens, unhyphenate?, if_pos]
  · simp [List.drop_append, List.drop_eq_nil_of_le, ha, hb, hc, hd]
  · simp [ha, hb, hc, hd, he]

theorem unhyphenate?_eq_some_iff {cs ds : List Char} :
    unhyphenate? cs = some ds ↔ ds.length = 32 ∧ cs = hyphenate ds := by
  constructor
  · intro h
    simp only [unhyphenate?, Option.ite_none_right_eq_some, Option.some.injEq, Bool.and_eq_true,
      decide_eq_true_eq] at h
    obtain ⟨⟨⟨⟨⟨hlength, h8⟩, h13⟩, h18⟩, h23⟩, rfl⟩ := h
    refine ⟨by simp [hlength], ?_⟩
    have split {n : Nat} (hn : cs[n]? = some '-') : cs.drop n = '-' :: cs.drop (n + 1) := by
      obtain ⟨hlt, hget⟩ := List.getElem?_eq_some_iff.1 hn
      rw [List.drop_eq_getElem_cons hlt, hget]
    have hblock (n : Nat) : (cs.drop n).take 4 ++ cs.drop (n + 4) = cs.drop n := by
      rw [← List.drop_drop]
      exact List.take_append_drop 4 (cs.drop n)
    have hparts : cs = cs.take 8 ++ '-' :: ((cs.drop 9).take 4 ++ '-' :: ((cs.drop 14).take 4 ++
        '-' :: ((cs.drop 19).take 4 ++ '-' :: cs.drop 24))) := by
      rw [← split h23, hblock 19, ← split h18, hblock 14, ← split h13, hblock 9, ← split h8,
        List.take_append_drop]
    simpa [hyphenate, List.take_append, List.drop_append, List.drop_eq_nil_of_le, hlength]
      using hparts
  · rintro ⟨hlength, rfl⟩
    exact unhyphenate?_hyphenate hlength

theorem ofDigits?_eq_some_iff {ds : List Char} {u : Uuid} (hlength : ds.length = 32) :
    ofDigits? ds = some u ↔ Spells ds u := by
  constructor
  · intro h
    obtain ⟨n, hn, rfl⟩ := Option.map_eq_some_iff.1 h
    have hlt := Hexadecimal.read?_lt hn
    rw [hlength] at hlt
    exact ⟨hlength, by rw [hn]; exact congrArg some (Nat.mod_eq_of_lt hlt).symm⟩
  · rintro ⟨_, h⟩
    rw [ofDigits?, h]
    exact congrArg some (by simp [ofNat, Nat.mod_eq_of_lt u.value_lt])

private theorem bind_ofDigits?_eq_some_iff {cs : List Char} {u : Uuid} :
    (unhyphenate? cs).bind ofDigits? = some u ↔ ∃ ds, Spells ds u ∧ cs = hyphenate ds := by
  rw [Option.bind_eq_some_iff]
  constructor
  · rintro ⟨ds, hds, h⟩
    obtain ⟨hlength, rfl⟩ := unhyphenate?_eq_some_iff.1 hds
    exact ⟨ds, (ofDigits?_eq_some_iff hlength).1 h, rfl⟩
  · rintro ⟨ds, h, rfl⟩
    exact ⟨ds, unhyphenate?_hyphenate h.1, (ofDigits?_eq_some_iff h.1).2 h⟩

/-- The start of a text that is not 32, 36 or 38 characters long. -/
theorem afterUrn?_eq_some_iff {cs rest : List Char} :
    afterUrn? cs = some rest ↔
      ∃ start, start.map Char.toLower = "urn:uuid:".toList ∧ cs = start ++ rest := by
  rw [afterUrn?, Option.ite_none_right_eq_some, Option.some.injEq]
  constructor
  · rintro ⟨hstart, rfl⟩
    exact ⟨cs.take 9, hstart, (List.take_append_drop 9 cs).symm⟩
  · rintro ⟨start, hstart, rfl⟩
    have hlength : start.length = 9 := by simpa using congrArg List.length hstart
    rw [← hlength, List.take_left, List.drop_left]
    exact ⟨hstart, rfl⟩

/-- A text of 38 characters that starts and ends with a brace. -/
private theorem eq_braced {cs : List Char} (hlength : cs.length = 38)
    (hfirst : cs.head? = some '\x7b') (hlast : cs.getLast? = some '\x7d') :
    cs = '\x7b' :: ((cs.drop 1).take 36 ++ ['\x7d']) := by
  cases cs with
  | nil => cases hfirst
  | cons c rest =>
    obtain rfl : c = '\x7b' := by simpa using hfirst
    have hrest : rest ≠ [] := by
      rintro rfl
      simp at hlength
    have hend : rest.getLast hrest = '\x7d' := by
      rw [List.getLast?_cons_of_ne_nil hrest, List.getLast?_eq_getLast_of_ne_nil hrest] at hlast
      exact Option.some.inj hlast
    have hsplit := List.dropLast_append_getLast hrest
    rw [hend, List.dropLast_eq_take] at hsplit
    simp only [List.length_cons, Nat.reduceEqDiff] at hlength
    rw [hlength] at hsplit
    exact congrArg ('\x7b' :: ·) hsplit.symm

theorem isText_of_parse? {s : String} {u : Uuid} (h : parse? s = some u) : IsText u s.toList := by
  unfold parse? at h
  generalize s.toList = cs at h ⊢
  dsimp only at h
  split at h
  · next hlength => exact .digits ((ofDigits?_eq_some_iff hlength).1 h)
  split at h
  · obtain ⟨ds, hds, rfl⟩ := bind_ofDigits?_eq_some_iff.1 h
    exact .hyphenated hds
  split at h
  · next hbraces =>
    simp only [Bool.and_eq_true, decide_eq_true_eq] at hbraces
    obtain ⟨⟨hlength, hfirst⟩, hlast⟩ := hbraces
    obtain ⟨ds, hds, hmiddle⟩ := bind_ofDigits?_eq_some_iff.1 h
    rw [eq_braced hlength hfirst hlast, hmiddle]
    exact .braced hds
  · rw [Option.bind_assoc, Option.bind_eq_some_iff] at h
    obtain ⟨rest, hrest, h⟩ := h
    obtain ⟨start, hstart, rfl⟩ := afterUrn?_eq_some_iff.1 hrest
    obtain ⟨ds, hds, rfl⟩ := bind_ofDigits?_eq_some_iff.1 h
    exact .urn hstart hds

theorem parse?_of_isText {s : String} {u : Uuid} (h : IsText u s.toList) : parse? s = some u := by
  unfold parse?
  generalize s.toList = cs at h ⊢
  dsimp only
  cases h with
  | digits h => rw [if_pos h.1, (ofDigits?_eq_some_iff h.1).2 h]
  | @hyphenated ds h =>
    have hlength := hyphenate_length h.1
    rw [if_neg (by omega), if_pos hlength]
    exact bind_ofDigits?_eq_some_iff.2 ⟨ds, h, rfl⟩
  | @braced ds h =>
    have hlength := hyphenate_length h.1
    rw [if_neg (by simp [hlength]), if_neg (by simp [hlength]),
      if_pos (by simp [hlength, List.getLast?_cons])]
    refine bind_ofDigits?_eq_some_iff.2 ⟨ds, h, ?_⟩
    simp [hlength]
  | @urn start ds hstart h =>
    have hlength := hyphenate_length h.1
    have hnine : start.length = 9 := by simpa using congrArg List.length hstart
    have hall : (start ++ hyphenate ds).length = 45 := by simp [hlength, hnine]
    rw [if_neg (by omega), if_neg (by omega), if_neg (by simp [hall]),
      afterUrn?_eq_some_iff.2 ⟨start, hstart, rfl⟩]
    exact bind_ofDigits?_eq_some_iff.2 ⟨ds, h, rfl⟩

/-- Reading an identifier takes its text forms and nothing else. -/
theorem parse?_eq_some_iff {s : String} {u : Uuid} : parse? s = some u ↔ IsText u s.toList :=
  ⟨isText_of_parse?, parse?_of_isText⟩

theorem spells_write (u : Uuid) : Spells (Hexadecimal.write 32 u.value) u := by
  refine ⟨Hexadecimal.write_length 32 u.value, ?_⟩
  rw [Hexadecimal.read?_write]
  exact congrArg some (Nat.mod_eq_of_lt u.value_lt)

theorem parse?_text (u : Uuid) : parse? u.text = some u := by
  rw [parse?_eq_some_iff, text, String.toList_ofList]
  exact .hyphenated (spells_write u)

/-- The text form with lower-case digits in groups of 8, 4, 4, 4 and 12 and hyphens between them. -/
def IsUsualText (u : Uuid) (s : String) : Prop :=
  ∃ ds, Spells ds u ∧ (∀ c ∈ ds, c ∈ Hexadecimal.digits) ∧ s.toList = hyphenate ds

theorem isUsualText_text (u : Uuid) : u.IsUsualText u.text :=
  ⟨_, u.spells_write, fun _ => Hexadecimal.mem_digits_of_mem_write, String.toList_ofList⟩

theorem isNil_eq_false_iff {u : Uuid} : u.isNil = false ↔ u ≠ nil := by
  rw [isNil, beq_eq_false_iff_ne, ne_eq, ne_eq, not_iff_not]
  constructor
  · intro h
    cases u
    cases h
    rfl
  · rintro rfl
    rfl

end Uuid
end TradeRegister

import Mathlib.Data.List.Basic
import TradeRegister.Base64

/-! # Canonical base64

Reading accepts exactly what writing produces. Each octet string has one written form, so two
texts that are read alike are the same text.
-/

namespace TradeRegister.Base64

namespace Alphabet

/-- Every six-bit number is read back from its symbol. -/
def IsFaithful (a : Alphabet) : Prop := ∀ v < 64, a.value? (a.symbol v) = some v

theorem urlSafe_isFaithful : urlSafe.IsFaithful := by
  have h : ∀ v : Fin 64, urlSafe.value? (urlSafe.symbol v.val) = some v.val := by decide
  intro v hv
  exact h ⟨v, hv⟩

theorem standard_isFaithful : standard.IsFaithful := by
  have h : ∀ v : Fin 64, standard.value? (standard.symbol v.val) = some v.val := by decide
  intro v hv
  exact h ⟨v, hv⟩

theorem symbol_of_value? {a : Alphabet} {c : Char} {v : Nat} (h : a.value? c = some v) :
    v < 64 ∧ a.symbol v = c := by
  have hc : Char.ofNat c.toNat = c := Char.ofNat_toNat c
  simp only [value?, Bool.and_eq_true, decide_eq_true_eq] at h
  split at h
  · obtain rfl := Option.some.inj h
    refine ⟨by omega, ?_⟩
    rw [symbol, if_pos (by omega), show 65 + (c.toNat - 65) = c.toNat by omega, hc]
  split at h
  · obtain rfl := Option.some.inj h
    refine ⟨by omega, ?_⟩
    rw [symbol, if_neg (by omega), if_pos (by omega),
      show 71 + (c.toNat - 71) = c.toNat by omega, hc]
  split at h
  · obtain rfl := Option.some.inj h
    refine ⟨by omega, ?_⟩
    rw [symbol, if_neg (by omega), if_neg (by omega), if_pos (by omega),
      show c.toNat + 4 - 4 = c.toNat by omega, hc]
  split at h
  · next h62 =>
    obtain rfl := Option.some.inj h
    exact ⟨by decide, by simp [symbol, h62]⟩
  split at h
  · next h63 =>
    obtain rfl := Option.some.inj h
    exact ⟨by decide, by simp [symbol, h63]⟩
  · cases h

theorem mapM_value?_map_symbol {a : Alphabet} (ha : a.IsFaithful) {vs : List Nat}
    (h : ∀ v ∈ vs, v < 64) : (vs.map a.symbol).mapM a.value? = some vs := by
  induction vs with
  | nil => rfl
  | cons v vs ih =>
    have hv := ha v (h v List.mem_cons_self)
    have hvs := ih fun w hw => h w (List.mem_cons_of_mem v hw)
    simp [hv, hvs]

theorem map_symbol_of_mapM_value? {a : Alphabet} {cs : List Char} {vs : List Nat}
    (h : cs.mapM a.value? = some vs) : (∀ v ∈ vs, v < 64) ∧ vs.map a.symbol = cs := by
  induction cs generalizing vs with
  | nil =>
    obtain rfl : [] = vs := by simpa using h
    simp
  | cons c cs ih =>
    simp only [List.mapM_cons, Option.bind_eq_bind, Option.bind_eq_some_iff] at h
    obtain ⟨v, hv, ws, hws, h⟩ := h
    obtain rfl : v :: ws = vs := by simpa using h
    obtain ⟨hlt, hsymbol⟩ := symbol_of_value? hv
    obtain ⟨hall, hmap⟩ := ih hws
    exact ⟨by simpa [hlt] using hall, by rw [List.map_cons, hsymbol, hmap]⟩

end Alphabet

/-! ## Six-bit groups -/

theorem groups_lt (b : Bytes) : ∀ v ∈ groups b, v < 64 := by
  fun_induction groups b with
  | case1 => simp
  | case2 x =>
    have hx := x.toNat_lt
    simp
    omega
  | case3 x y =>
    have hx := x.toNat_lt
    have hy := y.toNat_lt
    simp
    omega
  | case4 x y z rest ih =>
    have hx := x.toNat_lt
    have hy := y.toNat_lt
    have hz := z.toNat_lt
    simp only [List.mem_cons, forall_eq_or_imp]
    exact ⟨by omega, by omega, by omega, by omega, ih⟩

theorem octets?_groups (b : Bytes) : octets? (groups b) = some b := by
  fun_induction groups b with
  | case1 => rfl
  | case2 x =>
    have hx := x.toNat_lt
    have h : x.toNat / 4 * 4 + x.toNat % 4 * 16 / 16 = x.toNat := by omega
    simp only [octets?, h, UInt8.ofNat_toNat]
    rw [if_pos (by omega)]
  | case3 x y =>
    have hx := x.toNat_lt
    have hy := y.toNat_lt
    have h : x.toNat / 4 * 4 + (x.toNat % 4 * 16 + y.toNat / 16) / 16 = x.toNat := by omega
    have k : (x.toNat % 4 * 16 + y.toNat / 16) % 16 * 16 + y.toNat % 16 * 4 / 4 = y.toNat := by
      omega
    simp only [octets?, h, k, UInt8.ofNat_toNat]
    rw [if_pos (by omega)]
  | case4 x y z rest ih =>
    have hx := x.toNat_lt
    have hy := y.toNat_lt
    have hz := z.toNat_lt
    have h : x.toNat / 4 * 4 + (x.toNat % 4 * 16 + y.toNat / 16) / 16 = x.toNat := by omega
    have k : (x.toNat % 4 * 16 + y.toNat / 16) % 16 * 16 +
        (y.toNat % 16 * 4 + z.toNat / 64) / 4 = y.toNat := by omega
    have l : (y.toNat % 16 * 4 + z.toNat / 64) % 4 * 64 + z.toNat % 64 = z.toNat := by omega
    simp only [octets?, ih, h, k, l, UInt8.ofNat_toNat, Option.map_some]

private theorem toNat_ofNat_of_lt {n : Nat} (h : n < 256) : (UInt8.ofNat n).toNat = n := by
  simp [UInt8.toNat_ofNat', Nat.mod_eq_of_lt h]

theorem groups_of_octets? {vs : List Nat} {b : Bytes} (hv : ∀ v ∈ vs, v < 64)
    (h : octets? vs = some b) : groups b = vs := by
  fun_induction octets? vs generalizing b with
  | case1 =>
    obtain rfl := Option.some.inj h
    rfl
  | case2 => cases h
  | case3 p q hq =>
    simp only [List.mem_cons, List.not_mem_nil, or_false, forall_eq_or_imp, forall_eq] at hv
    obtain rfl := Option.some.inj h
    rw [groups, toNat_ofNat_of_lt (by omega)]
    congr 1 <;> [omega; (congr 1; omega)]
  | case4 => cases h
  | case5 p q r hr =>
    simp only [List.mem_cons, List.not_mem_nil, or_false, forall_eq_or_imp, forall_eq] at hv
    obtain rfl := Option.some.inj h
    rw [groups, toNat_ofNat_of_lt (by omega), toNat_ofNat_of_lt (by omega)]
    simp only [List.cons.injEq, and_true]
    omega
  | case6 => cases h
  | case7 p q r s rest ih =>
    simp only [List.mem_cons, forall_eq_or_imp] at hv
    obtain ⟨hp, hq, hr, hs, hrest⟩ := hv
    obtain ⟨tail, htail, rfl⟩ := Option.map_eq_some_iff.1 h
    rw [groups, toNat_ofNat_of_lt (by omega), toNat_ofNat_of_lt (by omega),
      toNat_ofNat_of_lt (by omega), ih hrest htail]
    simp only [List.cons.injEq, and_true]
    omega

/-! ## Texts -/

theorem decode?_encode {a : Alphabet} (ha : a.IsFaithful) (b : Bytes) :
    decode? a (encode a b) = some b := by
  rw [decode?, encode, Alphabet.mapM_value?_map_symbol ha (groups_lt b), Option.bind_some,
    octets?_groups]

theorem eq_encode_of_decode? {a : Alphabet} {cs : List Char} {b : Bytes}
    (h : decode? a cs = some b) : cs = encode a b := by
  obtain ⟨vs, hvs, hb⟩ := Option.bind_eq_some_iff.1 h
  obtain ⟨hlt, hmap⟩ := Alphabet.map_symbol_of_mapM_value? hvs
  rw [encode, groups_of_octets? hlt hb, hmap]

/-- A text stands for octets exactly if it is their written form. -/
theorem decode?_eq_some_iff {a : Alphabet} (ha : a.IsFaithful) {cs : List Char} {b : Bytes} :
    decode? a cs = some b ↔ cs = encode a b := by
  constructor
  · exact eq_encode_of_decode?
  · rintro rfl
    exact decode?_encode ha b

theorem forall_mem_encode {a : Alphabet} {P : Char → Prop} (h : ∀ v : Fin 64, P (a.symbol v.val))
    (b : Bytes) : ∀ c ∈ encode a b, P c := by
  intro c hc
  obtain ⟨v, hv, rfl⟩ := List.mem_map.1 hc
  exact h ⟨v, groups_lt b v hv⟩

/-- No symbol is a dot, so a dot never stands inside a written text. -/
theorem dot_notMem_encode (b : Bytes) : '.' ∉ encode .urlSafe b :=
  fun hdot => forall_mem_encode (P := (· ≠ '.')) (by decide) b '.' hdot rfl

theorem length_encode (a : Alphabet) (b : Bytes) :
    (encode a b).length = (4 * b.length + 2) / 3 := by
  rw [encode, List.length_map]
  fun_induction groups b with
  | case1 => simp
  | case2 x => simp
  | case3 x y => simp
  | case4 x y z rest ih =>
    simp only [List.length_cons, ih]
    omega

end TradeRegister.Base64

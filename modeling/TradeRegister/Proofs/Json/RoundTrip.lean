import TradeRegister.Proofs.Json.Escape
import TradeRegister.Proofs.Json.Numeral

/-! # Written trees

A tree whose numbers are integers and whose strings are escaped octets is read back from its text,
at any depth. The induction is on the tree; the text that follows is arbitrary as long as it does
not continue a number.
-/

namespace TradeRegister.Json

/-- Trees that hold integers and escaped octets only. -/
inductive Written : Json → Prop
  | null : Written .null
  | bool (b : Bool) : Written (.bool b)
  | int (n : Int) : Written (ofInt n)
  | octets (b : Bytes) : Written (ofOctets b)
  | array {items : List Json} (h : ∀ v ∈ items, Written v) : Written (.array items)
  | object {members : List (Bytes × Json)} (hkeys : ∀ m ∈ members, ∃ k, m.1 = escape k)
      (h : ∀ m ∈ members, Written m.2) : Written (.object members)

theorem written_ofString (s : String) : Written (ofString s) := .octets (Bytes.ofString s)

theorem written_ofFields {fields : List (String × Json)} (h : ∀ f ∈ fields, Written f.2) :
    Written (ofFields fields) := by
  refine .object ?_ ?_
  · intro m hm
    obtain ⟨f, _, rfl⟩ := List.mem_map.1 hm
    exact ⟨Bytes.ofString f.1, rfl⟩
  · intro m hm
    obtain ⟨f, hf, rfl⟩ := List.mem_map.1 hm
    exact h f hf

theorem render_ofInt (n : Int) : render (ofInt n) = intOctets n := by
  simp only [ofInt, render, intOctets, numeralOctets]

theorem skipSpace_cons {b : UInt8} (h : isSpace b = false) (rest : Bytes) :
    skipSpace (b :: rest) = b :: rest := by
  simp [skipSpace, h]

theorem isSpace_of_isDigit {b : UInt8} (h : isDigit b = true) : isSpace b = false := by
  by_contra hs
  simp only [isSpace, Bool.not_eq_false, Bool.or_eq_true, decide_eq_true_eq] at hs
  rcases hs with ((rfl | rfl) | rfl) | rfl <;> exact absurd h (by decide)

/-- A value is found again in front of any text that does not continue a number. -/
def ReadsBack (v : Json) : Prop :=
  ∀ fuel rest, (render v).length < fuel → EndsNumber rest →
    value? fuel (render v ++ rest) = some (v, rest)

/-- No text of a value starts with white space or a closing bracket. -/
theorem render_eq_cons {v : Json} (hv : Written v) :
    ∃ b rest, render v = b :: rest ∧ isSpace b = false ∧ b ≠ 0x5D := by
  cases hv with
  | null => exact ⟨_, _, by rw [render], by decide, by decide⟩
  | bool b => cases b <;> exact ⟨_, _, by rw [render], by decide, by decide⟩
  | int n =>
    obtain ⟨b, rest, h, hb⟩ := intOctets_eq_cons n
    refine ⟨b, rest, by rw [render_ofInt, h], ?_⟩
    rcases hb with rfl | hb
    · decide
    · refine ⟨isSpace_of_isDigit hb, ?_⟩
      rintro rfl
      exact absurd hb (by decide)
  | octets b => exact ⟨_, _, by rw [ofOctets, render, quoted, List.cons_append], by decide, by decide⟩
  | array => exact ⟨_, _, by rw [render, List.cons_append], by decide, by decide⟩
  | object => exact ⟨_, _, by rw [render, List.cons_append], by decide, by decide⟩

theorem value?_ofInt (n : Int) (fuel : Nat) {rest : Bytes} (h : EndsNumber rest) :
    value? (fuel + 1) (render (ofInt n) ++ rest) = some (ofInt n, rest) := by
  obtain ⟨b, tail, hcons, hb⟩ := intOctets_eq_cons n
  have hnumber := number?_writeInt n h
  have hliteral := map_ofUInt8_intOctets n
  have hcases : isSpace b = false ∧ b ≠ 0x22 ∧ b ≠ 0x5B ∧ b ≠ 0x7B ∧ b ≠ 0x6E ∧ b ≠ 0x74 ∧
      b ≠ 0x66 := by
    rcases hb with rfl | hb
    · decide
    · refine ⟨isSpace_of_isDigit hb, ?_, ?_, ?_, ?_, ?_, ?_⟩
      all_goals rintro rfl; exact absurd hb (by decide)
  obtain ⟨hspace, h22, h5B, h7B, h6E, h74, h66⟩ := hcases
  rw [render_ofInt]
  rw [hcons] at hnumber hliteral ⊢
  rw [List.cons_append] at hnumber ⊢
  rw [value?.eq_2, skipSpace_cons hspace]
  simp only [h6E, h74, h66, if_false, hnumber, Option.map_some, hliteral]
  rfl

theorem render_ofOctets_append (b rest : Bytes) :
    render (ofOctets b) ++ rest = 0x22 :: (escape b ++ 0x22 :: rest) := by
  simp [ofOctets, render, quoted]

theorem value?_ofOctets (b : Bytes) (fuel : Nat) (rest : Bytes) :
    value? (fuel + 1) (render (ofOctets b) ++ rest) = some (ofOctets b, rest) := by
  rw [render_ofOctets_append, value?.eq_2, skipSpace_cons (by decide)]
  simp only [literal?_escape]
  rfl

theorem items?_renderItems {items : List Json} (hne : items ≠ [])
    (h : ∀ v ∈ items, ReadsBack v) (fuel : Nat) (rest : Bytes)
    (hfuel : (renderItems items).length + 1 < fuel) :
    items? fuel (renderItems items ++ 0x5D :: rest) = some (items, rest) := by
  induction items generalizing fuel with
  | nil => exact absurd rfl hne
  | cons v items ih =>
    obtain ⟨fuel, rfl⟩ : ∃ k, fuel = k + 1 := ⟨fuel - 1, by omega⟩
    have hv := h v List.mem_cons_self
    cases items with
    | nil =>
      simp only [renderItems] at hfuel ⊢
      rw [items?.eq_2, hv fuel (0x5D :: rest) (by omega) (endsNumber_cons (by decide))]
      simp only [skipSpace_cons (show isSpace 0x5D = false by decide)]
    | cons w items =>
      simp only [renderItems, List.length_append, List.length_cons] at hfuel
      have hrest := ih (List.cons_ne_nil w items) (fun u hu => h u (List.mem_cons_of_mem v hu))
        fuel (by omega)
      rw [renderItems, List.append_assoc, List.cons_append, items?.eq_2,
        hv fuel _ (by omega) (endsNumber_cons (by decide))]
      simp only [skipSpace_cons (show isSpace 0x2C = false by decide), hrest, Option.map_some]

theorem members?_renderMembers {members : List (Bytes × Json)} (hne : members ≠ [])
    (hkeys : ∀ m ∈ members, ∃ k, m.1 = escape k) (h : ∀ m ∈ members, ReadsBack m.2)
    (fuel : Nat) (rest : Bytes) (hfuel : (renderMembers members).length + 1 < fuel) :
    members? fuel (renderMembers members ++ 0x7D :: rest) = some (members, rest) := by
  induction members generalizing fuel with
  | nil => exact absurd rfl hne
  | cons m members ih =>
    obtain ⟨fuel, rfl⟩ : ∃ k, fuel = k + 1 := ⟨fuel - 1, by omega⟩
    obtain ⟨key, v⟩ := m
    obtain ⟨k, hk⟩ := hkeys (key, v) List.mem_cons_self
    obtain rfl : key = escape k := hk
    have hv : ReadsBack v := h (escape k, v) List.mem_cons_self
    have hquote (tail : Bytes) : quoted (escape k) ++ tail = 0x22 :: (escape k ++ 0x22 :: tail) := by
      simp [quoted]
    cases members with
    | nil =>
      simp only [renderMembers, List.length_append, List.length_cons] at hfuel
      rw [renderMembers, List.append_assoc, List.cons_append, hquote, members?.eq_2,
        skipSpace_cons (by decide)]
      simp only [literal?_escape, skipSpace_cons (show isSpace 0x3A = false by decide),
        hv fuel (0x7D :: rest) (by omega) (endsNumber_cons (by decide)),
        skipSpace_cons (show isSpace 0x7D = false by decide)]
    | cons n members =>
      simp only [renderMembers, List.length_append, List.length_cons] at hfuel
      have hrest := ih (List.cons_ne_nil n members)
        (fun u hu => hkeys u (List.mem_cons_of_mem _ hu))
        (fun u hu => h u (List.mem_cons_of_mem _ hu)) fuel (by omega)
      rw [renderMembers]
      simp only [List.append_assoc, List.cons_append]
      rw [hquote, members?.eq_2, skipSpace_cons (by decide)]
      simp only [literal?_escape, skipSpace_cons (show isSpace 0x3A = false by decide),
        hv fuel (0x2C :: (renderMembers (n :: members) ++ 0x7D :: rest)) (by omega)
          (endsNumber_cons (by decide)),
        skipSpace_cons (show isSpace 0x2C = false by decide), hrest, Option.map_some]

theorem renderItems_eq_cons {items : List Json} (hne : items ≠ []) (h : ∀ v ∈ items, Written v) :
    ∃ b rest, renderItems items = b :: rest ∧ isSpace b = false ∧ b ≠ 0x5D := by
  cases items with
  | nil => exact absurd rfl hne
  | cons v items =>
    obtain ⟨b, rest, hv, hb⟩ := render_eq_cons (h v List.mem_cons_self)
    cases items with
    | nil => exact ⟨b, rest, by rw [renderItems, hv], hb⟩
    | cons w items => exact ⟨b, _, by rw [renderItems, hv, List.cons_append], hb⟩

theorem renderMembers_eq_cons {members : List (Bytes × Json)} (hne : members ≠ []) :
    ∃ rest, renderMembers members = 0x22 :: rest := by
  cases members with
  | nil => exact absurd rfl hne
  | cons m members =>
    cases members with
    | nil => exact ⟨_, by rw [renderMembers, quoted]; rfl⟩
    | cons n members => exact ⟨_, by rw [renderMembers, quoted]; rfl⟩

theorem readsBack_of_succ {v : Json}
    (h : ∀ fuel rest, (render v).length ≤ fuel → EndsNumber rest →
      value? (fuel + 1) (render v ++ rest) = some (v, rest)) : ReadsBack v := by
  intro fuel rest hfuel hrest
  obtain ⟨fuel, rfl⟩ : ∃ k, fuel = k + 1 := ⟨fuel - 1, by omega⟩
  exact h fuel rest (by omega) hrest

theorem readsBack_array {items : List Json} (h : ∀ v ∈ items, Written v)
    (ih : ∀ v ∈ items, ReadsBack v) : ReadsBack (.array items) := by
  apply readsBack_of_succ
  intro fuel rest hfuel _
  rw [render] at hfuel ⊢
  simp only [List.cons_append, List.append_assoc, List.nil_append]
  rw [value?.eq_2, skipSpace_cons (by decide)]
  by_cases hne : items = []
  · subst hne
    rfl
  · obtain ⟨b, tail, hcons, hspace, h5D⟩ := renderItems_eq_cons hne h
    have hread := items?_renderItems hne ih fuel rest (by simp at hfuel; omega)
    rw [hcons] at hread ⊢
    simp only [List.cons_append] at hread ⊢
    simp only [skipSpace_cons hspace]
    split
    · next heq => exact absurd (List.cons.inj heq).1 h5D
    · rw [hread]
      rfl

theorem readsBack_object {members : List (Bytes × Json)}
    (hkeys : ∀ m ∈ members, ∃ k, m.1 = escape k) (ih : ∀ m ∈ members, ReadsBack m.2) :
    ReadsBack (.object members) := by
  apply readsBack_of_succ
  intro fuel rest hfuel _
  rw [render] at hfuel ⊢
  simp only [List.cons_append, List.append_assoc, List.nil_append]
  rw [value?.eq_2, skipSpace_cons (by decide)]
  by_cases hne : members = []
  · subst hne
    rfl
  · obtain ⟨tail, hcons⟩ := renderMembers_eq_cons hne
    have hread := members?_renderMembers hne hkeys ih fuel rest (by simp at hfuel; omega)
    rw [hcons] at hread ⊢
    simp only [List.cons_append] at hread ⊢
    simp only [skipSpace_cons (show isSpace 0x22 = false by decide)]
    exact congrArg (Option.map _) hread

/-- Every written tree is found again in front of what follows it. -/
theorem readsBack {v : Json} (hv : Written v) : ReadsBack v := by
  induction hv with
  | null =>
    apply readsBack_of_succ
    intro fuel rest _ _
    rw [render, value?.eq_2]
    rfl
  | bool b =>
    apply readsBack_of_succ
    intro fuel rest _ _
    cases b <;> rw [render, value?.eq_2] <;> rfl
  | int n =>
    apply readsBack_of_succ
    intro fuel rest _ hrest
    exact value?_ofInt n fuel hrest
  | octets b =>
    apply readsBack_of_succ
    intro fuel rest _ _
    exact value?_ofOctets b fuel rest
  | array h ih => exact readsBack_array h ih
  | object hkeys _ ih => exact readsBack_object hkeys ih

/-- The text of a written tree denotes that tree. -/
theorem parse?_render {v : Json} (hv : Written v) : parse? (render v) = some v := by
  have h := readsBack hv ((render v).length + 1) [] (by omega) endsNumber_nil
  rw [List.append_nil] at h
  rw [parse?, h]
  rfl

/-! ## Records -/

theorem named?_ofFields (fields : List (String × Json)) :
    named? (fields.map fun f => (escape (Bytes.ofString f.1), f.2)) = some fields := by
  induction fields with
  | nil => rfl
  | cons f fields ih =>
    rw [named?] at ih ⊢
    rw [List.map_cons, List.mapM_cons, ih]
    simp

/-- An open layout finds in a written object what its fields hold under each key. -/
theorem read?_ofFields (keys : List String) (fields : List (String × Json)) :
    (⟨keys, false⟩ : Layout).read? (ofFields fields) =
      keys.mapM fun key =>
        match values key fields with
        | [] => some none
        | [v] => some (some v)
        | _ => none := by
  rw [ofFields, Layout.read?, named?_ofFields]
  rfl

end TradeRegister.Json

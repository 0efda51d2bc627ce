import TradeRegister.Proofs.Json.RoundTrip
import TradeRegister.Token.Payload

/-! # The second reading of a payload

Reading follows the text of a claim without looking at its value. It follows every string and every
finite number to the end, so an object of distinct claims with such values passes.
-/

namespace TradeRegister.Token.Payload

open Json

theorem lostSurrogate?_escapeOctet_append (b : UInt8) (rest : Bytes) :
    lostSurrogate? (escapeOctet b ++ rest) = lostSurrogate? rest := by
  have form := escapeForm b
  revert form
  generalize escapeOctet b = form
  rintro (⟨e, hu, _⟩ | ⟨c, d, _, hunit, hlt⟩ | ⟨hquote, hslash, _⟩)
  · rw [List.cons_append, List.cons_append, List.nil_append,
      lostSurrogate?.eq_6 _ _ (by simp [hu])]
  · have hn : b.toNat < 32 := by simpa [UInt8.lt_iff_toNat_lt] using hlt
    rw [lostSurrogate?.eq_def]
    simp only [List.cons_append, List.nil_append, hunit]
    rw [if_neg (by simp; omega), if_neg (by simp; omega)]
  · rw [List.cons_append, List.nil_append,
      lostSurrogate?.eq_7 _ _ (by simp [hquote]) (by simp [hslash]) (by simp [hslash])]

theorem lostSurrogate?_escape (b rest : Bytes) :
    lostSurrogate? (escape b ++ 0x22 :: rest) = none := by
  induction b with
  | nil => rfl
  | cons b bs ih =>
    rw [escape, List.flatMap_cons, List.append_assoc, lostSurrogate?_escapeOctet_append]
    exact ih

theorem string?_escape (s : String) (rest : Bytes) :
    string? (escape (Bytes.ofString s) ++ 0x22 :: rest) = some ⟨true, rest⟩ := by
  simp [string?, lostSurrogate?_escape, literal?_escape]

/-- The reading of a claim ends where its value does. -/
def Follows (name : String) (v : Json) : Prop :=
  ∀ rest, EndsNumber rest → afterClaim? name (render v ++ rest) = some rest

theorem follows_ofString {name : String} (hname : name ∈ names) (s : String) :
    Follows name (ofString s) := by
  intro rest _
  have htime : times.contains name = false := by
    simp only [names, List.mem_cons, List.not_mem_nil, or_false] at hname
    rcases hname with rfl | rfl | rfl <;> decide
  have hvalue (fuel depth : Nat) :
      content? (fuel + 1) depth (render (ofString s) ++ rest) = some ⟨true, rest⟩ := by
    rw [ofString, render_ofOctets_append, content?.eq_def]
    simp only [skipSpace_cons (show isSpace 0x22 = false by decide), string?_escape]
  rw [afterClaim?, htime, if_neg (by simp), if_pos (List.contains_iff_mem.2 hname), hvalue]
  rfl

theorem follows_time {name : String} (hname : name ∈ times) {n : Int}
    (hn : (Decimal.write n.natAbs).length ≤ 308) : Follows name (ofInt n) := by
  intro rest hrest
  obtain ⟨b, tail, hcons, hb⟩ := intOctets_eq_cons n
  have hatom : atom? (render (ofInt n) ++ rest) = some ⟨true, rest⟩ := by
    rw [atom?, value?_ofInt n 0 hrest]
    simp [ofInt, isFinite_writeInt hn]
  have hfirst : isSpace b = false ∧ b ≠ 0x22 ∧ b ≠ 0x5B ∧ b ≠ 0x7B := by
    rcases hb with rfl | hb
    · decide
    · refine ⟨isSpace_of_isDigit hb, ?_, ?_, ?_⟩
      all_goals rintro rfl; exact absurd hb (by decide)
  obtain ⟨hspace, h22, h5B, h7B⟩ := hfirst
  rw [afterClaim?, if_pos (List.contains_iff_mem.2 hname)]
  rw [render_ofInt, hcons, List.cons_append] at hatom ⊢
  have htime : time? (b :: (tail ++ rest)) = atom? (b :: (tail ++ rest)) := by
    rw [time?, skipSpace_cons hspace]
    split
    · next heq => exact absurd (List.cons.inj heq).1 h22
    · next heq => exact absurd (List.cons.inj heq).1 h5B
    · next heq => exact absurd (List.cons.inj heq).1 h7B
    · rfl
  rw [htime, hatom]
  rfl

/-- A claim that is not registered may hold any written value. -/
theorem follows_of_unknown {name : String} (htimes : name ∉ times) (hnames : name ∉ names)
    {v : Json} (hv : Written v) : Follows name v := by
  intro rest hrest
  have hread := readsBack hv ((render v ++ rest).length + 1) rest
    (by rw [List.length_append]; omega) hrest
  rw [afterClaim?, if_neg (by simpa using htimes), if_neg (by simpa using hnames), hread]
  rfl

/-! ## The members of an object -/

def memberOctets (fields : List (String × Json)) : Bytes :=
  renderMembers (fields.map fun f => (escape (Bytes.ofString f.1), f.2))

theorem claim?_quoted (name : String) (rest : Bytes) :
    claim? (quoted (escape (Bytes.ofString name)) ++ 0x3A :: rest) = some (name, rest) := by
  have hquote : quoted (escape (Bytes.ofString name)) ++ 0x3A :: rest =
      0x22 :: (escape (Bytes.ofString name) ++ 0x22 :: 0x3A :: rest) := by simp [quoted]
  rw [hquote, claim?, skipSpace_cons (by decide)]
  simp only [literal?_escape, Option.bind_eq_bind, Option.bind_some, text?_escape,
    skipSpace_cons (show isSpace 0x3A = false by decide)]

theorem claims?_memberOctets {fields : List (String × Json)} (hne : fields ≠ [])
    (hvalues : ∀ f ∈ fields, Follows f.1 f.2) (hdistinct : (fields.map (·.1)).Nodup)
    (seen : List String) (hseen : ∀ f ∈ fields, f.1 ∉ seen) (fuel : Nat)
    (hfuel : fields.length ≤ fuel) (rest : Bytes) :
    claims? fuel seen (memberOctets fields ++ 0x7D :: rest) = some rest := by
  induction fields generalizing seen fuel with
  | nil => exact absurd rfl hne
  | cons f fields ih =>
    obtain ⟨name, v⟩ := f
    rw [List.length_cons] at hfuel
    obtain ⟨fuel, rfl⟩ : ∃ k, fuel = k + 1 := ⟨fuel - 1, by omega⟩
    have hv : Follows name v := hvalues (name, v) List.mem_cons_self
    have hnew : ¬seen.contains name = true := by
      simpa using hseen (name, v) List.mem_cons_self
    rw [List.map_cons, List.nodup_cons] at hdistinct
    cases fields with
    | nil =>
      simp only [memberOctets, List.map_cons, List.map_nil, renderMembers, List.append_assoc,
        List.cons_append]
      rw [claims?, claim?_quoted]
      simp only [Option.bind_eq_bind, Option.bind_some, hnew,
        hv (0x7D :: rest) (endsNumber_cons (by decide)), skipSpace_cons (show isSpace 0x7D = false by decide)]
      rfl
    | cons g fields =>
      have hrest (seen' : List String) (h : seen' = seen ∨ seen' = name :: seen) :
          claims? fuel seen' (memberOctets (g :: fields) ++ 0x7D :: rest) = some rest := by
        refine ih (List.cons_ne_nil g fields) (fun f hf => hvalues f (List.mem_cons_of_mem _ hf))
          hdistinct.2 seen' ?_ fuel (by omega)
        intro f hf
        have hold := hseen f (List.mem_cons_of_mem _ hf)
        rcases h with rfl | rfl
        · exact hold
        · rintro (_ | ⟨_, hmem⟩)
          · exact hdistinct.1 (List.mem_map.2 ⟨f, hf, rfl⟩)
          · exact hold hmem
      simp only [memberOctets, List.map_cons, renderMembers, List.append_assoc, List.cons_append]
        at hrest ⊢
      rw [claims?, claim?_quoted]
      simp only [Option.bind_eq_bind, Option.bind_some, hnew,
        hv (0x2C :: _) (endsNumber_cons (by decide)), skipSpace_cons (show isSpace 0x2C = false by decide)]
      exact hrest _ (by split <;> simp)

/-- An object with distinct claims, each of a value that reading follows, passes. -/
theorem isSound_ofFields {fields : List (String × Json)} (hne : fields ≠ [])
    (hvalues : ∀ f ∈ fields, Follows f.1 f.2) (hdistinct : (fields.map (·.1)).Nodup) :
    isSound (render (ofFields fields)) = true := by
  have hlength : ∀ fields, fields.length ≤ (memberOctets fields).length := by
    intro fields
    induction fields with
    | nil => simp
    | cons f fields ih =>
      cases fields with
      | nil => simp [memberOctets, renderMembers, quoted]
      | cons g fields =>
        simp only [memberOctets, List.map_cons, renderMembers, List.length_append,
          List.length_cons] at ih ⊢
        omega
  obtain ⟨tail, hcons⟩ : ∃ tail, memberOctets fields = 0x22 :: tail :=
    renderMembers_eq_cons (by simpa using hne)
  have hread := claims?_memberOctets hne hvalues hdistinct [] (by simp)
    (memberOctets fields ++ [0x7D]).length
    (by rw [List.length_append]; exact Nat.le_add_right_of_le (hlength fields)) []
  rw [hcons] at hread
  change isSound (0x7B :: memberOctets fields ++ [0x7D]) = true
  rw [hcons, isSound, List.cons_append, skipSpace_cons (by decide)]
  simp only [List.cons_append] at hread ⊢
  simp only [skipSpace_cons (show isSpace 0x22 = false by decide)]
  change (claims? _ [] (0x22 :: (tail ++ [0x7D]))).any _ = true
  rw [hread]
  rfl

end TradeRegister.Token.Payload

import TradeRegister.Proofs.Base64
import TradeRegister.Proofs.Result
import TradeRegister.Proofs.Token.Header
import TradeRegister.Proofs.Uuid

/-! # What each check lets pass

One equivalence for each check of a token. Validation passes exactly the tokens whose three
segments pass all of them.
-/

namespace TradeRegister

namespace Text

theorem notMem_of_mem_split {sep : Char} {cs field : List Char} (h : field ∈ split sep cs) :
    sep ∉ field := by
  induction cs generalizing field with
  | nil =>
    obtain rfl : field = [] := by simpa [split] using h
    simp
  | cons c cs ih =>
    rw [split] at h
    split at h
    · rcases List.mem_cons.1 h with rfl | h
      · simp
      · exact ih h
    · next hc =>
      cases hs : split sep cs with
      | nil => exact absurd hs (split_ne_nil sep cs)
      | cons first fields =>
        rw [hs] at h ih
        rcases List.mem_cons.1 h with rfl | h
        · have := ih List.mem_cons_self
          simp [this, Ne.symm hc]
        · exact ih (List.mem_cons_of_mem first h)

/-- Three fields are what stands before, between and after the only two separators. -/
theorem split_eq_triple_iff {sep : Char} {cs a b c : List Char} :
    split sep cs = [a, b, c] ↔
      cs = a ++ sep :: (b ++ sep :: c) ∧ sep ∉ a ∧ sep ∉ b ∧ sep ∉ c := by
  constructor
  · intro h
    have hfield {field : List Char} (hmem : field ∈ [a, b, c]) : sep ∉ field :=
      notMem_of_mem_split (h ▸ hmem)
    have hjoin := join_split sep cs
    rw [h] at hjoin
    exact ⟨hjoin.symm, hfield (by simp), hfield (by simp), hfield (by simp)⟩
  · rintro ⟨rfl, ha, hb, hc⟩
    rw [split_append_cons ha, split_append_cons hb, split_eq_singleton hc]

end Text

namespace Token.Authority

theorem checkHeader_eq_ok_iff {segment : List Char} :
    checkHeader segment = .ok () ↔
      ∃ octets v, decode? segment = some octets ∧ Json.parse? octets = some v ∧
        Header.algorithm? v = some algorithm ∧ Header.isSound v = true := by
  simp only [checkHeader, bind, Except.bind, throw, throwThe, MonadExceptOf.throw]
  cases hoctets : decode? segment with
  | none => simp
  | some octets =>
    cases hv : Json.parse? octets with
    | none => simp [hv]
    | some v =>
      cases halg : Header.algorithm? v with
      | none => simp [hv, halg]
      | some alg =>
        by_cases h : alg = algorithm
        · have hnames : Header.Names algorithm v := Header.names_of_algorithm? (h ▸ halg)
          cases hsound : Header.isSound v <;>
            simp [hv, halg, h, hsound, recheckHeader_of_names hnames]
        · simp [hv, halg, h]

theorem checkSignature_eq_ok_iff {a : Authority} {message segment : List Char} :
    a.checkSignature message segment = .ok () ↔ decode? segment = some (a.sign message) := by
  simp only [checkSignature, pure, Except.pure, throw, throwThe, MonadExceptOf.throw]
  cases hoctets : decode? segment with
  | none => simp
  | some octets => by_cases h : octets = a.sign message <;> simp [h]

theorem readClaims_eq_ok_iff {segment : List Char} {c : Claims} :
    readClaims segment = .ok c ↔
      ∃ octets v, decode? segment = some octets ∧ Json.parse? octets = some v ∧
        Claims.ofJson? v = some c ∧ Payload.isSound octets = true ∧ 0 ≤ c.expiry.toInt := by
  simp only [readClaims, bind, Except.bind, pure, Except.pure, throw, throwThe,
    MonadExceptOf.throw]
  cases hoctets : decode? segment with
  | none => simp
  | some octets =>
    cases hv : Json.parse? octets with
    | none => simp [hv]
    | some v =>
      cases hclaims : Claims.ofJson? v with
      | none => simp [hv, hclaims]
      | some claims =>
        cases hsound : Payload.isSound octets with
        | false => simp [hv, hclaims, hsound]
        | true =>
          by_cases h : claims.expiry.toInt < 0
          · simp [hv, hclaims, hsound, h]
            rintro rfl
            exact h
          · simp [hv, hclaims, hsound, h]
            rintro rfl
            omega

theorem checkSubject_eq_ok_iff {subject : String} {u : Uuid} :
    checkSubject subject = .ok u ↔ Uuid.IsText u subject.toList ∧ u ≠ Uuid.nil := by
  rw [← Uuid.parse?_eq_some_iff, checkSubject]
  cases h : Uuid.parse? subject with
  | none => simp
  | some v =>
    cases hv : v.isNil with
    | true =>
      have hnil : v = Uuid.nil := by
        by_contra hne
        rw [Uuid.isNil_eq_false_iff.2 hne] at hv
        cases hv
      simp only [hv, Option.some.injEq, reduceCtorEq, if_true, false_iff, not_and, not_not]
      rintro rfl
      exact hnil
    | false =>
      simp only [hv, Except.ok.injEq, Option.some.injEq, Bool.false_eq_true, if_false]
      refine ⟨?_, And.left⟩
      rintro rfl
      exact ⟨rfl, Uuid.isNil_eq_false_iff.1 hv⟩

theorem checkClaims_eq_ok_iff {a : Authority} {now : Int} {c : Claims} {u : Uuid} :
    a.checkClaims now c = .ok u ↔
      now < c.expiry.toInt ∧ c.issuer = a.issuer ∧ Uuid.IsText u c.subject.toList ∧
        u ≠ Uuid.nil := by
  rw [checkClaims, Claims.isExpiredAt, ← checkSubject_eq_ok_iff]
  by_cases hexpired : c.expiry.toInt ≤ now
  · have hlt : ¬now < c.expiry.toInt := by omega
    simp [hexpired, hlt]
  · have hlt : now < c.expiry.toInt := by omega
    by_cases hissuer : c.issuer = a.issuer
    · simp [hexpired, hlt, hissuer]
    · simp [hexpired, hissuer]

theorem validate_eq_ok_iff {a : Authority} {now : Instant} {token : String} {u : Uuid} :
    a.validate now token = .ok u ↔
      ∃ header payload signature c, Text.split '.' token.toList = [header, payload, signature] ∧
        checkHeader header = .ok () ∧
        a.checkSignature (signed header payload) signature = .ok () ∧
        readClaims payload = .ok c ∧ a.checkClaims now.seconds c = .ok u := by
  unfold validate
  split
  · next header payload signature hsplit =>
    simp only [bind_eq_ok_iff, hsplit]
    constructor
    · rintro ⟨_, hheader, _, hsignature, c, hclaims, h⟩
      exact ⟨header, payload, signature, c, rfl, hheader, hsignature, hclaims, h⟩
    · rintro ⟨_, _, _, c, heq, hheader, hsignature, hclaims, h⟩
      simp only [List.cons.injEq, and_true] at heq
      obtain ⟨rfl, rfl, rfl⟩ := heq
      exact ⟨(), hheader, (), hsignature, c, hclaims, h⟩
  · next hsplit =>
    constructor
    · intro h
      cases h
    · rintro ⟨header, payload, signature, _, heq, _⟩
      exact absurd heq (hsplit header payload signature)

end Token.Authority
end TradeRegister

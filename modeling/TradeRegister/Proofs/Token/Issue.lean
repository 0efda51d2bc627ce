import Mathlib.Algebra.Group.Int.Defs
import TradeRegister.Proofs.Base64
import TradeRegister.Proofs.Token.Header
import TradeRegister.Proofs.Token.Payload
import TradeRegister.Proofs.Uuid

/-! # Issued tokens

What was encoded for a token is decoded from it again, by each of the readings that validation
makes. An issued token is therefore valid until its expiry and expired from then on, whatever the
issuer's text and the secret are.
-/

namespace TradeRegister.Token

open Json

namespace Claims

theorem written_toJson (c : Claims) : Written c.toJson := by
  refine written_ofFields ?_
  simp only [List.forall_mem_cons, List.not_mem_nil, false_imp_iff, implies_true, and_true]
  exact ⟨written_ofString _, written_ofString _, .int _, .int _⟩

theorem ofJson?_toJson (c : Claims) : ofJson? c.toJson = some c := by
  rw [ofJson?, toJson, read?_ofFields]
  simp [values, required?, asInt64?_ofInt]

theorem parse?_render (c : Claims) : Json.parse? c.render = some c.toJson :=
  Json.parse?_render c.written_toJson

private theorem length_write_le (n : Int64) : (Decimal.write n.toInt.natAbs).length ≤ 308 := by
  have hlo := n.le_toInt
  have hhi := n.toInt_lt
  have hdigits : (Decimal.write n.toInt.natAbs).length ≤ 19 :=
    (Nat.length_toDigits_le_iff (by decide) (by decide)).2 (by omega)
  omega

theorem isSound_render (c : Claims) : Payload.isSound c.render = true := by
  refine Payload.isSound_ofFields (by simp) ?_ (by simp)
  simp only [List.forall_mem_cons, List.not_mem_nil, false_imp_iff, implies_true, and_true]
  refine ⟨?_, ?_, ?_, ?_⟩
  · exact Payload.follows_ofString (by decide) c.issuer
  · exact Payload.follows_ofString (by decide) c.subject
  · exact Payload.follows_of_unknown (by decide) (by decide) (.int _)
  · exact Payload.follows_time (by decide) (length_write_le c.expiry)

end Claims

namespace Header

theorem parse?_render : Json.parse? render = some text := by
  refine Json.parse?_render (written_ofFields ?_)
  simp only [List.forall_mem_cons, List.not_mem_nil, false_imp_iff, implies_true, and_true]
  exact ⟨written_ofString _, written_ofString _⟩

theorem algorithm?_text : algorithm? text = some algorithm := by
  rw [algorithm?, text, read?_ofFields]
  simp [values, required?, algorithm]

theorem isSound_text : isSound text = true := by
  rw [text, ofFields, isSound, named?_ofFields]
  simp [values, isParameter, textParameters, listParameters, isOptionalText, asNullable?, isOneOf,
    oneOf?, algorithms, ofString, ofOctets, asString?]

end Header

namespace Authority

theorem decode?_encode (b : Bytes) : decode? (encode b) = some b :=
  Base64.decode?_encode Base64.Alphabet.urlSafe_isFaithful b

theorem checkHeader_render : checkHeader (encode Header.render) = .ok () := by
  have hnames := Header.names_of_algorithm? Header.algorithm?_text
  simp only [checkHeader, decode?_encode, Header.parse?_render, Header.algorithm?_text,
    recheckHeader_of_names hnames, Header.isSound_text]
  rfl

theorem checkSignature_sign (a : Authority) (message : List Char) :
    a.checkSignature message (encode (a.sign message)) = .ok () := by
  simp only [checkSignature, decode?_encode, beq_self_eq_true]
  rfl

theorem readClaims_render (c : Claims) :
    readClaims (encode c.render) =
      if c.expiry.toInt < 0 then .error (.malformed .expiryMissing) else .ok c := by
  simp only [readClaims, decode?_encode, Claims.parse?_render, Claims.ofJson?_toJson,
    Claims.isSound_render, ↓reduceIte]
  split <;> rfl

/-- The segments of a sealed token are found again at its two dots. -/
theorem split_sealChars (a : Authority) (header payload : Bytes) :
    Text.split '.' (a.sealChars header payload) =
      [encode header, encode payload, encode (a.sign (signed (encode header) (encode payload)))] := by
  have hdot (b : Bytes) : '.' ∉ encode b := Base64.dot_notMem_encode b
  have htoken : a.sealChars header payload = encode header ++ '.' :: (encode payload ++
      '.' :: encode (a.sign (signed (encode header) (encode payload)))) := by
    simp [sealChars, signed]
  rw [htoken, Text.split_append_cons (hdot _), Text.split_append_cons (hdot _),
    Text.split_eq_singleton (hdot _)]

/-- Sealed claims pass every check on form and signature, unless they expire before 1970. -/
theorem validate_sealClaims (a : Authority) (now : Instant) (c : Claims) :
    a.validate now (a.sealClaims c) =
      if c.expiry.toInt < 0 then .error (.malformed .expiryMissing)
      else a.checkClaims now.seconds c := by
  rw [validate, sealClaims, String.toList_ofList, split_sealChars]
  simp only [checkHeader_render, checkSignature_sign, readClaims_render]
  split <;> rfl

theorem checkSubject_text {u : Uuid} (hu : u ≠ Uuid.nil) : checkSubject u.text = .ok u := by
  rw [checkSubject, Uuid.parse?_text]
  simp only [Uuid.isNil_eq_false_iff.2 hu]
  rfl

theorem expiry_claimsFor (a : Authority) {now : Instant} (hnow : 0 ≤ now.total) (u : Uuid) :
    (a.claimsFor now u).expiry.toInt = min (now.seconds + a.lifetime) (2 ^ 63 - 1) := by
  have hseconds : 0 ≤ now.seconds := Int.ediv_nonneg hnow (by decide)
  refine Int64.toInt_ofInt_of_le ?_ ?_ <;> omega

/-- The claims of a token hold for its user until they expire. -/
theorem checkClaims_claimsFor (a : Authority) {u : Uuid} (hu : u ≠ Uuid.nil) {issued : Instant}
    (hissued : 0 ≤ issued.total) (now : Int) :
    a.checkClaims now (a.claimsFor issued u) =
      if now < min (issued.seconds + a.lifetime) (2 ^ 63 - 1) then .ok u else .error .expired := by
  rw [checkClaims, Claims.isExpiredAt, a.expiry_claimsFor hissued u]
  by_cases h : now < min (issued.seconds + a.lifetime) (2 ^ 63 - 1)
  · rw [if_neg (by rw [decide_eq_true_iff]; exact Int.not_le.2 h), if_pos h,
      if_neg (by simp [claimsFor])]
    exact checkSubject_text hu
  · rw [if_pos (decide_eq_true (Int.not_lt.1 h)), if_neg h]

theorem lifetime_of_ofSettings {s : Settings} {a : Authority} (h : ofSettings s = .ok a) :
    a.lifetime = s.lifetime.seconds := by
  unfold ofSettings at h
  repeat' split at h
  all_goals first | contradiction | skip
  obtain rfl := Except.ok.inj h
  rfl

/-- A token names its user in every second before its expiry and is expired in every later one. -/
theorem validate_issue {s : Settings} {a : Authority} (ha : ofSettings s = .ok a) {u : Uuid}
    (hu : u ≠ Uuid.nil) {issued : Instant} (hissued : 0 ≤ issued.total) (checked : Instant) :
    a.validate checked (a.issue issued u) =
      if checked.seconds < min (issued.seconds + s.lifetime.seconds) (2 ^ 63 - 1) then .ok u
      else .error .expired := by
  have hseconds : 0 ≤ issued.seconds := Int.ediv_nonneg hissued (by decide)
  have hexpiry := a.expiry_claimsFor hissued u
  rw [lifetime_of_ofSettings ha] at hexpiry
  rw [issue, validate_sealClaims, if_neg (by omega), checkClaims, Claims.isExpiredAt, hexpiry]
  by_cases h : checked.seconds < min (issued.seconds + s.lifetime.seconds) (2 ^ 63 - 1)
  · rw [if_neg (by rw [decide_eq_true_iff]; exact Int.not_le.2 h), if_pos h,
      if_neg (by simp [claimsFor])]
    exact checkSubject_text hu
  · rw [if_pos (decide_eq_true (Int.not_lt.1 h)), if_neg h]

/-- An issuer with quotes and dots, a lifetime of ninety seconds and a half, and the two instants
around the expiry. -/
theorem validate_issue_at_expiry :
    ∃ a, ofSettings ⟨"\"acme.trade\"\n", ⟨"k"⟩, ⟨90500000000, by decide⟩⟩ = .ok a ∧
      a.validate ⟨1700000089999999999, by decide, by decide⟩
        (a.issue ⟨1700000000750000000, by decide, by decide⟩ ⟨7, by decide⟩) =
          .ok ⟨7, by decide⟩ ∧
      a.validate ⟨1700000090000000000, by decide, by decide⟩
        (a.issue ⟨1700000000750000000, by decide, by decide⟩ ⟨7, by decide⟩) =
          .error .expired := by
  refine ⟨⟨"\"acme.trade\"\n", ⟨"k"⟩, 90, by decide, by decide⟩, ?_⟩
  have ha : ofSettings ⟨"\"acme.trade\"\n", ⟨"k"⟩, ⟨90500000000, by decide⟩⟩ =
      .ok ⟨"\"acme.trade\"\n", ⟨"k"⟩, 90, by decide, by decide⟩ := rfl
  refine ⟨ha, ?_, ?_⟩
  · rw [validate_issue ha (by decide) (by decide)]
    rfl
  · rw [validate_issue ha (by decide) (by decide)]
    rfl

end Authority
end TradeRegister.Token

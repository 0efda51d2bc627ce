import TradeRegister.Proofs.Token.Checks
import TradeRegister.Proofs.Token.Issue

/-! # The order of the checks

Claims that are signed with the secret of an authority are checked for expiry, issuer and subject,
in this order, and the first check that fails decides the answer. Any other signature is refused,
whatever the claims say. An expiry before 1970 counts as missing, so it is refused as malformed
before the order comes to bear.
-/

namespace TradeRegister.Token

namespace Claims

def message (c : Claims) : List Char :=
  Authority.signed (Authority.encode Header.render) (Authority.encode c.render)

def tokenWith (c : Claims) (signature : Bytes) : String :=
  String.ofList (c.message ++ '.' :: Authority.encode signature)

end Claims

namespace Authority

/-- What the first check that fails makes of claims under their signature. -/
inductive Judged (a : Authority) (now : Int) (c : Claims) : Except Error Uuid → Prop
  | unreadable (hexpiry : c.expiry.toInt < 0) : Judged a now c (.error (.malformed .expiryMissing))
  | expired (hexpiry : 0 ≤ c.expiry.toInt) (hnow : c.expiry.toInt ≤ now) :
    Judged a now c (.error .expired)
  | foreign (hexpiry : 0 ≤ c.expiry.toInt) (hnow : now < c.expiry.toInt)
    (hissuer : c.issuer ≠ a.issuer) : Judged a now c (.error (.issuerMismatch c.issuer))
  | noUuid (hexpiry : 0 ≤ c.expiry.toInt) (hnow : now < c.expiry.toInt)
    (hissuer : c.issuer = a.issuer) (hsubject : ∀ u, ¬Uuid.IsText u c.subject.toList) :
    Judged a now c (.error (.subjectInvalid .notUuid))
  | nobody (hexpiry : 0 ≤ c.expiry.toInt) (hnow : now < c.expiry.toInt)
    (hissuer : c.issuer = a.issuer) (hsubject : Uuid.IsText Uuid.nil c.subject.toList) :
    Judged a now c (.error (.subjectInvalid .nilUuid))
  | accepted {u : Uuid} (hexpiry : 0 ≤ c.expiry.toInt) (hnow : now < c.expiry.toInt)
    (hissuer : c.issuer = a.issuer) (hsubject : Uuid.IsText u c.subject.toList)
    (hu : u ≠ Uuid.nil) : Judged a now c (.ok u)

variable {a : Authority} {c : Claims}

theorem checkSubject_of_isText {subject : String} {u : Uuid} (h : Uuid.IsText u subject.toList) :
    checkSubject subject =
      if u = Uuid.nil then .error (.subjectInvalid .nilUuid) else .ok u := by
  rw [checkSubject, Uuid.parse?_of_isText h]
  by_cases hu : u = Uuid.nil
  · subst hu
    rfl
  · simp [Uuid.isNil_eq_false_iff.2 hu, hu]

theorem checkSubject_of_not_isText {subject : String} (h : ∀ u, ¬Uuid.IsText u subject.toList) :
    checkSubject subject = .error (.subjectInvalid .notUuid) := by
  have hparse : Uuid.parse? subject = none :=
    Option.eq_none_iff_forall_ne_some.2 fun u hu => h u (Uuid.isText_of_parse? hu)
  rw [checkSubject, hparse]

theorem checkClaims_of_expired {now : Int} (hnow : c.expiry.toInt ≤ now) :
    a.checkClaims now c = .error .expired := by
  rw [checkClaims, Claims.isExpiredAt, if_pos (decide_eq_true hnow)]

theorem checkClaims_of_fresh {now : Int} (hnow : now < c.expiry.toInt) :
    a.checkClaims now c =
      if c.issuer = a.issuer then checkSubject c.subject
      else .error (.issuerMismatch c.issuer) := by
  rw [checkClaims, Claims.isExpiredAt, if_neg (by simpa using hnow), ite_not]

/-- Claims that can be read are judged by the checks on them. -/
theorem judged_checkClaims {now : Int} (hexpiry : 0 ≤ c.expiry.toInt) :
    Judged a now c (a.checkClaims now c) := by
  rcases Int.lt_or_le now c.expiry.toInt with hnow | hnow
  · rw [checkClaims_of_fresh hnow]
    by_cases hissuer : c.issuer = a.issuer
    · rw [if_pos hissuer]
      by_cases hsubject : ∃ u, Uuid.IsText u c.subject.toList
      · obtain ⟨u, hsubject⟩ := hsubject
        rw [checkSubject_of_isText hsubject]
        by_cases hu : u = Uuid.nil
        · rw [if_pos hu]
          exact .nobody hexpiry hnow hissuer (hu ▸ hsubject)
        · rw [if_neg hu]
          exact .accepted hexpiry hnow hissuer hsubject hu
      · rw [not_exists] at hsubject
        rw [checkSubject_of_not_isText hsubject]
        exact .noUuid hexpiry hnow hissuer hsubject
    · rw [if_neg hissuer]
      exact .foreign hexpiry hnow hissuer
  · rw [checkClaims_of_expired hnow]
    exact .expired hexpiry hnow

theorem Judged.eq_checkClaims {now : Int} {r : Except Error Uuid} (h : Judged a now c r) :
    r = if c.expiry.toInt < 0 then .error (.malformed .expiryMissing)
      else a.checkClaims now c := by
  cases h with
  | unreadable hexpiry => rw [if_pos hexpiry]
  | expired hexpiry hnow => rw [if_neg (Int.not_lt.2 hexpiry), checkClaims_of_expired hnow]
  | foreign hexpiry hnow hissuer =>
    rw [if_neg (Int.not_lt.2 hexpiry), checkClaims_of_fresh hnow, if_neg hissuer]
  | noUuid hexpiry hnow hissuer hsubject =>
    rw [if_neg (Int.not_lt.2 hexpiry), checkClaims_of_fresh hnow, if_pos hissuer,
      checkSubject_of_not_isText hsubject]
  | nobody hexpiry hnow hissuer hsubject =>
    rw [if_neg (Int.not_lt.2 hexpiry), checkClaims_of_fresh hnow, if_pos hissuer,
      checkSubject_of_isText hsubject, if_pos rfl]
  | accepted hexpiry hnow hissuer hsubject hu =>
    rw [if_neg (Int.not_lt.2 hexpiry), checkClaims_of_fresh hnow, if_pos hissuer,
      checkSubject_of_isText hsubject, if_neg hu]

theorem judged_iff {now : Int} {r : Except Error Uuid} :
    (if c.expiry.toInt < 0 then .error (.malformed .expiryMissing) else a.checkClaims now c) = r ↔
      Judged a now c r := by
  constructor
  · rintro rfl
    by_cases hexpiry : c.expiry.toInt < 0
    · rw [if_pos hexpiry]
      exact .unreadable hexpiry
    · rw [if_neg hexpiry]
      exact judged_checkClaims (Int.not_lt.1 hexpiry)
  · exact fun h => h.eq_checkClaims.symm

/-! ## Signatures -/

theorem checkSignature_encode (message : List Char) (signature : Bytes) :
    a.checkSignature message (encode signature) =
      if signature = a.sign message then .ok () else .error .signatureInvalid := by
  simp only [checkSignature, decode?_encode]
  by_cases h : signature = a.sign message
  · simp [h]
    rfl
  · simp [h]
    rfl

theorem split_tokenWith (c : Claims) (signature : Bytes) :
    Text.split '.' (c.tokenWith signature).toList =
      [encode Header.render, encode c.render, encode signature] := by
  rw [Claims.tokenWith, String.toList_ofList, Text.split_eq_triple_iff]
  refine ⟨?_, Base64.dot_notMem_encode _, Base64.dot_notMem_encode _, Base64.dot_notMem_encode _⟩
  simp [Claims.message, signed]

theorem validate_tokenWith_sign (a : Authority) (now : Instant) (c : Claims) :
    a.validate now (c.tokenWith (a.sign c.message)) =
      if c.expiry.toInt < 0 then .error (.malformed .expiryMissing)
      else a.checkClaims now.seconds c :=
  a.validate_sealClaims now c

theorem validate_tokenWith_of_ne {signature : Bytes} (h : signature ≠ a.sign c.message)
    (now : Instant) : a.validate now (c.tokenWith signature) = .error .signatureInvalid := by
  have hsignature : a.checkSignature c.message (encode signature) = .error .signatureInvalid := by
    rw [checkSignature_encode, if_neg h]
  rw [validate, split_tokenWith]
  simp only [checkHeader_render, Claims.message] at hsignature ⊢
  rw [hsignature]
  rfl

/-- Claims under the signature of an authority are answered as the first check that fails says, at
every time and for all claims. Under any other signature they are refused for it. -/
theorem validate_tokenWith_iff (a : Authority) (now : Instant) (c : Claims) :
    a.sealClaims c = c.tokenWith (a.sign c.message) ∧
    ∀ signature result, a.validate now (c.tokenWith signature) = result ↔
      signature = a.sign c.message ∧ Judged a now.seconds c result ∨
        signature ≠ a.sign c.message ∧ result = .error .signatureInvalid := by
  refine ⟨rfl, fun signature result => ?_⟩
  by_cases h : signature = a.sign c.message
  · subst h
    rw [validate_tokenWith_sign, judged_iff]
    simp
  · rw [validate_tokenWith_of_ne h]
    simp [h, eq_comm]

/-- Claims that expired before 1970 are not told to be expired. -/
theorem malformed_of_negative_expiry :
    ¬ ∀ (a : Authority) (now : Instant) (c : Claims), c.expiry.toInt ≤ now.seconds →
      a.validate now (a.sealClaims c) = .error .expired := by
  intro h
  have hexpired := h ⟨"acme", ⟨"k"⟩, 60, by decide, by decide⟩ ⟨0, by decide, by decide⟩
    ⟨"acme", "00000000-0000-0000-0000-00000000000a", -60, -1⟩ (by decide)
  rw [validate_sealClaims, if_pos (by decide)] at hexpired
  cases hexpired

end Authority
end TradeRegister.Token

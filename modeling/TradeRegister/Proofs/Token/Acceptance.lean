import TradeRegister.Proofs.Token.Checks
import TradeRegister.Proofs.Token.Issue

/-! # Accepted tokens are authentic

Whatever a text looks like, it is accepted only as the base64 of a header that names the one
algorithm, of claims that fit the authority, the time and the user, and of the keyed digest of
these two segments. What else the header and the claims hold has no say in it.
-/

namespace TradeRegister

namespace Json

theorem exists_object_of_parse? {b rest : Bytes} {v : Json} (hb : skipSpace b = 0x7B :: rest)
    (h : parse? b = some v) : ∃ members, v = .object members := by
  unfold parse? at h
  split at h
  · next w tail hw =>
    have hv : w = v := by
      split at h
      · exact Option.some.inj h
      · cases h
    rw [value?.eq_2, hb, hv] at hw
    simp only at hw
    split at hw
    · exact ⟨[], (congrArg Prod.fst (Option.some.inj hw)).symm⟩
    · obtain ⟨p, _, hp⟩ := Option.map_eq_some_iff.1 hw
      exact ⟨p.1, (congrArg Prod.fst hp).symm⟩
  · cases h

end Json

namespace Token

open Json

/-- An object that carries all four claims, each once and of its type. -/
structure Claims.IsIn (c : Claims) (v : Json) : Prop where
  issuer : ∃ w, v.Holds "iss" w ∧ asString? w = some c.issuer
  subject : ∃ w, v.Holds "sub" w ∧ asString? w = some c.subject
  issuedAt : ∃ w, v.Holds "iat" w ∧ asInt64? w = some c.issuedAt
  expiry : ∃ w, v.Holds "exp" w ∧ asInt64? w = some c.expiry

theorem Claims.isIn_of_ofJson? {c : Claims} {members : List (Bytes × Json)}
    (h : ofJson? (.object members) = some c) : c.IsIn (.object members) := by
  unfold ofJson? at h
  split at h
  · next iss sub iat exp hread =>
    simp only [Option.bind_eq_bind, Option.bind_eq_some_iff, required?_eq_some_iff] at h
    obtain ⟨_, ⟨v, rfl, hiss⟩, _, ⟨w, rfl, hsub⟩, _, ⟨x, rfl, hiat⟩, _, ⟨y, rfl, hexp⟩, h⟩ := h
    obtain rfl := Option.some.inj h
    exact {
      issuer := ⟨v, holds_of_read? hread (i := 0) rfl rfl, hiss⟩
      subject := ⟨w, holds_of_read? hread (i := 1) rfl rfl, hsub⟩
      issuedAt := ⟨x, holds_of_read? hread (i := 2) rfl rfl, hiat⟩
      expiry := ⟨y, holds_of_read? hread (i := 3) rfl rfl, hexp⟩ }
  · cases h

theorem Payload.exists_object_of_isSound {b : Bytes} {v : Json} (hsound : isSound b = true)
    (h : Json.parse? b = some v) : ∃ members, v = .object members := by
  unfold isSound at hsound
  split at hsound
  · next hb => exact exists_object_of_parse? hb h
  · cases hsound

/-- What the three segments of a token prove: the header names the algorithm, the signature is the
keyed digest of the other two segments, and the claims fit the authority, the time and the user. -/
structure Authentic (a : Authority) (now : Instant) (header payload signature : List Char)
    (u : Uuid) : Prop where
  algorithm : ∃ octets v w, header = Base64.encode .urlSafe octets ∧
    Json.parse? octets = some v ∧ v.Holds "alg" w ∧ asString? w = some "HS256"
  signature : signature = Base64.encode .urlSafe
    (Hmac.sha256 a.secret.octets (Bytes.ofChars (header ++ '.' :: payload)))
  claims : ∃ octets v c, payload = Base64.encode .urlSafe octets ∧
    Json.parse? octets = some v ∧ Claims.IsIn c v ∧ c.issuer = a.issuer ∧
    now.seconds < c.expiry.toInt ∧ Uuid.IsText u c.subject.toList ∧ u ≠ Uuid.nil

namespace Authority

theorem algorithm_of_checkHeader {header : List Char} (h : checkHeader header = .ok ()) :
    ∃ octets v w, header = Base64.encode .urlSafe octets ∧ Json.parse? octets = some v ∧
      v.Holds "alg" w ∧ asString? w = some "HS256" := by
  obtain ⟨octets, v, hoctets, hv, halg, hsound⟩ := checkHeader_eq_ok_iff.1 h
  obtain ⟨members, rfl⟩ := Header.exists_object_of_isSound hsound
  obtain ⟨w, hw, htext⟩ := Header.holds_of_algorithm? halg
  exact ⟨octets, .object members, w, Base64.eq_encode_of_decode? hoctets, hv, hw, htext⟩

theorem claims_of_readClaims {payload : List Char} {c : Claims}
    (h : readClaims payload = .ok c) :
    ∃ octets v, payload = Base64.encode .urlSafe octets ∧ Json.parse? octets = some v ∧
      c.IsIn v := by
  obtain ⟨octets, v, hoctets, hv, hc, hsound, _⟩ := readClaims_eq_ok_iff.1 h
  obtain ⟨members, rfl⟩ := Payload.exists_object_of_isSound hsound hv
  exact ⟨octets, .object members, Base64.eq_encode_of_decode? hoctets, hv,
    Claims.isIn_of_ofJson? hc⟩

/-- Only authentic tokens are accepted, whatever else their header and claims hold. -/
theorem authentic_of_validate {a : Authority} {now : Instant} {token : String} {u : Uuid}
    (h : a.validate now token = .ok u) :
    ∃ header payload signature, token.toList = header ++ '.' :: (payload ++ '.' :: signature) ∧
      '.' ∉ header ∧ '.' ∉ payload ∧ '.' ∉ signature ∧
      Authentic a now header payload signature u := by
  obtain ⟨header, payload, signature, c, hsplit, hheader, hsignature, hread, hclaims⟩ :=
    validate_eq_ok_iff.1 h
  have hdot {field : List Char} (hmem : field ∈ [header, payload, signature]) : '.' ∉ field :=
    Text.notMem_of_mem_split (hsplit ▸ hmem)
  have htoken := Text.join_split '.' token.toList
  rw [hsplit] at htoken
  refine ⟨header, payload, signature, htoken.symm, hdot (by simp), hdot (by simp),
    hdot (by simp), ?_⟩
  obtain ⟨octets, v, hpayload, hv, hc⟩ := claims_of_readClaims hread
  obtain ⟨hexpiry, hissuer, hsubject, hnil⟩ := checkClaims_eq_ok_iff.1 hclaims
  exact {
    algorithm := algorithm_of_checkHeader hheader
    signature := Base64.eq_encode_of_decode? (checkSignature_eq_ok_iff.1 hsignature)
    claims := ⟨octets, v, c, hpayload, hv, hc, hissuer, hexpiry, hsubject, hnil⟩ }

/-- The subject may be written in braces and with upper-case digits. -/
theorem authentic_of_validate_braced :
    Authority.validate ⟨"acme", ⟨"k"⟩, 60, by decide, by decide⟩
        ⟨150000000000, by decide, by decide⟩
        (Authority.sealClaims ⟨"acme", ⟨"k"⟩, 60, by decide, by decide⟩
          ⟨"acme", "\x7b00000000-0000-0000-0000-00000000000A\x7d", 100, 200⟩) =
      .ok ⟨10, by decide⟩ ∧
    ∃ header payload signature,
      (Authority.sealClaims ⟨"acme", ⟨"k"⟩, 60, by decide, by decide⟩
        ⟨"acme", "\x7b00000000-0000-0000-0000-00000000000A\x7d", 100, 200⟩).toList =
          header ++ '.' :: (payload ++ '.' :: signature) ∧
      '.' ∉ header ∧ '.' ∉ payload ∧ '.' ∉ signature ∧
      Authentic ⟨"acme", ⟨"k"⟩, 60, by decide, by decide⟩ ⟨150000000000, by decide, by decide⟩
        header payload signature ⟨10, by decide⟩ := by
  have h : Authority.validate ⟨"acme", ⟨"k"⟩, 60, by decide, by decide⟩
      ⟨150000000000, by decide, by decide⟩
      (Authority.sealClaims ⟨"acme", ⟨"k"⟩, 60, by decide, by decide⟩
        ⟨"acme", "\x7b00000000-0000-0000-0000-00000000000A\x7d", 100, 200⟩) =
      .ok ⟨10, by decide⟩ := by
    rw [validate_sealClaims]
    rfl
  exact ⟨h, authentic_of_validate h⟩

end Authority
end Token
end TradeRegister

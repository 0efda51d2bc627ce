import TradeRegister.Proofs.Token.Checks
import TradeRegister.Proofs.Token.Issue

/-! # One signature text

For given header and payload segments one signature text is accepted and no other, at any time. A
keyed digest leaves bits of its last base64 symbol unused, so this rests on decoding: only the
written form of octets is read, without padding and with the unused bits clear. Whatever else stands
behind the second dot is told to be malformed or badly signed, and never what the claims are worth.
-/

namespace TradeRegister.Token

def Error.IsOfClaims : Error → Prop
  | .expired => True
  | .issuerMismatch _ => True
  | .subjectInvalid _ => True
  | _ => False

def SameMessage (token token' : String) : Prop :=
  (Text.split '.' token.toList).take 2 = (Text.split '.' token'.toList).take 2

namespace Authority

variable {a : Authority}

def segmentFault (segment : List Char) : Error :=
  if (decode? segment).isSome then .signatureInvalid else .malformed .encoding

/-- What is wrong with a token of which nothing but the signature is. -/
def signatureFault (token : String) : Error :=
  match Text.split '.' token.toList with
  | [_, _, signature] => segmentFault signature
  | _ => .malformed .segments

theorem not_isOfClaims_signatureFault (token : String) : ¬ (signatureFault token).IsOfClaims := by
  unfold signatureFault segmentFault
  repeat' split
  all_goals exact not_false

/-- The third and last segment of the token is the signature of the first two. -/
def Signs (a : Authority) (token : String) : Prop :=
  ∃ header payload,
    Text.split '.' token.toList = [header, payload, encode (a.sign (signed header payload))]

/-! ## Signed tokens -/

/-- Only the written form of the signature passes for it. -/
theorem checkSignature_eq (a : Authority) (message segment : List Char) :
    a.checkSignature message segment =
      if segment = encode (a.sign message) then .ok () else .error (segmentFault segment) := by
  by_cases h : segment = encode (a.sign message)
  · rw [if_pos h, h, checkSignature_sign]
  · rw [if_neg h, segmentFault, checkSignature]
    cases hoctets : decode? segment with
    | none => rfl
    | some octets =>
      have hne : octets ≠ a.sign message := by
        rintro rfl
        exact h (Base64.eq_encode_of_decode? hoctets)
      simp [hne]
      rfl

theorem signs_of_validate {now : Instant} {token : String} {u : Uuid}
    (h : a.validate now token = .ok u) : a.Signs token := by
  obtain ⟨header, payload, signature, _, hsplit, _, hsignature, _⟩ := validate_eq_ok_iff.1 h
  obtain rfl := Base64.eq_encode_of_decode? (checkSignature_eq_ok_iff.1 hsignature)
  exact ⟨header, payload, hsplit⟩

theorem split_issue (a : Authority) (issued : Instant) (user : Uuid) :
    ∃ payload, Text.split '.' (a.issue issued user).toList = [encode Header.render, payload,
      encode (a.sign (signed (encode Header.render) payload))] := by
  refine ⟨encode (a.claimsFor issued user).render, ?_⟩
  rw [issue, sealClaims, String.toList_ofList, split_sealChars]

theorem signs_issue (a : Authority) (issued : Instant) (user : Uuid) :
    a.Signs (a.issue issued user) := by
  obtain ⟨payload, hsplit⟩ := a.split_issue issued user
  exact ⟨_, payload, hsplit⟩

theorem Signs.eq {token token' : String} (h : a.Signs token) (h' : a.Signs token')
    (hsame : SameMessage token token') : token = token' := by
  obtain ⟨header, payload, hsplit⟩ := h
  obtain ⟨header', payload', hsplit'⟩ := h'
  have hfields : [header, payload] = [header', payload'] := by
    simpa only [SameMessage, hsplit, hsplit', List.take_succ_cons, List.take_zero] using hsame
  obtain ⟨rfl, hpayload⟩ := List.cons_eq_cons.1 hfields
  obtain ⟨rfl, _⟩ := List.cons_eq_cons.1 hpayload
  apply String.toList_injective
  calc token.toList
    _ = Text.join '.' (Text.split '.' token.toList) := (Text.join_split _ _).symm
    _ = Text.join '.' (Text.split '.' token'.toList) := by rw [hsplit, hsplit']
    _ = token'.toList := Text.join_split _ _

/-! ## Other tokens -/

theorem refuses_checkHeader (segment : List Char) :
    Refuses (¬·.IsOfClaims) (checkHeader segment) := by
  intro e h hclaims
  simp only [checkHeader, recheckHeader, bind, Except.bind, throw, throwThe,
    MonadExceptOf.throw] at h
  repeat' split at h
  all_goals
    cases h
    try exact hclaims

/-- A token without its signature is refused for its form, its header or the signature. -/
theorem validate_of_not_signs {token : String} (h : ¬ a.Signs token) (now : Instant) :
    (∃ header e, (Text.split '.' token.toList).head? = some header ∧
        checkHeader header = .error e ∧ a.validate now token = .error e) ∨
      a.validate now token = .error (signatureFault token) := by
  unfold validate
  split
  · next header payload signature hsplit =>
    rw [signatureFault, hsplit]
    cases hheader : checkHeader header with
    | error e => exact .inl ⟨header, e, rfl, hheader, rfl⟩
    | ok _ =>
      have hne : signature ≠ encode (a.sign (signed header payload)) :=
        fun hsignature => h ⟨header, payload, hsignature ▸ hsplit⟩
      rw [checkSignature_eq, if_neg hne]
      exact .inr rfl
  · next hother =>
    right
    rw [signatureFault]
    split
    · next hsplit => exact absurd hsplit (hother _ _ _)
    · rfl

theorem refused_of_not_signs {token : String} (h : ¬ a.Signs token) (now : Instant) :
    ∃ e, a.validate now token = .error e ∧ ¬ e.IsOfClaims := by
  rcases validate_of_not_signs h now with ⟨header, e, _, hheader, hresult⟩ | hresult
  · exact ⟨e, hresult, refuses_checkHeader header e hheader⟩
  · exact ⟨_, hresult, not_isOfClaims_signatureFault token⟩

/-- Nobody makes another valid token of one by changing its signature. -/
structure Unmalleable (a : Authority) : Prop where
  unique : ∀ {now now' token token' user user'}, a.validate now token = .ok user →
    a.validate now' token' = .ok user' → SameMessage token token' → token = token'
  refused : ∀ {now token user}, a.validate now token = .ok user → ∀ token',
    SameMessage token' token → token' ≠ token →
    ∀ later, ∃ e, a.validate later token' = .error e ∧ ¬ e.IsOfClaims
  issued : ∀ issued user token, SameMessage token (a.issue issued user) →
    token ≠ a.issue issued user → ∀ now, a.validate now token = .error (signatureFault token) ∧
      ¬ (signatureFault token).IsOfClaims

theorem unmalleable (a : Authority) : a.Unmalleable where
  unique h h' hsame := (signs_of_validate h).eq (signs_of_validate h') hsame
  refused := by
    intro now token user h token' hsame hne later
    apply refused_of_not_signs
    intro hsigns
    exact hne (hsigns.eq (signs_of_validate h) hsame)
  issued := by
    intro issued user token hsame hne now
    have hsigns : ¬ a.Signs token := fun hsigns => hne (hsigns.eq (a.signs_issue issued user) hsame)
    refine ⟨?_, not_isOfClaims_signatureFault token⟩
    rcases validate_of_not_signs hsigns now with ⟨header, e, hhead, hheader, _⟩ | hresult
    · obtain ⟨payload, hsplit⟩ := a.split_issue issued user
      have hfields := congrArg List.head? hsame
      rw [hsplit, List.head?_take, if_neg (by decide), hhead] at hfields
      obtain rfl := Option.some.inj hfields
      rw [checkHeader_render] at hheader
      cases hheader
    · exact hresult

/-- An unused bit that is set, padding, and a symbol of the other alphabet. -/
example : decode? ['Q', 'Q'] = some [65] ∧ decode? ['Q', 'R'] = none ∧
    decode? ['Q', 'Q', '=', '='] = none ∧ decode? ['+', 'w'] = none := by
  decide

end Authority
end TradeRegister.Token

import TradeRegister.Proofs.Token.Checks

/-! # The one algorithm

A token is refused for its algorithm exactly if its header names another one. Payload, signature,
secret and time have no say in this. The second reading of a header never finds an algorithm that
the first did not find.
-/

namespace TradeRegister.Token

def Error.IsOfAlgorithm (e : Error) : Prop := ∃ actual, e = .algorithmMismatch actual

/-- Three segments, the first of which is the base64 of a header that names this algorithm. -/
def NamesAlgorithm (token : List Char) (alg : String) : Prop :=
  ∃ header payload signature octets v, token = header ++ '.' :: (payload ++ '.' :: signature) ∧
    '.' ∉ header ∧ '.' ∉ payload ∧ '.' ∉ signature ∧
    header = Base64.encode .urlSafe octets ∧ Json.parse? octets = some v ∧ Header.Names alg v

namespace Authority

variable {a : Authority}

theorem checkHeader_eq_algorithmMismatch_iff {segment : List Char} {actual : String} :
    checkHeader segment = .error (.algorithmMismatch actual) ↔
      ∃ octets v, decode? segment = some octets ∧ Json.parse? octets = some v ∧
        Header.Names actual v ∧ actual ≠ algorithm := by
  simp only [checkHeader, bind, Except.bind, throw, throwThe, MonadExceptOf.throw]
  cases hoctets : decode? segment with
  | none => simp
  | some octets =>
    cases hv : Json.parse? octets with
    | none => simp [hv]
    | some v =>
      simp only [← Header.algorithm?_eq_some_iff]
      cases halg : Header.algorithm? v with
      | none => simp [hv, halg]
      | some alg =>
        by_cases h : alg = algorithm
        · have hnames : Header.Names algorithm v := Header.names_of_algorithm? (h ▸ halg)
          have hrecheck : recheckHeader v ≠ .error (.algorithmMismatch actual) := by
            rw [recheckHeader_of_names hnames]
            split <;> simp
          simp [hv, halg, h, hrecheck, eq_comm]
        · have hsame : alg = actual ↔ alg = actual ∧ actual ≠ algorithm := by
            refine ⟨?_, And.left⟩
            rintro rfl
            exact ⟨rfl, h⟩
          simpa [hv, halg, h] using hsame

theorem refuses_checkSignature (message segment : List Char) :
    Refuses (¬·.IsOfAlgorithm) (a.checkSignature message segment) := by
  rintro e h ⟨actual, rfl⟩
  simp only [checkSignature, throw, throwThe, MonadExceptOf.throw] at h
  repeat' split at h
  all_goals cases h

theorem refuses_readClaims (segment : List Char) :
    Refuses (¬·.IsOfAlgorithm) (readClaims segment) := by
  rintro e h ⟨actual, rfl⟩
  simp only [readClaims, bind, Except.bind, throw, throwThe, MonadExceptOf.throw] at h
  repeat' split at h
  all_goals cases h

theorem refuses_checkClaims (now : Int) (c : Claims) :
    Refuses (¬·.IsOfAlgorithm) (a.checkClaims now c) := by
  rintro e h ⟨actual, rfl⟩
  simp only [checkClaims, checkSubject] at h
  repeat' split at h
  all_goals cases h

/-- What is checked after the header has nothing to say about the algorithm. -/
theorem refuses_afterHeader (now : Instant) (header payload signature : List Char) :
    Refuses (¬·.IsOfAlgorithm) (do
      a.checkSignature (signed header payload) signature
      let claims ← readClaims payload
      a.checkClaims now.seconds claims) :=
  (refuses_checkSignature _ _).bind fun _ =>
    (refuses_readClaims payload).bind fun c => refuses_checkClaims now.seconds c

theorem validate_eq_algorithmMismatch_iff {now : Instant} {token actual : String} :
    a.validate now token = .error (.algorithmMismatch actual) ↔
      ∃ header payload signature, Text.split '.' token.toList = [header, payload, signature] ∧
        checkHeader header = .error (.algorithmMismatch actual) := by
  unfold validate
  split
  · next header payload signature hsplit =>
    simp only [hsplit]
    rw [bind_eq_error_iff]
    constructor
    · rintro (hheader | ⟨_, _, h⟩)
      · exact ⟨header, payload, signature, rfl, hheader⟩
      · exact absurd ⟨actual, rfl⟩ (refuses_afterHeader now header payload signature _ h)
    · rintro ⟨_, _, _, heq, hheader⟩
      simp only [List.cons.injEq, and_true] at heq
      obtain ⟨rfl, rfl, rfl⟩ := heq
      exact .inl hheader
  · next hsplit =>
    constructor
    · intro h
      cases h
    · rintro ⟨header, payload, signature, heq, _⟩
      exact absurd heq (hsplit header payload signature)

theorem namesAlgorithm_iff {token : String} {actual : String} :
    NamesAlgorithm token.toList actual ↔
      ∃ header payload signature octets v,
        Text.split '.' token.toList = [header, payload, signature] ∧
        decode? header = some octets ∧ Json.parse? octets = some v ∧ Header.Names actual v := by
  simp only [NamesAlgorithm, Text.split_eq_triple_iff, decode?,
    Base64.decode?_eq_some_iff Base64.Alphabet.urlSafe_isFaithful, and_assoc]

/-- Whoever validates a token, at whatever time, it is refused for its algorithm exactly if its
header names one that is not the one, and that name is told. A header that names the one algorithm
names it in the second reading too, or is malformed. -/
theorem algorithmMismatch_iff_names (a : Authority) (now : Instant) (token : String) :
    (∀ actual, a.validate now token = .error (.algorithmMismatch actual) ↔
      NamesAlgorithm token.toList actual ∧ actual ≠ "HS256") ∧
    ∀ v, Header.Names "HS256" v →
      Header.knownAlgorithm? v = some "HS256" ∧ recheckHeader v = .ok () ∨
        Header.knownAlgorithm? v = none ∧ recheckHeader v = .error (.malformed .json) := by
  constructor
  · intro actual
    rw [validate_eq_algorithmMismatch_iff, namesAlgorithm_iff]
    simp only [checkHeader_eq_algorithmMismatch_iff]
    constructor
    · rintro ⟨header, payload, signature, hsplit, octets, v, hoctets, hv, hnames, hother⟩
      exact ⟨⟨header, payload, signature, octets, v, hsplit, hoctets, hv, hnames⟩, hother⟩
    · rintro ⟨⟨header, payload, signature, octets, v, hsplit, hoctets, hv, hnames⟩, hother⟩
      exact ⟨header, payload, signature, hsplit, octets, v, hoctets, hv, hnames, hother⟩
  · intro v hnames
    rw [recheckHeader_of_names hnames, Header.knownAlgorithm?_of_names hnames]
    cases Header.isSound v with
    | true => exact .inl ⟨rfl, rfl⟩
    | false => exact .inr ⟨rfl, rfl⟩

end Authority
end TradeRegister.Token

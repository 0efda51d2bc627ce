import TradeRegister.Proofs.Token.Order
import TradeRegister.Proofs.Token.Signature

/-! # Time only lets tokens expire

Validation asks the clock once, when form, algorithm and signature have passed, and before the
issuer and the subject are looked at. What is refused earlier is therefore refused alike at all
times, and any other answer can only give way to the one that the token has expired.

A run is a sequence of acts on an authority and its clock. While the clock never moves back, the
answers for a token are all the same, up to a point from which on the token has expired.
-/

namespace TradeRegister.Token

/-- What is asked of an authority, and how its clock is moved in between. -/
inductive Act
  | issue (user : Uuid)
  | validate (token : String)
  | setClock (t : Instant)
  /-- Forward, or backward by negative amounts. -/
  | advanceClock (seconds nanos : Int)

/-- What an act shows. A clock that would leave its range shows nothing and stays. -/
inductive Sight
  | issued (token : String)
  | answered (token : String) (result : Except Error Uuid)
  | clock (t : Option Instant)

def Sight.answer? (token : String) : Sight → Option (Except Error Uuid)
  | .answered asked result => if asked = token then some result else none
  | .issued _ => none
  | .clock _ => none

namespace Authority

def act (a : Authority) (now : Instant) : Act → Sight × Instant
  | .issue user => (.issued (a.issue now user), now)
  | .validate token => (.answered token (a.validate now token), now)
  | .setClock t => (.clock (some t), t)
  | .advanceClock seconds nanos =>
    let t := now.advance? seconds nanos
    (.clock t, t.getD now)

def trace (a : Authority) : List Act → Instant → List (Sight × Instant)
  | [], _ => []
  | x :: acts, now =>
    let y := a.act now x
    y :: a.trace acts y.2

/-- The answers for one token along a run, in their order. -/
def answers (a : Authority) (token : String) (acts : List Act) (start : Instant) :
    List (Except Error Uuid) :=
  (a.trace acts start).filterMap fun y => y.1.answer? token

/-- No act of a run moves the clock back. -/
def NeverBack (a : Authority) (acts : List Act) (start : Instant) : Prop :=
  List.IsChain (fun s t => s.total ≤ t.total) (start :: (a.trace acts start).map Prod.snd)

instance (a : Authority) (acts : List Act) (start : Instant) :
    Decidable (a.NeverBack acts start) :=
  inferInstanceAs (Decidable (List.IsChain _ _))

/-- The claims of a token, once its form, algorithm and signature have passed. -/
def signedClaims (a : Authority) (token : String) : Except Error Claims :=
  match Text.split '.' token.toList with
  | [header, payload, signature] => do
    checkHeader header
    a.checkSignature (signed header payload) signature
    readClaims payload
  | _ => .error (.malformed .segments)

variable {a : Authority} {token : String}

/-! ## Two times -/

theorem signedClaims_sealClaims (a : Authority) {c : Claims} (hexpiry : 0 ≤ c.expiry.toInt) :
    a.signedClaims (a.sealClaims c) = .ok c := by
  rw [signedClaims, sealClaims, String.toList_ofList, split_sealChars]
  simp only [checkHeader_render, checkSignature_sign, readClaims_render,
    if_neg (Int.not_lt.2 hexpiry)]
  rfl

/-- Only the claims are ever held against the clock. -/
theorem validate_eq_bind (a : Authority) (now : Instant) (token : String) :
    a.validate now token = a.signedClaims token >>= a.checkClaims now.seconds := by
  rw [validate, signedClaims]
  generalize Text.split '.' token.toList = fields
  rcases fields with _ | ⟨header, _ | ⟨payload, _ | ⟨signature, _ | ⟨more, rest⟩⟩⟩⟩
  · rfl
  · rfl
  · rfl
  · simp only [bind_assoc]
  · rfl

theorem validate_of_signedClaims {c : Claims} (h : a.signedClaims token = .ok c) (now : Instant) :
    a.validate now token = a.checkClaims now.seconds c := by
  rw [validate_eq_bind, h]
  rfl

theorem validate_of_signedClaims_error {e : Error} (h : a.signedClaims token = .error e)
    (now : Instant) : a.validate now token = .error e := by
  rw [validate_eq_bind, h]
  rfl

theorem not_isOfClaims_checkSignature (message segment : List Char) :
    Refuses (¬·.IsOfClaims) (a.checkSignature message segment) := by
  rw [checkSignature_eq, segmentFault]
  repeat' split
  · exact .ok ()
  · exact .error not_false
  · exact .error not_false

theorem not_isOfClaims_readClaims (segment : List Char) :
    Refuses (¬·.IsOfClaims) (readClaims segment) := by
  intro e h hclaims
  simp only [readClaims, bind, Except.bind, throw, throwThe, MonadExceptOf.throw] at h
  repeat' split at h
  all_goals
    cases h
    try exact hclaims

theorem not_isOfClaims_signedClaims (a : Authority) (token : String) :
    Refuses (¬·.IsOfClaims) (a.signedClaims token) := by
  unfold signedClaims
  split
  · next header payload signature _ =>
    exact (refuses_checkHeader header).bind fun _ =>
      (not_isOfClaims_checkSignature (signed header payload) signature).bind fun _ =>
        not_isOfClaims_readClaims payload
  · exact .error not_false

theorem isOfClaims_checkClaims (now : Int) (c : Claims) :
    Refuses Error.IsOfClaims (a.checkClaims now c) := by
  intro e h
  simp only [checkClaims, checkSubject] at h
  repeat' split at h
  all_goals
    cases h
    try exact trivial

/-- A refusal that has nothing to do with the claims was made before the clock was asked. -/
theorem validate_eq_error_iff {e : Error} (he : ¬e.IsOfClaims) (now : Instant) :
    a.validate now token = .error e ↔ a.signedClaims token = .error e := by
  rw [validate_eq_bind, bind_eq_error_iff, or_iff_left]
  rintro ⟨c, _, h⟩
  exact he (isOfClaims_checkClaims now.seconds c e h)

theorem checkClaims_eq_expired_iff {now : Int} {c : Claims} :
    a.checkClaims now c = .error .expired ↔ c.expiry.toInt ≤ now := by
  refine ⟨fun h => ?_, checkClaims_of_expired⟩
  by_contra hnow
  rw [checkClaims_of_fresh (Int.not_le.1 hnow), checkSubject] at h
  repeat' split at h
  all_goals cases h

theorem validate_eq_expired_iff (now : Instant) :
    a.validate now token = .error .expired ↔
      ∃ c, a.signedClaims token = .ok c ∧ c.expiry.toInt ≤ now.seconds := by
  simp only [← checkClaims_eq_expired_iff (a := a)]
  rw [validate_eq_bind, bind_eq_error_iff, or_iff_right]
  intro h
  exact not_isOfClaims_signedClaims a token .expired h trivial

/-- The second answer may follow the first: nothing changed, or the token has expired. -/
def Becomes (earlier later : Except Error Uuid) : Prop :=
  later = earlier ∨ later = .error .expired

theorem Becomes.refused {earlier later : Except Error Uuid} (h : Becomes earlier later) {e : Error}
    (he : earlier = .error e) : ∃ f, later = .error f := by
  rcases h with h | h
  · exact ⟨e, h.trans he⟩
  · exact ⟨.expired, h⟩

theorem becomes_checkClaims {now later : Int} (h : now ≤ later) (c : Claims) :
    Becomes (a.checkClaims now c) (a.checkClaims later c) := by
  rcases Int.lt_or_le later c.expiry.toInt with hlater | hlater
  · left
    rw [checkClaims_of_fresh hlater, checkClaims_of_fresh (Int.lt_of_le_of_lt h hlater)]
  · exact .inr (checkClaims_of_expired hlater)

theorem becomes_validate {now later : Instant} (h : now.total ≤ later.total) (token : String) :
    Becomes (a.validate now token) (a.validate later token) := by
  cases hclaims : a.signedClaims token with
  | error e =>
    left
    rw [validate_of_signedClaims_error hclaims, validate_of_signedClaims_error hclaims]
  | ok c =>
    rw [validate_of_signedClaims hclaims, validate_of_signedClaims hclaims]
    exact becomes_checkClaims (Instant.seconds_mono h) c

/-! ## Runs -/

section Run

variable {acts : List Act} {now : Instant}

theorem answers_cons (a : Authority) (token : String) (x : Act) (acts : List Act) (now : Instant) :
    a.answers token (x :: acts) now =
      ((a.act now x).1.answer? token).toList ++ a.answers token acts (a.act now x).2 := by
  rw [answers, trace, List.filterMap_cons]
  cases (a.act now x).1.answer? token <;> rfl

@[simp] theorem answers_nil : a.answers token [] now = [] := rfl

@[simp] theorem answers_issue (user : Uuid) :
    a.answers token (.issue user :: acts) now = a.answers token acts now := rfl

@[simp] theorem answers_validate :
    a.answers token (.validate token :: acts) now =
      a.validate now token :: a.answers token acts now := by
  rw [answers_cons, act, Sight.answer?, if_pos rfl]
  rfl

@[simp] theorem answers_advanceClock (seconds nanos : Int) :
    a.answers token (.advanceClock seconds nanos :: acts) now =
      a.answers token acts ((now.advance? seconds nanos).getD now) := rfl

theorem neverBack_cons {x : Act} :
    a.NeverBack (x :: acts) now ↔
      now.total ≤ (a.act now x).2.total ∧ a.NeverBack acts (a.act now x).2 := by
  rw [NeverBack, trace, List.map_cons, List.isChain_cons_cons]
  rfl

theorem act_of_answer? {x : Act} {r : Except Error Uuid}
    (h : (a.act now x).1.answer? token = some r) :
    r = a.validate now token ∧ (a.act now x).2 = now := by
  cases x with
  | validate asked =>
    obtain ⟨rfl, hr⟩ := Option.ite_none_right_eq_some.1 h
    exact ⟨(Option.some.inj hr).symm, rfl⟩
  | issue user => cases h
  | setClock t => cases h
  | advanceClock seconds nanos => cases h

theorem exists_instant_of_mem_answers (h : a.NeverBack acts now) {r : Except Error Uuid}
    (hr : r ∈ a.answers token acts now) :
    ∃ later : Instant, now.total ≤ later.total ∧ r = a.validate later token := by
  induction acts generalizing now with
  | nil => cases hr
  | cons x acts ih =>
    obtain ⟨hx, hacts⟩ := neverBack_cons.1 h
    rw [answers_cons, List.mem_append, Option.mem_toList] at hr
    rcases hr with hr | hr
    · exact ⟨now, Int.le_refl _, (act_of_answer? hr).1⟩
    · obtain ⟨later, hlater, hr⟩ := ih hacts hr
      exact ⟨later, Int.le_trans hx hlater, hr⟩

/-- Every answer of a run may follow every earlier one. -/
theorem pairwise_answers (h : a.NeverBack acts now) (token : String) :
    (a.answers token acts now).Pairwise Becomes := by
  induction acts generalizing now with
  | nil => exact .nil
  | cons x acts ih =>
    obtain ⟨_, hacts⟩ := neverBack_cons.1 h
    rw [answers_cons]
    cases hx : (a.act now x).1.answer? token with
    | none => exact ih hacts
    | some r =>
      obtain ⟨rfl, hclock⟩ := act_of_answer? hx
      refine .cons ?_ (ih hacts)
      intro r hr
      obtain ⟨later, hlater, rfl⟩ := exists_instant_of_mem_answers hacts hr
      rw [hclock] at hlater
      exact becomes_validate hlater token

end Run

/-- Answers each of which may follow all before it change at most once. -/
theorem exists_eq_replicate {rs : List (Except Error Uuid)} (h : rs.Pairwise Becomes) :
    ∃ r m n, rs = List.replicate m r ++ List.replicate n (.error .expired) := by
  induction rs with
  | nil => exact ⟨.error .expired, 0, 0, rfl⟩
  | cons r rs ih =>
    obtain ⟨hr, hrs⟩ := List.pairwise_cons.1 h
    obtain ⟨s, m, n, rfl⟩ := ih hrs
    cases m with
    | zero => exact ⟨r, 1, n, rfl⟩
    | succ m =>
      rcases hr s (by simp [List.replicate_succ]) with rfl | rfl
      · exact ⟨s, m + 2, n, rfl⟩
      · exact ⟨r, 1, m + 1 + n, by rw [List.replicate_append_replicate]; rfl⟩

/-- Time does nothing to a token but let it expire. -/
structure OnlyExpires (a : Authority) (token : String) : Prop where
  changed : ∀ {now later : Instant}, now.total ≤ later.total →
    a.validate now token ≠ .error .expired → a.validate later token ≠ a.validate now token →
    a.validate later token = .error .expired
  expired : ∀ {now later : Instant}, now.total ≤ later.total →
    a.validate now token = .error .expired → a.validate later token = .error .expired
  /-- Neither an earlier nor a later time changes what is refused for form, algorithm or
  signature. -/
  timeless : ∀ {now : Instant} {e : Error}, a.validate now token = .error e → ¬e.IsOfClaims →
    ∀ other, a.validate other token = .error e
  /-- A token has expired from the second on that its signed claims name. -/
  lapse : ∀ now : Instant, a.validate now token = .error .expired ↔
    ∃ c, a.signedClaims token = .ok c ∧ c.expiry.toInt ≤ now.seconds
  /-- One answer, and from some point of the run on that the token has expired. -/
  once : ∀ {acts start}, a.NeverBack acts start →
    ∃ answer m n, a.answers token acts start =
      List.replicate m answer ++ List.replicate n (.error .expired)
  /-- Once refused, never accepted later. -/
  refused : ∀ {acts start}, a.NeverBack acts start →
    (a.answers token acts start).Pairwise fun earlier later =>
      (∃ e, earlier = .error e) → ∃ f, later = .error f

/-- Whoever signed the token, and whatever it says. -/
theorem onlyExpires (a : Authority) (token : String) : a.OnlyExpires token where
  changed h _ hne := (becomes_validate h token).resolve_left hne
  expired := by
    intro now later h hnow
    rcases becomes_validate h token with hlater | hlater
    · exact hlater.trans hnow
    · exact hlater
  timeless h he other := (validate_eq_error_iff he other).2 ((validate_eq_error_iff he _).1 h)
  lapse := validate_eq_expired_iff
  once h := exists_eq_replicate (pairwise_answers h token)
  refused h := (pairwise_answers h token).imp fun hbecomes ⟨_, he⟩ => hbecomes.refused he

def acme : Authority := ⟨"acme", ⟨"k"⟩, 60, by decide, by decide⟩

/-- The token that the user with the number ten gets in second 100. -/
def tensToken : String := acme.issue ⟨100000000000, by decide, by decide⟩ ⟨10, by decide⟩

/-- From the issue of a token to a little after its expiry, with another one issued in between. -/
def presentedThrice : List Act :=
  [.validate tensToken, .issue ⟨11, by decide⟩, .advanceClock 60 0, .validate tensToken,
    .advanceClock 0 1, .validate tensToken]

theorem onlyExpires_presentedThrice :
    acme.NeverBack presentedThrice ⟨100000000000, by decide, by decide⟩ ∧
      acme.answers tensToken presentedThrice ⟨100000000000, by decide, by decide⟩ =
        [.ok ⟨10, by decide⟩, .error .expired, .error .expired] ∧
      acme.signedClaims tensToken =
        .ok (acme.claimsFor ⟨100000000000, by decide, by decide⟩ ⟨10, by decide⟩) ∧
      acme.OnlyExpires tensToken := by
  have hclaims : acme.signedClaims tensToken =
      .ok (acme.claimsFor ⟨100000000000, by decide, by decide⟩ ⟨10, by decide⟩) :=
    acme.signedClaims_sealClaims (by decide)
  refine ⟨by decide, ?_, hclaims, onlyExpires acme tensToken⟩
  have hvalidate (now : Instant) : acme.validate now tensToken =
      if now.seconds < 160 then .ok ⟨10, by decide⟩ else .error .expired := by
    rw [validate_of_signedClaims hclaims, acme.checkClaims_claimsFor (by decide) (by decide)]
    rfl
  rw [presentedThrice, answers_validate, answers_issue, answers_advanceClock, answers_validate,
    answers_advanceClock, answers_validate, answers_nil, hvalidate, hvalidate, hvalidate]
  rfl

end Authority
end TradeRegister.Token

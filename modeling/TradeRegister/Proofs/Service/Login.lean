import TradeRegister.Call
import TradeRegister.Proofs.Result

/-! # Login

A login tells success from failure, and nothing else. It succeeds exactly when a complete account
was found, the password is its own and the token got signed; the session is then for that account.
Whatever else happens, lookups that fail included, is answered alike.
-/

namespace TradeRegister.Service

open Store (UserRepository)
open Token (Authority)

variable {σ : Type} {k : LoginSteps} {user : User} {password : String} {found : Except Fault User}
  {fault : Fault} {id : Uuid} {session : Session} {authority : Authority} {now : Instant}

/-- A complete account with this identifier was found, and the password is its own. -/
def Matches (found : Except Fault User) (password : String) (id : Uuid) : Prop :=
  ∃ user stored, found = .ok user ∧ user.id = .value id ∧ user.passwordHash = .value stored ∧
    Password.verify password stored = true

namespace LoginSteps

/-- A complete account was found, its password was seen to be this one, and the session is for it,
with the token that got signed. -/
def Grants (k : LoginSteps) (password : String) (found : Except Fault User) (session : Session) :
    Prop :=
  ∃ user stored, found = .ok user ∧ user.id = .value session.userId ∧
    user.passwordHash = .value stored ∧ k.compare password stored = .ok true ∧
    k.sign session.userId = .ok session.token

theorem matched?_eq_some_iff :
    k.matched? user password = some id ↔ ∃ stored, user.id = .value id ∧
      user.passwordHash = .value stored ∧ k.compare password stored = .ok true := by
  constructor
  · intro h
    simp only [matched?] at h
    split at h
    case h_1 _ stored hid hstored =>
      cases hsame : k.compare password stored with
      | error fault => simp [hsame] at h
      | ok same =>
        cases same with
        | false => simp [hsame] at h
        | true =>
          simp only [hsame, Option.some.injEq] at h
          subst h
          exact ⟨stored, hid, hstored, hsame⟩
    case h_2 => cases h
  · rintro ⟨stored, hid, hstored, hsame⟩
    simp only [matched?, hid, hstored, hsame]

theorem answer_eq_ok_iff :
    k.answer password found = .ok session ↔ k.Grants password found session := by
  cases found with
  | error fault => simp [answer, Grants]
  | ok user =>
    constructor
    · intro h
      cases hmatched : k.matched? user password with
      | none => simp [answer, hmatched] at h
      | some id =>
        cases htoken : k.sign id with
        | error fault => simp [answer, hmatched, htoken] at h
        | ok token =>
          obtain ⟨stored, hid, hstored, hsame⟩ := matched?_eq_some_iff.1 hmatched
          simp only [answer, hmatched, htoken, Except.ok.injEq] at h
          subst h
          exact ⟨user, stored, rfl, hid, hstored, hsame, htoken⟩
    · rintro ⟨_, stored, hfound, hid, hstored, hsame, htoken⟩
      cases hfound
      have hmatched := matched?_eq_some_iff.2 ⟨stored, hid, hstored, hsame⟩
      simp only [answer, hmatched, htoken]

theorem answer_eq_error_iff :
    k.answer password found = .error fault ↔
      fault = .badCredentials ∧ ∀ session, ¬ k.Grants password found session := by
  constructor
  · intro h
    refine ⟨eq_badCredentials_of_answer h, fun session hgrants => ?_⟩
    rw [answer_eq_ok_iff.2 hgrants] at h
    cases h
  · rintro ⟨rfl, hnone⟩
    cases h : k.answer password found with
    | ok session => exact (hnone session (answer_eq_ok_iff.1 h)).elim
    | error fault => rw [eq_badCredentials_of_answer h]

theorem grants_reliable_iff :
    (reliable authority now).Grants password found session ↔
      ∃ id, Matches found password id ∧ session = sessionFor authority now id := by
  obtain ⟨id, token⟩ := session
  constructor
  · rintro ⟨user, stored, hfound, hid, hstored, hsame, htoken⟩
    refine ⟨id, ⟨user, stored, hfound, hid, hstored, Except.ok.inj hsame⟩, ?_⟩
    rw [sessionFor, Except.ok.inj htoken]
  · rintro ⟨_, ⟨user, stored, hfound, hid, hstored, hsame⟩, hsession⟩
    cases hsession
    exact ⟨user, stored, hfound, hid, hstored, congrArg Except.ok hsame, rfl⟩

end LoginSteps

theorem login_eq_ok_iff {repo : UserRepository σ} {username : String} {s : σ} :
    login repo authority now username password s = .ok session ↔
      ∃ id, Matches (repo.byUsername username s) password id ∧
        session = sessionFor authority now id := by
  rw [login, LoginSteps.answer_eq_ok_iff, LoginSteps.grants_reliable_iff]

theorem login_eq_error_iff {repo : UserRepository σ} {username : String} {s : σ} :
    login repo authority now username password s = .error fault ↔
      fault = .badCredentials ∧
        ∀ id, ¬ Matches (repo.byUsername username s) password id := by
  simp only [login, LoginSteps.answer_eq_error_iff, LoginSteps.grants_reliable_iff]
  constructor
  · rintro ⟨hfault, hnone⟩
    exact ⟨hfault, fun id hmatches => hnone _ ⟨id, hmatches, rfl⟩⟩
  · rintro ⟨hfault, hnone⟩
    refine ⟨hfault, ?_⟩
    rintro _ ⟨id, hmatches, _⟩
    exact hnone id hmatches

/-- A login that names `username` and gives `password` tells success from failure and nothing else:
it is answered with the session that its steps grant or with the one fault, and leaves no trace. -/
structure TellsSuccessOnly (d : Services σ) (username password : String) (s : σ) : Prop where
  grants : ∀ (k : LoginSteps) session,
    k.answer password (d.users.byUsername username s) = .ok session ↔
      k.Grants password (d.users.byUsername username s) session
  refuses : ∀ (k : LoginSteps) fault,
    k.answer password (d.users.byUsername username s) = .error fault ↔ fault = .badCredentials ∧
      ∀ session, ¬ k.Grants password (d.users.byUsername username s) session
  answers : ∀ supply id, Matches (d.users.byUsername username s) password id →
    d.answer supply s (Call.login username password).request =
      ⟨.ok (.session (sessionFor d.authority supply.now id)), s, []⟩
  hides : ∀ supply, (∀ id, ¬ Matches (d.users.byUsername username s) password id) →
    d.answer supply s (Call.login username password).request = ⟨.error .badCredentials, s, []⟩

/-- Over any store, whatever its lookup of accounts answers. -/
theorem login_tellsSuccessOnly (d : Services σ) (username password : String) (s : σ) :
    TellsSuccessOnly d username password s where
  grants _ _ := LoginSteps.answer_eq_ok_iff
  refuses _ _ := LoginSteps.answer_eq_error_iff
  answers supply id hmatches := by
    have hlogin : login d.users d.authority supply.now username password s =
        .ok (sessionFor d.authority supply.now id) := login_eq_ok_iff.2 ⟨id, hmatches, rfl⟩
    rw [Call.request, Services.answer, hlogin]
    rfl
  hides supply hnone := by
    have hlogin : login d.users d.authority supply.now username password s =
        .error .badCredentials := login_eq_error_iff.2 ⟨rfl, hnone⟩
    rw [Call.request, Services.answer, hlogin]
    rfl

end TradeRegister.Service

import TradeRegister.Proofs.Password
import TradeRegister.Proofs.Service.Login
import TradeRegister.Proofs.Store.Effects
import TradeRegister.Proofs.Token.Issue

/-! # Credentials and sessions

Valid credentials always make an account. The password of an account opens sessions for its user,
sessions are opened for nobody else, and the token of a session is recognized until it expires.
-/

namespace TradeRegister.Service

open Store (Backend UserRow)
open Token (Authority)

/-- Credentials that an account can be opened with. -/
def areValid (username password : String) : Bool :=
  !Text.isBlank username && !password.isEmpty && (Bytes.ofString password).length < 2 ^ 32

theorem checkCredentials_eq_ok_iff {username password : String} {u : Unit} :
    checkCredentials username password = .ok u ↔
      Text.isBlank username = false ∧ password.isEmpty = false := by
  unfold checkCredentials
  cases Text.isBlank username with
  | true => simp
  | false => cases password.isEmpty <;> simp

theorem hashPassword_eq_ok_iff {salt : Bytes} {password hash : String} :
    hashPassword salt password = .ok hash ↔ Password.hash? salt password = some hash := by
  unfold hashPassword
  cases Password.hash? salt password <;> simp

theorem accountFor_eq_ok_iff {salt : Bytes} {username password : String} {u : User} :
    accountFor salt username password = .ok u ↔
      areValid username password = true ∧
        ∃ hash, Password.hash? salt password = some hash ∧ u = .unregistered username hash := by
  simp only [accountFor, bind_eq_ok_iff, checkCredentials_eq_ok_iff, hashPassword_eq_ok_iff]
  constructor
  · rintro ⟨_, ⟨hname, hpassword⟩, hash, hhash, hu⟩
    have hlength := (Password.hash?_isSome_iff salt password).1 (hhash ▸ rfl)
    have hvalid : areValid username password = true := by
      rw [areValid, hname, hpassword, decide_eq_true hlength]
      rfl
    exact ⟨hvalid, hash, hhash, (Except.ok.inj hu).symm⟩
  · rintro ⟨hvalid, hash, hhash, rfl⟩
    simp only [areValid, Bool.and_eq_true, Bool.not_eq_true'] at hvalid
    exact ⟨⟨⟩, hvalid.1, hash, hhash, rfl⟩

theorem exists_accountFor (salt : Bytes) {username password : String}
    (h : areValid username password = true) :
    ∃ hash, Password.hash? salt password = some hash ∧
      accountFor salt username password = .ok (.unregistered username hash) := by
  have hlength : (Bytes.ofString password).length < 2 ^ 32 := by
    simp only [areValid, Bool.and_eq_true, decide_eq_true_eq] at h
    exact h.2
  obtain ⟨hash, hhash⟩ :=
    Option.isSome_iff_exists.1 ((Password.hash?_isSome_iff salt password).2 hlength)
  exact ⟨hash, hhash, accountFor_eq_ok_iff.2 ⟨h, hash, hhash, rfl⟩⟩

section Login

variable {σ : Type} {b : Backend σ} {l : b.Laws} {s : σ} {authority : Authority} {now : Instant}

theorem login_eq (h : l.Sound s) {r : UserRow} (hr : r ∈ b.userRows s) {password : String}
    (hpassword : Password.verify password r.passwordHash = true) :
    login b.users authority now r.username password s = .ok (sessionFor authority now r.id) := by
  have hfound : b.users.byUsername r.username s = .ok r.read := by
    rw [l.userByUsername h]
    exact (Store.Entity.user.answer_eq_ok_iff (l.users h).names).2 ⟨r, hr, rfl, rfl⟩
  exact login_eq_ok_iff.2 ⟨r.id, ⟨r.read, r.passwordHash, hfound, rfl, rfl, hpassword⟩, rfl⟩

/-- Sessions are opened for those who have an account. -/
theorem exists_row_of_login (h : l.Sound s) {username password : String} {session : Session}
    (hlogin : login b.users authority now username password s = .ok session) :
    ∃ r ∈ b.userRows s, session = sessionFor authority now r.id := by
  obtain ⟨id, ⟨user, stored, hfound, hid, _⟩, rfl⟩ := login_eq_ok_iff.1 hlogin
  rw [l.userByUsername h] at hfound
  obtain ⟨r, hr, _, hread⟩ := (Store.Entity.user.answer_eq_ok_iff (l.users h).names).1 hfound
  obtain rfl := Except.ok.inj hread
  cases hid
  exact ⟨r, hr, rfl⟩

end Login

theorem authenticate_issue (a : Authority) {u : Uuid} (hu : u ≠ Uuid.nil) {issued : Instant}
    (hissued : 0 ≤ issued.total) (now : Instant) :
    authenticate a now (a.issue issued u) =
      if now.seconds < min (issued.seconds + a.lifetime) (2 ^ 63 - 1) then .ok u
      else .error .badCredentials := by
  have hseconds : 0 ≤ issued.seconds := Int.ediv_nonneg hissued (by decide)
  have hexpiry := a.expiry_claimsFor hissued u
  rw [authenticate, Authority.issue, Authority.validate_sealClaims, if_neg (by omega),
    Authority.checkClaims_claimsFor a hu hissued]
  by_cases h : now.seconds < min (issued.seconds + a.lifetime) (2 ^ 63 - 1)
  · rw [if_pos h, if_pos h]
  · rw [if_neg h, if_neg h]

end TradeRegister.Service

import TradeRegister.Password
import TradeRegister.Service.Outcome
import TradeRegister.Store.Repository
import TradeRegister.Text.Blank
import TradeRegister.Token.Authority

/-! # The account service

Registration, login and recognition of tokens. A login that fails says nothing about why.
-/

namespace TradeRegister.Service

open Store (UserRepository)
open Token (Authority)

variable {σ : Type}

/-- What a caller holds after registration or login. -/
structure Session where
  userId : Uuid
  token : String
deriving DecidableEq

def sessionFor (authority : Authority) (now : Instant) (id : Uuid) : Session :=
  ⟨id, authority.issue now id⟩

def checkCredentials (username password : String) : Except Fault Unit :=
  if Text.isBlank username then .error (.validation "username" "must not be empty")
  else if password.isEmpty then .error (.validation "password" "must not be empty")
  else .ok ()

def hashPassword (salt : Bytes) (password : String) : Except Fault String :=
  match Password.hash? salt password with
  | some hash => .ok hash
  | none => .error (.infrastructure (.other "password hashing failed: invalid password"))

def accountFor (salt : Bytes) (username password : String) : Except Fault User := do
  checkCredentials username password
  return .unregistered username (← hashPassword salt password)

def register (repo : UserRepository σ) (authority : Authority) (now : Instant) (salt : Bytes)
    (fresh : Uuid) (username password : String) (s : σ) : Outcome σ Session :=
  match accountFor salt username password with
  | .error fault => .refused fault s
  | .ok user =>
    match repo.create fresh user s with
    | (.error fault, s) => .refused fault s
    | (.ok created, s) =>
      match created.id.require "id" with
      | .error fault => .refused fault s
      | .ok id => ⟨.ok (sessionFor authority now id), s, [.of .signup id]⟩

/-- The steps of a login outside the service: comparing a password with a stored one, which may get
lost, and signing a token, which may fail. -/
structure LoginSteps where
  compare : String → String → Except Fault Bool
  sign : Uuid → Except Fault String

namespace LoginSteps

/-- The steps of a running register, which never fail. -/
def reliable (authority : Authority) (now : Instant) : LoginSteps where
  compare password stored := .ok (Password.verify password stored)
  sign id := .ok (authority.issue now id)

def matched? (k : LoginSteps) (u : User) (password : String) : Option Uuid :=
  match u.id, u.passwordHash with
  | .value id, .value stored =>
    match k.compare password stored with
    | .ok true => some id
    | .ok false => none
    | .error _ => none
  | _, _ => none

def answer (k : LoginSteps) (password : String) : Except Fault User → Except Fault Session
  | .error _ => .error .badCredentials
  | .ok user =>
    match k.matched? user password with
    | none => .error .badCredentials
    | some id =>
      match k.sign id with
      | .ok token => .ok ⟨id, token⟩
      | .error _ => .error .badCredentials

/-- Whatever makes a login fail, it is answered alike. -/
theorem eq_badCredentials_of_answer {k : LoginSteps} {password : String} {found : Except Fault User}
    {fault : Fault} (h : k.answer password found = .error fault) : fault = .badCredentials := by
  simp only [answer] at h
  repeat' split at h
  all_goals first | contradiction | exact (Except.error.inj h).symm

end LoginSteps

def login (repo : UserRepository σ) (authority : Authority) (now : Instant)
    (username password : String) (s : σ) : Except Fault Session :=
  (LoginSteps.reliable authority now).answer password (repo.byUsername username s)

def authenticate (authority : Authority) (now : Instant) (token : String) : Except Fault Uuid :=
  match authority.validate now token with
  | .ok id => .ok id
  | .error _ => .error .badCredentials

end TradeRegister.Service

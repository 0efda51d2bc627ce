import TradeRegister.Service.Accounts
import TradeRegister.Service.Companies

/-! # The services

Every request that the services take, answered over any store.
-/

namespace TradeRegister.Service

open Store (CompanyRepository UserRepository)
open Token (Authority)

structure Services (σ : Type) where
  companies : CompanyRepository σ
  users : UserRepository σ
  authority : Authority
  limits : Limits

inductive Request
  | createCompany (c : Company)
  | companyById (id : Uuid)
  | companyByName (name : String)
  | updateCompany (patch : Company)
  | deleteCompany (id : Uuid)
  | register (username password : String)
  | login (username password : String)
  | authenticate (token : String)
  | userById (id : Uuid)
deriving DecidableEq

inductive Response
  | company (c : Company)
  | deleted
  | session (s : Session)
  | identity (id : Uuid)
  | user (u : User)
deriving DecidableEq

/-- What a request gets from outside: the time, an identifier nobody has, and a salt. -/
structure Supply where
  now : Instant
  id : Uuid
  salt : Bytes

def Services.answer {σ : Type} (d : Services σ) (supply : Supply) (s : σ) :
    Request → Outcome σ Response
  | .createCompany c =>
    (Service.createCompany d.companies d.limits supply.id c s).map .company
  | .companyById id => (Outcome.answer (d.companies.byId id s) s).map .company
  | .companyByName name => (Outcome.answer (d.companies.byName name s) s).map .company
  | .updateCompany patch => (Service.updateCompany d.companies d.limits patch s).map .company
  | .deleteCompany id => (Service.deleteCompany d.companies id s).map fun _ => .deleted
  | .register username password =>
    (Service.register d.users d.authority supply.now supply.salt supply.id username password
      s).map .session
  | .login username password =>
    (Outcome.answer (Service.login d.users d.authority supply.now username password s) s).map
      .session
  | .authenticate token =>
    (Outcome.answer (Service.authenticate d.authority supply.now token) s).map .identity
  | .userById id => (Outcome.answer (d.users.byId id s) s).map .user

end TradeRegister.Service

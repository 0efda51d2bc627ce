import TradeRegister.Service.Outcome
import TradeRegister.Service.Validation
import TradeRegister.Store.Repository

/-! # The company service

Creation, partial update, deletion and reading of companies. A record is validated first, then
stored, and a change that succeeded is announced under the company's identifier.
-/

namespace TradeRegister.Service

open Store (CompanyRepository)
open Delivery (Mutation)

variable {σ : Type}

def createCompany (repo : CompanyRepository σ) (limits : Limits) (fresh : Uuid) (c : Company)
    (s : σ) : Outcome σ Company :=
  match limits.checkNew c with
  | .error fault => .refused fault s
  | .ok () =>
    match repo.create fresh c s with
    | (.error fault, s) => .refused fault s
    | (.ok created, s) =>
      match created.id.require "id" with
      | .error fault => .refused fault s
      | .ok id => ⟨.ok created, s, [.of .create id]⟩

def updateCompany (repo : CompanyRepository σ) (limits : Limits) (patch : Company) (s : σ) :
    Outcome σ Company :=
  match limits.checkPatch patch with
  | .error fault => .refused fault s
  | .ok id =>
    match repo.update patch s with
    | (.error fault, s) => .refused fault s
    | (.ok updated, s) => ⟨.ok updated, s, [.of .update id]⟩

def deleteCompany (repo : CompanyRepository σ) (id : Uuid) (s : σ) : Outcome σ Unit :=
  match repo.delete id s with
  | (.error fault, s) => .refused fault s
  | (.ok (), s) => ⟨.ok (), s, [.of .delete id]⟩

end TradeRegister.Service

import TradeRegister.Proofs.Service.Validation
import TradeRegister.Proofs.Store.Refusal
import TradeRegister.Service.Services

/-! # What the services refuse

Over a store whose faults all say what they are, so do the faults of every service.
-/

namespace TradeRegister.Service

open Store (CompanyRepository UserRepository Memory)
open Token (Authority)

variable {σ α β : Type}

theorem Outcome.refuses_map {o : Outcome σ α} (h : Refuses Fault.IsTold o.result) (f : α → β) :
    Refuses Fault.IsTold (o.map f).result :=
  Refuses.map h f

section Companies

variable {repo : CompanyRepository σ} {limits : Limits} {s : σ}

theorem refuses_createCompany {fresh : Uuid} {c : Company}
    (h : Refuses Fault.IsTold (repo.create fresh c s).1) :
    Refuses Fault.IsTold (createCompany repo limits fresh c s).result := by
  unfold createCompany
  cases hcheck : limits.checkNew c with
  | error fault => exact (limits.refuses_checkNew c).isTold.passOn hcheck
  | ok _ =>
    dsimp only
    cases hcreate : repo.create fresh c s with
    | mk result next =>
      rw [hcreate] at h
      cases result with
      | error fault => exact h
      | ok created =>
        dsimp only
        cases hid : created.id.require "id" with
        | error fault => exact (created.id.refuses_require "id").isTold.passOn hid
        | ok id => exact .ok created

theorem refuses_updateCompany {patch : Company}
    (h : Refuses Fault.IsTold (repo.update patch s).1) :
    Refuses Fault.IsTold (updateCompany repo limits patch s).result := by
  unfold updateCompany
  cases hcheck : limits.checkPatch patch with
  | error fault => exact (limits.refuses_checkPatch patch).isTold.passOn hcheck
  | ok id =>
    dsimp only
    cases hupdate : repo.update patch s with
    | mk result next =>
      rw [hupdate] at h
      cases result with
      | error fault => exact h
      | ok updated => exact .ok updated

theorem refuses_deleteCompany {id : Uuid} (h : Refuses Fault.IsTold (repo.delete id s).1) :
    Refuses Fault.IsTold (deleteCompany repo id s).result := by
  unfold deleteCompany
  cases hdelete : repo.delete id s with
  | mk result next =>
    rw [hdelete] at h
    cases result with
    | error fault => exact h
    | ok _ => exact .ok ()

end Companies

section Accounts

variable {repo : UserRepository σ} {authority : Authority} {now : Instant} {s : σ}

theorem refuses_accountFor (salt : Bytes) (username password : String) :
    Refuses Fault.IsTold (accountFor salt username password) := by
  have hcredentials : Refuses Fault.IsValidation (checkCredentials username password) := by
    unfold checkCredentials
    split
    · exact refuses_validation _ _
    · split
      · exact refuses_validation _ _
      · exact .ok _
  have hhash : Refuses Fault.IsTold (hashPassword salt password) := by
    unfold hashPassword
    split
    · exact .ok _
    · exact .error (by simp [Fault.IsTold])
  apply hcredentials.isTold.bind
  intro _
  apply hhash.bind
  intro hash
  exact .ok _

theorem refuses_register {salt : Bytes} {fresh : Uuid} {username password : String}
    (h : ∀ u, Refuses Fault.IsTold (repo.create fresh u s).1) :
    Refuses Fault.IsTold (register repo authority now salt fresh username password s).result := by
  unfold register
  cases haccount : accountFor salt username password with
  | error fault => exact (refuses_accountFor salt username password).passOn haccount
  | ok user =>
    have huser := h user
    dsimp only
    cases hcreate : repo.create fresh user s with
    | mk result next =>
      rw [hcreate] at huser
      cases result with
      | error fault => exact huser.passOn rfl
      | ok created =>
        dsimp only
        cases hid : created.id.require "id" with
        | error fault => exact (created.id.refuses_require "id").isTold.passOn hid
        | ok id => exact .ok _

theorem refuses_login {username password : String} :
    Refuses Fault.IsTold (login repo authority now username password s) := by
  intro fault h
  rw [LoginSteps.eq_badCredentials_of_answer h]
  simp [Fault.IsTold]

theorem refuses_authenticate {token : String} :
    Refuses Fault.IsTold (authenticate authority now token) := by
  unfold authenticate
  split
  · exact .ok _
  · exact .error (by simp [Fault.IsTold])

end Accounts

end TradeRegister.Service

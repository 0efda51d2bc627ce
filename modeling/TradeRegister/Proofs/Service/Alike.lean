import TradeRegister.Proofs.Service.Refusal
import TradeRegister.Proofs.Store.Agreement

/-! # Services over two stores

While two stores agree, every request over one leads to the result and the announcements that it
leads to over the other, and the stores agree afterwards. Validation keeps away the updates that
the stores might answer differently.
-/

namespace TradeRegister.Service

open Store (Agree Database Memory)
open Token (Authority)

variable {α β : Type} {m : Memory} {d : Database}

namespace Outcome

/-- The same result and the same announcements, over stores that agree. -/
structure Alike (x : Outcome Memory α) (y : Outcome Database α) : Prop where
  result : x.result = y.result
  announced : x.announced = y.announced
  agree : Agree x.state y.state

theorem Alike.refused (h : Agree m d) (fault : Fault) :
    Alike (Outcome.refused fault m : Outcome Memory α) (Outcome.refused fault d) :=
  ⟨rfl, rfl, h⟩

theorem Alike.answer (h : Agree m d) {r r' : Except Fault α} (hr : r = r') :
    Alike (Outcome.answer r m) (Outcome.answer r' d) :=
  ⟨hr, rfl, h⟩

theorem Alike.map {x : Outcome Memory α} {y : Outcome Database α} (h : Alike x y) (f : α → β) :
    Alike (x.map f) (y.map f) :=
  ⟨congrArg (Except.map f) h.result, h.announced, h.agree⟩

end Outcome

open Outcome (Alike)

theorem createCompany_alike (h : Agree m d) (limits : Limits) (fresh : Uuid) (c : Company) :
    Alike (createCompany Memory.companyRepository limits fresh c m)
      (createCompany Database.companyRepository limits fresh c d) := by
  have hcreate : Store.Alike (Memory.companyRepository.create fresh c m)
      (Database.companyRepository.create fresh c d) := h.createCompany fresh c
  unfold createCompany
  cases limits.checkNew c with
  | error fault => exact .refused h fault
  | ok _ =>
    refine hcreate.elim ?_ ?_
    · intro fault m d hagree
      exact .refused hagree fault
    · intro created m d hagree
      dsimp only
      cases created.id.require "id" with
      | error fault => exact .refused hagree fault
      | ok id => exact ⟨rfl, rfl, hagree⟩

theorem updateCompany_alike (h : Agree m d) (limits : Limits) (patch : Company) :
    Alike (updateCompany Memory.companyRepository limits patch m)
      (updateCompany Database.companyRepository limits patch d) := by
  unfold updateCompany
  cases hcheck : limits.checkPatch patch with
  | error fault => exact .refused h fault
  | ok id =>
    have hpasses := Limits.checkPatch_eq_ok_iff.1 hcheck
    have hupdate : Store.Alike (Memory.companyRepository.update patch m)
        (Database.companyRepository.update patch d) :=
      h.updateCompany (Store.CompanyWrite.ofPatch_eq_ok_iff.2 ⟨hpasses.id, hpasses.isWritable, rfl⟩)
    refine hupdate.elim ?_ ?_
    · intro fault m d hagree
      exact .refused hagree fault
    · intro updated m d hagree
      exact ⟨rfl, rfl, hagree⟩

theorem deleteCompany_alike (h : Agree m d) (id : Uuid) :
    Alike (deleteCompany Memory.companyRepository id m)
      (deleteCompany Database.companyRepository id d) := by
  have hdelete : Store.Alike (Memory.companyRepository.delete id m)
      (Database.companyRepository.delete id d) := h.deleteCompany id
  unfold deleteCompany
  refine hdelete.elim ?_ ?_
  · intro fault m d hagree
    exact .refused hagree fault
  · intro _ m d hagree
    exact ⟨rfl, rfl, hagree⟩

theorem register_alike (h : Agree m d) (authority : Authority) (now : Instant) (salt : Bytes)
    (fresh : Uuid) (username password : String) :
    Alike (register Memory.userRepository authority now salt fresh username password m)
      (register Database.userRepository authority now salt fresh username password d) := by
  unfold register
  cases accountFor salt username password with
  | error fault => exact .refused h fault
  | ok user =>
    have hcreate : Store.Alike (Memory.userRepository.create fresh user m)
        (Database.userRepository.create fresh user d) := h.createUser fresh user
    dsimp only
    refine hcreate.elim ?_ ?_
    · intro fault m d hagree
      exact .refused hagree fault
    · intro created m d hagree
      dsimp only
      cases created.id.require "id" with
      | error fault => exact .refused hagree fault
      | ok id => exact ⟨rfl, rfl, hagree⟩

theorem login_alike (h : Agree m d) (authority : Authority) (now : Instant)
    (username password : String) :
    login Memory.userRepository authority now username password m =
      login Database.userRepository authority now username password d := by
  have hfound : Memory.userRepository.byUsername username m =
      Database.userRepository.byUsername username d := h.userByUsername username
  rw [login, login, hfound]

/-! ## Requests -/

/-- The services over a store in memory. -/
def memoryServices (authority : Authority) (limits : Limits) : Services Memory :=
  ⟨Memory.companyRepository, Memory.userRepository, authority, limits⟩

/-- The services over a database. -/
def databaseServices (authority : Authority) (limits : Limits) : Services Database :=
  ⟨Database.companyRepository, Database.userRepository, authority, limits⟩

theorem answer_alike (h : Agree m d) (authority : Authority) (limits : Limits) (supply : Supply)
    (r : Request) :
    Alike ((memoryServices authority limits).answer supply m r)
      ((databaseServices authority limits).answer supply d r) := by
  cases r with
  | createCompany c => exact (createCompany_alike h limits supply.id c).map _
  | companyById id => exact (Alike.answer h (h.companyById id)).map _
  | companyByName name => exact (Alike.answer h (h.companyByName name)).map _
  | updateCompany patch => exact (updateCompany_alike h limits patch).map _
  | deleteCompany id => exact (deleteCompany_alike h id).map _
  | register username password =>
    exact (register_alike h authority supply.now supply.salt supply.id username password).map _
  | login username password =>
    exact (Alike.answer h (login_alike h authority supply.now username password)).map _
  | authenticate token => exact (Alike.answer h rfl).map _
  | userById id => exact (Alike.answer h (h.userById id)).map _

/-- No request over a store in memory is refused for a reason that is kept back. -/
theorem refuses_answer (authority : Authority) (limits : Limits) (supply : Supply) (m : Memory)
    (r : Request) :
    Refuses Fault.IsTold ((memoryServices authority limits).answer supply m r).result := by
  cases r with
  | createCompany c =>
    exact Outcome.refuses_map (refuses_createCompany (m.refuses_createCompany supply.id c)) _
  | companyById id => exact Refuses.map (m.refuses_companyById id) _
  | companyByName name => exact Refuses.map (m.refuses_companyByName name) _
  | updateCompany patch =>
    exact Outcome.refuses_map (refuses_updateCompany (m.refuses_updateCompany patch)) _
  | deleteCompany id => exact Outcome.refuses_map (refuses_deleteCompany (m.refuses_deleteCompany id)) _
  | register username password =>
    exact Outcome.refuses_map (refuses_register fun u => m.refuses_createUser supply.id u) _
  | login username password => exact Refuses.map refuses_login _
  | authenticate token => exact Refuses.map refuses_authenticate _
  | userById id => exact Refuses.map (m.refuses_userById id) _

end TradeRegister.Service

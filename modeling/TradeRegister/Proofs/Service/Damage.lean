import TradeRegister.Proofs.Service.Companies
import TradeRegister.Proofs.Store.Damage

/-! # Faults over damaged rows

The company service over a database with any rows, readable or not. A request that fails announces
nothing, and it leaves the table alone unless it is an update that is written and cannot be read.
Whatever else changes the table succeeds and is announced.
-/

namespace TradeRegister.Service

open Store (Backend CompanyRow Database Operation)
open Token (Authority)
open Delivery (Mutation)

/-- What a successful change announces. -/
inductive Reports : Request → Response → List Mutation → Prop
  | created {c made : Company} {id : Uuid} (hid : made.id = .value id) :
    Reports (.createCompany c) (.company made) [.of .create id]
  | updated {patch made : Company} {id : Uuid} (hid : patch.id = .value id) :
    Reports (.updateCompany patch) (.company made) [.of .update id]
  | deleted {id : Uuid} : Reports (.deleteCompany id) .deleted [.of .delete id]

/-- Everything that a request about companies may lead to, whatever the rows are. -/
inductive Answered (d : Database) (limits : Limits) : Request → Outcome Database Response → Prop
  | asked {r : Request} {result : Except Fault Response} (hquestion : r.IsQuestion) :
    Answered d limits r (.answer result d)
  | refused {r : Request} {fault : Fault} : Answered d limits r (.refused fault d)
  | reported {r : Request} {response : Response} {announced : List Mutation} {d' : Database}
    (hreports : Reports r response announced) : Answered d limits r ⟨.ok response, d', announced⟩
  | unread {patch : Company} {id : Uuid} {fault : Fault} {d' : Database}
    (hpasses : limits.Passes patch id) (hwritten : d.WrittenUnread patch fault d') :
    Answered d limits (.updateCompany patch) (.refused fault d')

variable {d : Database}

theorem answered_createCompany (h : d.Sound) (authority : Authority) (limits : Limits)
    (supply : Supply) (c : Company) : Answered d limits (.createCompany c)
      ((Backend.database.services authority limits).answer supply d (.createCompany c)) := by
  rw [answer_createCompany, createCompany]
  cases hcheck : limits.checkNew c with
  | error fault => exact .refused
  | ok _ =>
    have hlaw := h.createCompany supply.id c
    dsimp only
    rw [show Backend.database.companies.create supply.id c d = d.createCompany supply.id c from rfl]
    generalize d.createCompany supply.id c = out at hlaw
    cases hlaw with
    | refused _ => exact .refused
    | taken _ _ _ => exact .refused
    | @stored row _ hasked _ _ =>
      obtain ⟨kind, hread⟩ := (Store.CompanyRow.ofNew_eq_ok_iff.1 hasked).read_eq
      rw [show Store.Entity.company.read row = _ from hread]
      exact .reported (.created rfl)

theorem answered_updateCompany (h : d.Sound) (authority : Authority) (limits : Limits)
    (supply : Supply) (patch : Company) : Answered d limits (.updateCompany patch)
      ((Backend.database.services authority limits).answer supply d (.updateCompany patch)) := by
  rw [answer_updateCompany, updateCompany]
  cases hcheck : limits.checkPatch patch with
  | error fault => exact .refused
  | ok id =>
    have hpasses := Limits.checkPatch_eq_ok_iff.1 hcheck
    dsimp only
    rw [show Backend.database.companies.update patch d = d.updateCompany patch from rfl]
    cases hout : d.updateCompany patch with
    | mk result d' =>
      cases result with
      | ok made => exact .reported (.updated hpasses.id)
      | error fault =>
        by_cases hsame : d' = d
        · obtain rfl := hsame
          exact .refused
        · exact .unread hpasses (h.updateCompany_error_iff.1 ⟨hout, hsame⟩)

theorem answered_deleteCompany (h : d.Sound) (authority : Authority) (limits : Limits)
    (supply : Supply) (id : Uuid) : Answered d limits (.deleteCompany id)
      ((Backend.database.services authority limits).answer supply d (.deleteCompany id)) := by
  rw [answer_deleteCompany, deleteCompany]
  have hlaw := h.deleteCompany id
  rw [show Backend.database.companies.delete id d = d.deleteCompany id from rfl]
  generalize d.deleteCompany id = out at hlaw
  cases hlaw with
  | missing _ => exact .refused
  | removed _ _ _ => exact .reported .deleted

theorem answered (h : d.Sound) (authority : Authority) (limits : Limits) (supply : Supply)
    {r : Request} (hr : r.IsAboutCompanies) :
    Answered d limits r ((Backend.database.services authority limits).answer supply d r) := by
  cases r with
  | createCompany c => exact answered_createCompany h authority limits supply c
  | companyById id => exact .asked trivial
  | companyByName name => exact .asked trivial
  | updateCompany patch => exact answered_updateCompany h authority limits supply patch
  | deleteCompany id => exact answered_deleteCompany h authority limits supply id
  | register username password => exact hr.elim
  | login username password => exact hr.elim
  | authenticate token => exact hr.elim
  | userById id => exact hr.elim

namespace Answered

variable {limits : Limits} {r : Request} {o : Outcome Database Response}

theorem silent (h : Answered d limits r o) {fault : Fault} (hfault : o.result = .error fault) :
    o.announced = [] := by
  cases h with
  | asked _ => rfl
  | refused => rfl
  | reported _ => cases hfault
  | unread _ _ => rfl

theorem exists_written (h : Answered d limits r o) {fault : Fault}
    (hfault : o.result = .error fault) (hchanged : o.state ≠ d) :
    ∃ patch id, r = .updateCompany patch ∧ limits.Passes patch id ∧
      d.WrittenUnread patch fault o.state := by
  cases h with
  | asked _ => exact absurd rfl hchanged
  | refused => exact absurd rfl hchanged
  | reported _ => cases hfault
  | unread hpasses hwritten =>
    obtain rfl := Except.error.inj hfault
    exact ⟨_, _, rfl, hpasses, hwritten⟩

theorem reports (h : Answered d limits r o) (hchanged : o.state ≠ d) {response : Response}
    (hresponse : o.result = .ok response) : Reports r response o.announced := by
  cases h with
  | asked _ => exact absurd rfl hchanged
  | refused => exact absurd rfl hchanged
  | reported hreports =>
    obtain rfl := Except.ok.inj hresponse
    exact hreports
  | unread _ _ => cases hresponse

end Answered

/-- How the answer to a request goes with what became of the table. -/
structure AccountsFor (d : Database) (limits : Limits) (r : Request)
    (o : Outcome Database Response) : Prop where
  silent : ∀ fault, o.result = .error fault → o.announced = []
  changed_iff : ∀ fault d', o.result = .error fault ∧ o.state = d' ∧ d' ≠ d ↔
    ∃ patch id, r = .updateCompany patch ∧ limits.Passes patch id ∧ d.WrittenUnread patch fault d'
  reported : o.state ≠ d → ∀ response, o.result = .ok response → Reports r response o.announced

theorem accountsFor (h : d.Sound) (authority : Authority) (limits : Limits) (supply : Supply)
    {r : Request} (hr : r.IsAboutCompanies) :
    AccountsFor d limits r ((Backend.database.services authority limits).answer supply d r) where
  silent := fun _ hfault => (answered h authority limits supply hr).silent hfault
  changed_iff := by
    intro fault d'
    constructor
    · rintro ⟨hfault, rfl, hchanged⟩
      exact (answered h authority limits supply hr).exists_written hfault hchanged
    · rintro ⟨patch, id, rfl, hpasses, hwritten⟩
      obtain ⟨hout, hne⟩ := h.updateCompany_error_iff.2 hwritten
      rw [answer_updateCompany, updateCompany, Limits.checkPatch_eq_ok_iff.2 hpasses]
      dsimp only
      rw [show Backend.database.companies.update patch d = _ from hout]
      exact ⟨rfl, rfl, hne⟩
  reported := fun hchanged _ hresponse =>
    (answered h authority limits supply hr).reports hchanged hresponse

/-- Whatever rows the table has: what is answered with a fault leaves it as it was, in the
repository and through the service, except for the updates that are written and cannot be read. -/
theorem faults_over_damage (h : d.Sound) :
    (∀ op fault d', Database.companyRepository.perform d op = (.error fault, d') ∧ d' ≠ d ↔
      ∃ patch, op = .update patch ∧ d.WrittenUnread patch fault d') ∧
    ∀ (authority : Authority) (limits : Limits) (supply : Supply) (r : Request), r.IsAboutCompanies →
      AccountsFor d limits r ((Backend.database.services authority limits).answer supply d r) :=
  ⟨fun _ _ _ => h.perform_error_iff,
    fun authority limits supply _ hr => accountsFor h authority limits supply hr⟩

/-- The only company is of a legal form that does not exist. -/
def damaged : Database where
  companies := some [⟨.ofNat 17, "Acme", none, 5, true, "Guild", .ofNat 19, none⟩]
  users := some []

theorem sound_damaged : damaged.Sound where
  isOpen := rfl
  companies := ⟨_, rfl, by decide, by decide⟩
  users := ⟨_, rfl, .nil⟩

def renameToBeta : Company :=
  { Company.patch (.ofNat 17) (.ofNat 19) with name := .value "Beta" }

def betaAnswer : Outcome Database Response :=
  (Backend.database.services ⟨"acme", ⟨"k"⟩, 900, by decide, by decide⟩ {}).answer
    ⟨⟨1, by decide, by decide⟩, .ofNat 18, []⟩ damaged (.updateCompany renameToBeta)

theorem faults_over_damage_damaged :
    damaged.Sound ∧ (Request.updateCompany renameToBeta).IsAboutCompanies ∧
      AccountsFor damaged {} (.updateCompany renameToBeta) betaAnswer :=
  ⟨sound_damaged, trivial, (faults_over_damage sound_damaged).2 _ _ _ _ trivial⟩

/-- The company is renamed, in the repository and through the service, and the answer is a fault. -/
theorem renamed_with_fault : damaged.Sound ∧
    (Database.companyRepository.perform damaged (.update renameToBeta)).1 =
      .error (.infrastructure (.unknownKind (.ofNat 17) "Guild")) ∧
    (Database.companyRepository.perform damaged (.update renameToBeta)).2 ≠ damaged ∧
    betaAnswer.result = .error (.infrastructure (.unknownKind (.ofNat 17) "Guild")) ∧
    betaAnswer.state ≠ damaged ∧ betaAnswer.announced = [] := by
  refine ⟨sound_damaged, ?_, ?_, ?_, ?_, rfl⟩
  all_goals decide +kernel

end TradeRegister.Service

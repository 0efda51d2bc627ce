import TradeRegister.Proofs.Service.Gate
import TradeRegister.Proofs.Service.Validation
import TradeRegister.Proofs.Store.Blame

/-! # Two layers of validation

A record is checked by the service, and once more by storage when it becomes columns. What the
service lets pass, storage can write: a new record sets every column that a row needs, and a partial
update always writes its editor. So no fault of storage blames the record, and storage is never asked
to write nothing.
-/

namespace TradeRegister

namespace Store

/-! ## Columns -/

def Column.Takes {α : Type} (col : Column α) (x : Attribute α) : Prop :=
  ∃ a, x = .value a ∧ col = .set a

namespace CompanyWrite

/-- Every column that must be given is set to what the record supplies; the identifier may have been
assigned. -/
structure SetsSupplied (w : CompanyWrite) (c : Company) (fresh : Uuid) : Prop where
  id : w.id.Takes c.id ∨ c.id = .unset ∧ w.id = .set fresh
  name : w.name.Takes c.name
  employeeCount : w.employeeCount.Takes c.employeeCount
  registered : w.registered.Takes c.registered
  kind : w.kind.Takes (c.kind.map CompanyKind.name)
  createdBy : w.createdBy.Takes c.createdBy

theorem setsSupplied_forNew {c : Company} {fresh : Uuid} {r : CompanyRow}
    (h : r.Records c fresh) : (forNew c r).SetsSupplied c fresh where
  id := by
    rcases h.id with hid | ⟨hunset, hid⟩
    · exact .inl ⟨_, hid, rfl⟩
    · exact .inr ⟨hunset, congrArg Column.set hid⟩
  name := ⟨_, h.name, rfl⟩
  employeeCount := ⟨_, h.employeeCount, rfl⟩
  registered := ⟨_, h.registered, rfl⟩
  kind := by
    obtain ⟨kind, hkind, hform⟩ := h.kind
    exact ⟨_, Attribute.map_eq_value_iff.2 ⟨kind, hkind, rfl⟩, congrArg Column.set hform⟩
  createdBy := ⟨_, h.createdBy, rfl⟩

theorem isChanged_forPatch {c : Company} {id editor : Uuid} (h : c.updatedBy = .value editor) :
    (forPatch id c).isChanged = true := by
  have hset : (forPatch id c).updatedBy.isSet = true := by
    rw [forPatch, h]
    rfl
  rw [isChanged, hset, Bool.or_true]

end CompanyWrite

/-! ## Updates that write nothing -/

namespace Database

/-- An update that answers with `idle` where there is nothing to write. -/
def updateCompanyOr (idle : Uuid → Database → Except Fault Company × Database) (c : Company)
    (d : Database) : Except Fault Company × Database :=
  match CompanyWrite.ofPatch c with
  | .error fault => (.error fault, d)
  | .ok (id, w) =>
    if w.isChanged then
      let (result, d) := d.writeCompany id w
      (readCompany result, d)
    else idle id d

def companyRepositoryOr (idle : Uuid → Database → Except Fault Company × Database) :
    CompanyRepository Database :=
  { companyRepository with update := updateCompanyOr idle }

/-- The shortcut is a lookup. -/
theorem updateCompany_eq_or : updateCompany = updateCompanyOr fun id d => (d.companyById id, d) :=
  rfl

theorem updateCompanyOr_of_isChanged (d : Database) {patch : Company} {id : Uuid} {w : CompanyWrite}
    (h : CompanyWrite.ofPatch patch = .ok (id, w)) (hw : w.isChanged = true)
    (idle : Uuid → Database → Except Fault Company × Database) :
    updateCompanyOr idle patch d = d.updateCompany patch := by
  simp only [updateCompany_eq_or, updateCompanyOr, h, hw, if_true]

end Database
end Store

namespace Service

open Store

variable {σ : Type}

/-! ## Rules of the columns -/

/-- The rules under which a new record becomes columns, in the order in which they are told. -/
def Rule.forNew (c : Company) : List Rule :=
  List.flatten
    [keeps "id" c.id,
      requires "name" c.name,
      requires "employee_count" c.employeeCount,
      requires "registered" c.registered,
      requires "company_type" c.kind,
      requires "created_by" c.createdBy,
      keeps "updated_by" c.updatedBy]

def Rule.forPatch (c : Company) : List Rule :=
  List.flatten
    [requires "id" c.id,
      keeps "name" c.name,
      keeps "employee_count" c.employeeCount,
      keeps "registered" c.registered,
      keeps "company_type" c.kind,
      keeps "updated_by" c.updatedBy]

theorem Rule.keeps_map {α β : Type} (field : String) (f : α → β) (x : Attribute α) :
    keeps field (x.map f) = keeps field x := by
  cases x <;> rfl

theorem Rule.mem_requires_of_keeps {α : Type} {field : String} {x : Attribute α} {r : Rule}
    (h : r ∈ keeps field x) : r ∈ requires field x := List.mem_cons_of_mem _ h

theorem Rule.forNew_subset (l : Limits) (c : Company) : Rule.forNew c ⊆ l.newRules c := by
  intro r hr
  simp only [forNew, Limits.newRules, List.flatten_cons, List.flatten_nil, List.append_nil,
    List.mem_append] at hr ⊢
  tauto

theorem Rule.forPatch_subset (l : Limits) (c : Company) : Rule.forPatch c ⊆ l.patchRules c := by
  intro r hr
  have heditor : r ∈ keeps "updated_by" c.updatedBy → r ∈ requires "updated_by" c.updatedBy :=
    mem_requires_of_keeps
  simp only [forPatch, Limits.patchRules, List.flatten_cons, List.flatten_nil, List.append_nil,
    List.mem_append] at hr ⊢
  tauto

namespace Decides

theorem map {α β : Type} {rules : List Rule} {x : Except Fault α} (h : Decides rules x)
    (f : α → β) : Decides rules (x.map f) := by
  cases h with
  | refused hbroken => exact .refused hbroken
  | passed hpassed => exact .passed hpassed

theorem ofAttribute {α : Type} (field : String) (x : Attribute α) :
    Decides (Rule.keeps field x) (Column.ofAttribute field x) := by
  cases x with
  | unset => exact .passed rfl
  | cleared => exact .refused (r := ⟨field, "cannot be cleared", false⟩) rfl
  | value a => exact .passed rfl

theorem ofSettable {α : Type} (field : String) (x : Attribute α) :
    Decides (Rule.keeps field x) (Column.ofSettable field x) := by
  cases x with
  | unset => exact .passed rfl
  | cleared => exact .refused (r := ⟨field, "cannot be cleared", false⟩) rfl
  | value a => exact .passed rfl

theorem assignId (fresh : Uuid) (x : Attribute Uuid) :
    Decides (Rule.keeps "id" x) (Store.assignId fresh x) :=
  (rejectCleared "id" x).map _

theorem ofNew (fresh : Uuid) (c : Company) :
    Decides (Rule.forNew c) (CompanyWrite.ofNew fresh c) := by
  refine (assignId fresh c.id).bind fun id _ => ?_
  refine (require "name" c.name).bind fun name _ => ?_
  refine (require "employee_count" c.employeeCount).bind fun n _ => ?_
  refine (require "registered" c.registered).bind fun registered _ => ?_
  refine (require "company_type" c.kind).bind fun kind _ => ?_
  refine (require "created_by" c.createdBy).bind fun creator _ => ?_
  refine (ofSettable "updated_by" c.updatedBy).bind fun editor _ => ?_
  exact .nil _

theorem ofPatch (c : Company) : Decides (Rule.forPatch c) (CompanyWrite.ofPatch c) := by
  refine (require "id" c.id).bind fun id _ => ?_
  refine (ofAttribute "name" c.name).bind fun name _ => ?_
  refine (ofAttribute "employee_count" c.employeeCount).bind fun n _ => ?_
  refine (ofAttribute "registered" c.registered).bind fun registered _ => ?_
  rw [← Rule.keeps_map "company_type" CompanyKind.name]
  refine (ofAttribute "company_type" _).bind fun kind _ => ?_
  refine (ofSettable "updated_by" c.updatedBy).bind fun editor _ => ?_
  exact .nil _

end Decides

/-! ## Behind the service -/

theorem Limits.Passes.ofPatch_eq {l : Limits} {c : Company} {id : Uuid} (h : l.Passes c id) :
    CompanyWrite.ofPatch c = .ok (id, .forPatch id c) :=
  CompanyWrite.ofPatch_eq_ok_iff.2 ⟨h.id, h.isWritable, rfl⟩

theorem Limits.Passes.isChanged {l : Limits} {c : Company} {id : Uuid} (h : l.Passes c id) :
    (CompanyWrite.forPatch id c).isChanged = true := by
  obtain ⟨editor, heditor, _⟩ := h.editor
  exact CompanyWrite.isChanged_forPatch heditor

/-- A repository in whose faults, behind the service, the record is never to blame. -/
structure Trusts (repo : CompanyRepository σ) (l : Limits) (s : σ) : Prop where
  create : ∀ fresh c, l.checkNew c = .ok () → Refuses Fault.IsOfStorage (repo.create fresh c s).1
  named : ∀ fresh c made, (repo.create fresh c s).1 = .ok made → made.id.isValue = true
  update : ∀ patch id, l.checkPatch patch = .ok id →
    Refuses Fault.IsOfStorage (repo.update patch s).1
  delete : ∀ id, Refuses Fault.IsOfStorage (repo.delete id s).1
  byId : ∀ id, Refuses Fault.IsOfStorage (repo.byId id s)
  byName : ∀ n, Refuses Fault.IsOfStorage (repo.byName n s)

/-- What callers of the service are told about a record is what the service found. -/
structure TellsOwn (repo : CompanyRepository σ) (l : Limits) (s : σ) : Prop where
  create : ∀ fresh c fault, fault.IsValidation →
    ((createCompany repo l fresh c s).result = .error fault ↔ l.checkNew c = .error fault)
  update : ∀ patch fault, fault.IsValidation →
    ((updateCompany repo l patch s).result = .error fault ↔ l.checkPatch patch = .error fault)
  delete : ∀ id fault, fault.IsValidation → (deleteCompany repo id s).result ≠ .error fault

theorem trusts_memory (l : Limits) (m : Memory) : Trusts Memory.companyRepository l m where
  create := by
    intro fresh c hcheck
    obtain ⟨row, hrow⟩ := (Limits.checkNew_eq_ok_iff.1 hcheck).exists_records fresh
    exact (m.ofRows_createCompany (CompanyWrite.ofNew_eq_ok_iff.2 ⟨row, hrow, rfl⟩)).isOfStorage
  named := fun _ _ _ => m.named_createCompany
  update := by
    intro patch id hcheck
    exact (m.ofRows_updateCompany (Limits.checkPatch_eq_ok_iff.1 hcheck).ofPatch_eq).isOfStorage
  delete := fun id => (m.ofRows_deleteCompany id).isOfStorage
  byId := fun id => (m.ofRows_companyById id).isOfStorage
  byName := fun n => (m.ofRows_companyByName n).isOfStorage

theorem trusts_database (l : Limits) (d : Database) : Trusts Database.companyRepository l d where
  create := by
    intro fresh c hcheck
    obtain ⟨row, hrow⟩ := (Limits.checkNew_eq_ok_iff.1 hcheck).exists_records fresh
    exact d.ofStorage_createCompany (CompanyWrite.ofNew_eq_ok_iff.2 ⟨row, hrow, rfl⟩)
  named := fun _ _ _ => d.named_createCompany
  update := by
    intro patch id hcheck
    exact d.ofStorage_updateCompany (Limits.checkPatch_eq_ok_iff.1 hcheck).ofPatch_eq
  delete := d.ofStorage_deleteCompany
  byId := fun _ => Database.ofStorage_readCompany _
  byName := fun _ => Database.ofStorage_readCompany _

theorem Commits.ofStorage {answer : Except Fault Company × σ} {o : Outcome σ Company}
    (h : Commits answer o) (hanswer : Refuses Fault.IsOfStorage answer.1)
    (hnamed : ∀ made, answer.1 = .ok made → made.id.isValue = true) :
    Refuses Fault.IsOfStorage o.result := by
  cases h with
  | failed hfault => exact hanswer.passOn hfault
  | stored _ => exact .ok _
  | unnamed hmade hnone => cases hnone.symm.trans (hnamed _ hmade)

namespace Trusts

variable {repo : CompanyRepository σ} {l : Limits} {s : σ}

theorem tellsOwn (h : Trusts repo l s) : TellsOwn repo l s where
  create := by
    intro fresh c fault hfault
    cases hcheck : l.checkNew c with
    | error fault' =>
      have hrefused : createCompany repo l fresh c s = .refused fault' s := by
        rw [createCompany, hcheck]
      simp [hrefused, Outcome.refused]
    | ok u =>
      have hlate := (commits_createCompany hcheck fresh repo s).ofStorage (h.create fresh c hcheck)
        (h.named fresh c)
      exact iff_of_false (fun hresult => hlate fault hresult hfault) (by rintro ⟨⟩)
  update := by
    intro patch fault hfault
    cases hcheck : l.checkPatch patch with
    | error fault' =>
      have hrefused : updateCompany repo l patch s = .refused fault' s := by
        rw [updateCompany, hcheck]
      simp [hrefused, Outcome.refused]
    | ok id =>
      have hlate : Refuses Fault.IsOfStorage (updateCompany repo l patch s).result := by
        have hrepo := h.update patch id hcheck
        rw [updateCompany, hcheck]
        dsimp only
        generalize repo.update patch s = answer at hrepo
        obtain ⟨result, next⟩ := answer
        cases result with
        | error fault => exact hrepo
        | ok made => exact .ok _
      exact iff_of_false (fun hresult => hlate fault hresult hfault) (by rintro ⟨⟩)
  delete := by
    intro id fault hfault hresult
    refine h.delete id fault ?_ hfault
    rw [deleteCompany] at hresult
    generalize repo.delete id s = answer at hresult ⊢
    obtain ⟨result, next⟩ := answer
    cases result with
    | error fault' => exact hresult
    | ok u => cases hresult

end Trusts

/-- How the checks of the service relate to what storage can write. -/
structure LayersAgree (l : Limits) : Prop where
  decided : ∀ fresh c, Decides (Rule.forNew c) (CompanyWrite.ofNew fresh c) ∧
    Decides (Rule.forPatch c) (CompanyWrite.ofPatch c)
  /-- The service asks for all that the columns ask for. -/
  included : ∀ c, Rule.forNew c ⊆ l.newRules c ∧ Rule.forPatch c ⊆ l.patchRules c
  new : ∀ c, l.checkNew c = .ok () → ∀ fresh, ∃ w, CompanyWrite.ofNew fresh c = .ok w ∧
    w.SetsSupplied c fresh
  patch : ∀ c id, l.checkPatch c = .ok id → ∃ w, CompanyWrite.ofPatch c = .ok (id, w) ∧
    w.createdBy = .notSet ∧ w.isChanged = true
  memory : ∀ m, Trusts Memory.companyRepository l m ∧ TellsOwn Memory.companyRepository l m
  database : ∀ d, Trusts Database.companyRepository l d ∧ TellsOwn Database.companyRepository l d
  /-- Whatever the database did in place of writing nothing. -/
  neverIdle : ∀ idle patch d, updateCompany (Database.companyRepositoryOr idle) l patch d =
    updateCompany Database.companyRepository l patch d

theorem layersAgree (l : Limits) : LayersAgree l where
  decided fresh c := ⟨.ofNew fresh c, .ofPatch c⟩
  included c := ⟨Rule.forNew_subset l c, Rule.forPatch_subset l c⟩
  new := by
    intro c hcheck fresh
    obtain ⟨row, hrow⟩ := (Limits.checkNew_eq_ok_iff.1 hcheck).exists_records fresh
    exact ⟨_, CompanyWrite.ofNew_eq_ok_iff.2 ⟨row, hrow, rfl⟩, CompanyWrite.setsSupplied_forNew hrow⟩
  patch := by
    intro c id hcheck
    have hpasses := Limits.checkPatch_eq_ok_iff.1 hcheck
    exact ⟨_, hpasses.ofPatch_eq, rfl, hpasses.isChanged⟩
  memory := fun m => ⟨trusts_memory l m, (trusts_memory l m).tellsOwn⟩
  database := fun d => ⟨trusts_database l d, (trusts_database l d).tellsOwn⟩
  neverIdle := by
    intro idle patch d
    cases hcheck : l.checkPatch patch with
    | error fault => rw [updateCompany, updateCompany, hcheck]
    | ok id =>
      have hpasses := Limits.checkPatch_eq_ok_iff.1 hcheck
      have hsame : (Database.companyRepositoryOr idle).update patch d =
          Database.companyRepository.update patch d :=
        Database.updateCompanyOr_of_isChanged d hpasses.ofPatch_eq hpasses.isChanged idle
      rw [updateCompany, updateCompany, hcheck]
      dsimp only
      rw [hsame]

end Service
end TradeRegister

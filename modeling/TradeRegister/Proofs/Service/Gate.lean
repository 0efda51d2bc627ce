import TradeRegister.Proofs.Store.Effects
import TradeRegister.Proofs.Uuid
import TradeRegister.Service.Companies

/-! # Rules before storage

A new record and a partial update are each under a list of rules. A record that breaks one is refused
for the first it breaks, whatever is behind the service; a record that obeys them all is handed to
the repository, once and as it is.
-/

namespace TradeRegister

namespace Store

variable {σ : Type}

/-- The repository with a record of the changes that it is asked for. -/
def CompanyRepository.recorded (repo : CompanyRepository σ) :
    CompanyRepository (σ × List Operation) where
  create fresh c s := ((repo.create fresh c s.1).1, (repo.create fresh c s.1).2,
    s.2 ++ [.create fresh c])
  byId id s := repo.byId id s.1
  byName name s := repo.byName name s.1
  update patch s := ((repo.update patch s.1).1, (repo.update patch s.1).2, s.2 ++ [.update patch])
  delete id s := ((repo.delete id s.1).1, (repo.delete id s.1).2, s.2 ++ [.delete id])

end Store

namespace Service

open Store (CompanyRepository Operation)

variable {α β : Type}

/-- What is asked of one attribute, and how a record that breaks it is told. -/
structure Rule where
  field : String
  reason : String
  holds : Bool
deriving DecidableEq

namespace Rule

def fault (r : Rule) : Fault := .validation r.field r.reason

def firstBroken? (rules : List Rule) : Option Rule := rules.find? fun r => !r.holds

theorem firstBroken?_append (rules rules' : List Rule) :
    firstBroken? (rules ++ rules') = (firstBroken? rules).or (firstBroken? rules') :=
  List.find?_append

theorem firstBroken?_eq_none_iff {rules : List Rule} :
    firstBroken? rules = none ↔ ∀ r ∈ rules, r.holds = true := by
  simp [firstBroken?, List.find?_eq_none]

theorem exists_firstBroken? {rules : List Rule} (h : ∃ r ∈ rules, r.holds = false) :
    ∃ r, firstBroken? rules = some r := by
  refine Option.ne_none_iff_exists'.1 fun hnone => ?_
  obtain ⟨r, hr, hbroken⟩ := h
  exact Bool.false_ne_true (hbroken.symm.trans (firstBroken?_eq_none_iff.1 hnone r hr))

/-! ## Kinds of rules -/

/-- The attribute has a value. -/
def requires (field : String) (x : Attribute α) : List Rule :=
  [⟨field, "is required", !x.isUnset⟩, ⟨field, "cannot be cleared", !x.isCleared⟩]

/-- The attribute may be left out, but not cleared. -/
def keeps (field : String) (x : Attribute α) : List Rule :=
  [⟨field, "cannot be cleared", !x.isCleared⟩]

def nameRules (l : Limits) (x : Attribute String) : List Rule :=
  [⟨"name", "must not be empty", x.value?.all fun name => !Text.isBlank name⟩,
    ⟨"name", "exceeds maximum length of " ++ toString l.maxNameLength,
      x.value?.all fun name => name.length ≤ l.maxNameLength⟩]

def descriptionRules (l : Limits) (x : Attribute String) : List Rule :=
  [⟨"description", "exceeds maximum length of " ++ toString l.maxDescriptionLength,
    x.value?.all fun text => text.length ≤ l.maxDescriptionLength⟩]

def employeeCountRules (x : Attribute Int32) : List Rule :=
  [⟨"employee_count", "must be greater than or equal to 0", x.value?.all fun n => 0 ≤ n⟩]

def actorRules (field : String) (x : Attribute Uuid) : List Rule :=
  [⟨field, "must not be nil", x.value?.all fun u => u ≠ .nil⟩]

end Rule

namespace Limits

open Rule (requires keeps nameRules descriptionRules employeeCountRules actorRules)

/-- The rules for new records, in the order in which they are told. -/
def newRules (l : Limits) (c : Company) : List Rule :=
  List.flatten
    [keeps "id" c.id,
      requires "name" c.name, nameRules l c.name,
      descriptionRules l c.description,
      requires "employee_count" c.employeeCount, employeeCountRules c.employeeCount,
      requires "registered" c.registered,
      requires "company_type" c.kind,
      requires "created_by" c.createdBy, actorRules "created_by" c.createdBy,
      keeps "updated_by" c.updatedBy]

/-- The rules for partial updates, in the order in which they are told. -/
def patchRules (l : Limits) (c : Company) : List Rule :=
  List.flatten
    [requires "id" c.id,
      requires "updated_by" c.updatedBy, actorRules "updated_by" c.updatedBy,
      keeps "name" c.name, nameRules l c.name,
      descriptionRules l c.description,
      keeps "employee_count" c.employeeCount, employeeCountRules c.employeeCount,
      keeps "registered" c.registered,
      keeps "company_type" c.kind,
      [⟨"created_by", "cannot be changed", c.createdBy.isUnset⟩]]

end Limits

/-! ## Checks -/

/-- The rules decide the check: it fails for the first that is broken, and otherwise succeeds. -/
inductive Decides (rules : List Rule) : Except Fault α → Prop
  | refused {r : Rule} (h : Rule.firstBroken? rules = some r) : Decides rules (.error r.fault)
  | passed {a : α} (h : Rule.firstBroken? rules = none) : Decides rules (.ok a)

namespace Decides

variable {rules rules' : List Rule} {x : Except Fault α}

/-- One check after another. -/
theorem bind (h : Decides rules x) {f : α → Except Fault β}
    (hf : ∀ a, x = .ok a → Decides rules' (f a)) : Decides (rules ++ rules') (x >>= f) := by
  cases h with
  | refused hbroken => exact .refused (by rw [Rule.firstBroken?_append, hbroken, Option.some_or])
  | @passed a hpassed =>
    have hnext := hf a rfl
    have happend : Rule.firstBroken? (rules ++ rules') = Rule.firstBroken? rules' := by
      rw [Rule.firstBroken?_append, hpassed, Option.none_or]
    change Decides (rules ++ rules') (f a)
    generalize f a = y at hnext
    cases hnext with
    | refused hbroken => exact .refused (happend.trans hbroken)
    | passed hpassed => exact .passed (happend.trans hpassed)

theorem eq_error (h : Decides rules x) {r : Rule} (hr : Rule.firstBroken? rules = some r) :
    x = .error r.fault := by
  cases h with
  | refused hbroken => rw [Option.some.inj (hr.symm.trans hbroken)]
  | passed hpassed => cases hr.symm.trans hpassed

theorem exists_ok (h : Decides rules x) (hr : ∀ r ∈ rules, r.holds = true) : ∃ a, x = .ok a := by
  cases h with
  | refused hbroken => cases (Rule.firstBroken?_eq_none_iff.2 hr).symm.trans hbroken
  | passed _ => exact ⟨_, rfl⟩

theorem discarded (h : Decides rules x) : Decides rules (discard x) := by
  cases h with
  | refused hbroken => exact .refused hbroken
  | passed hpassed => exact .passed hpassed

theorem require (field : String) (x : Attribute α) :
    Decides (Rule.requires field x) (x.require field) := by
  cases x with
  | unset => exact .refused (r := ⟨field, "is required", false⟩) rfl
  | cleared => exact .refused (r := ⟨field, "cannot be cleared", false⟩) rfl
  | value a => exact .passed rfl

theorem rejectCleared (field : String) (x : Attribute α) :
    Decides (Rule.keeps field x) (x.rejectCleared field) := by
  cases x with
  | unset => exact .passed rfl
  | cleared => exact .refused (r := ⟨field, "cannot be cleared", false⟩) rfl
  | value a => exact .passed rfl

theorem nil (a : α) : Decides [] (.ok a) := .passed rfl

theorem cons {r : Rule} (h : Decides rules x) :
    Decides (r :: rules) (if r.holds then x else .error r.fault) := by
  cases hr : r.holds with
  | false => exact .refused (by simp [Rule.firstBroken?, hr])
  | true =>
    have htail : Rule.firstBroken? (r :: rules) = Rule.firstBroken? rules := by
      simp [Rule.firstBroken?, hr]
    cases h with
    | refused hbroken => exact .refused (htail.trans hbroken)
    | passed hpassed => exact .passed (htail.trans hpassed)

theorem checkName (l : Limits) (name : String) :
    Decides (Rule.nameRules l (.value name)) (l.checkName name) := by
  have hcheck : l.checkName name =
      if !Text.isBlank name then
        if decide (name.length ≤ l.maxNameLength) then .ok ()
        else .error (.validation "name" ("exceeds maximum length of " ++ toString l.maxNameLength))
      else .error (.validation "name" "must not be empty") := by
    simp only [Limits.checkName, Limits.tooLong, ← Nat.not_le, ite_not, decide_eq_true_eq,
      Bool.not_eq_eq_eq_not, Bool.not_true]
    cases Text.isBlank name <;> rfl
  rw [hcheck]
  exact .cons (.cons (.nil ()))

theorem checkDescription (l : Limits) (x : Attribute String) :
    Decides (Rule.descriptionRules l x) (l.checkDescription x) := by
  cases x with
  | unset => exact .passed rfl
  | cleared => exact .passed rfl
  | value text =>
    have hcheck : l.checkDescription (.value text) =
        if decide (text.length ≤ l.maxDescriptionLength) then .ok ()
        else .error (Limits.tooLong "description" l.maxDescriptionLength) := by
      simp only [Limits.checkDescription, ← Nat.not_le, ite_not, decide_eq_true_eq]
    rw [hcheck]
    exact .cons (.nil ())

theorem checkEmployeeCount (n : Int32) :
    Decides (Rule.employeeCountRules (.value n)) (Limits.checkEmployeeCount n) := by
  have hcheck : Limits.checkEmployeeCount n =
      if decide (0 ≤ n) then .ok ()
      else .error (.validation "employee_count" "must be greater than or equal to 0") := by
    simp only [Limits.checkEmployeeCount, ← Int32.not_le, ite_not, decide_eq_true_eq]
  rw [hcheck]
  exact .cons (.nil ())

theorem checkActor (field : String) (u : Uuid) :
    Decides (Rule.actorRules field (.value u)) (Limits.checkActor field u) := by
  have hcheck : Limits.checkActor field u =
      if decide (u ≠ .nil) then .ok () else .error (.validation field "must not be nil") := by
    simp only [Limits.checkActor, decide_eq_true_eq, ← Uuid.isNil_eq_false_iff]
    cases u.isNil <;> rfl
  rw [hcheck]
  exact .cons (.nil ())

/-- Rules that only a value can break. -/
theorem given {rules : Attribute α → List Rule} {check : α → Except Fault Unit}
    (hunset : Rule.firstBroken? (rules .unset) = none)
    (hcleared : Rule.firstBroken? (rules .cleared) = none)
    (hvalue : ∀ a, Decides (rules (.value a)) (check a)) (x : Attribute α) :
    Decides (rules x) (Limits.checkGiven check x.value?) := by
  cases x with
  | unset => exact .passed hunset
  | cleared => exact .passed hcleared
  | value a => exact hvalue a

theorem isUnset (field reason : String) (x : Attribute α) (a : β) :
    Decides [⟨field, reason, x.isUnset⟩]
      (if x.isUnset then .ok a else .error (.validation field reason)) :=
  .cons (.nil a)

theorem checkNew (l : Limits) (c : Company) : Decides (l.newRules c) (l.checkNew c) := by
  refine (rejectCleared "id" c.id).discarded.bind fun _ _ => ?_
  refine (require "name" c.name).bind fun name hname => ?_
  rw [Attribute.require_eq_ok_iff.1 hname]
  refine (checkName l name).bind fun _ _ => ?_
  refine (checkDescription l c.description).bind fun _ _ => ?_
  refine (require "employee_count" c.employeeCount).bind fun n hcount => ?_
  rw [Attribute.require_eq_ok_iff.1 hcount]
  refine (checkEmployeeCount n).bind fun _ _ => ?_
  refine (require "registered" c.registered).discarded.bind fun _ _ => ?_
  refine (require "company_type" c.kind).discarded.bind fun _ _ => ?_
  refine (require "created_by" c.createdBy).bind fun creator hcreator => ?_
  rw [Attribute.require_eq_ok_iff.1 hcreator]
  refine (checkActor "created_by" creator).bind fun _ _ => ?_
  exact (rejectCleared "updated_by" c.updatedBy).discarded

theorem checkPatch (l : Limits) (c : Company) : Decides (l.patchRules c) (l.checkPatch c) := by
  refine (require "id" c.id).bind fun id _ => ?_
  refine (require "updated_by" c.updatedBy).bind fun editor heditor => ?_
  rw [Attribute.require_eq_ok_iff.1 heditor]
  refine (checkActor "updated_by" editor).bind fun _ _ => ?_
  refine (rejectCleared "name" c.name).bind fun name hname => ?_
  rw [← (Attribute.rejectCleared_eq_ok_iff.1 hname).2]
  refine (given rfl rfl (checkName l) c.name).bind fun _ _ => ?_
  refine (checkDescription l c.description).bind fun _ _ => ?_
  refine (rejectCleared "employee_count" c.employeeCount).bind fun n hcount => ?_
  rw [← (Attribute.rejectCleared_eq_ok_iff.1 hcount).2]
  refine (given rfl rfl checkEmployeeCount c.employeeCount).bind fun _ _ => ?_
  refine (rejectCleared "registered" c.registered).discarded.bind fun _ _ => ?_
  refine (rejectCleared "company_type" c.kind).discarded.bind fun _ _ => ?_
  exact isUnset "created_by" "cannot be changed" c.createdBy id

end Decides

/-! ## Services -/

/-- Refused as invalid, with no change asked of the repository. -/
def IsTurnedAway {σ : Type} (o : Outcome (σ × List Operation) Company) : Prop :=
  o.state.2 = [] ∧ ∃ field reason, o.result = .error (.validation field reason)

/-- A service operation stands behind the rules: the first that is broken is what the caller is told,
and only where none is the repository is asked, for this operation and once. -/
structure Gated (rules : List Rule) (op : Operation)
    (act : ∀ σ : Type, CompanyRepository σ → σ → Outcome σ Company) : Prop where
  turnedAway_iff : ∀ (σ : Type) (repo : CompanyRepository σ) (s : σ),
    IsTurnedAway (act _ repo.recorded (s, [])) ↔ ∃ r ∈ rules, r.holds = false
  /-- Nothing is stored or announced, and neither the repository nor its state matter. -/
  refused : ∀ r, Rule.firstBroken? rules = some r →
    ∀ (σ : Type) (repo : CompanyRepository σ) (s : σ), act σ repo s = .refused r.fault s
  asked : (∀ r ∈ rules, r.holds = true) → ∀ (σ : Type) (repo : CompanyRepository σ) (s : σ),
    (act _ repo.recorded (s, [])).state = ((repo.perform s op).2, [op])
  /-- A fault of the repository is passed on, and so is the record it answers with. -/
  passed : (∀ r ∈ rules, r.holds = true) → ∀ (σ : Type) (repo : CompanyRepository σ) (s : σ),
    (∀ fault, (repo.perform s op).1 = .error fault → (act σ repo s).result = .error fault) ∧
      ∀ made, (repo.perform s op).1 = .ok (some made) → made.id.isValue = true →
        (act σ repo s).result = .ok made

/-- What a service makes of the repository's answer: a fault is passed on, and so is a record unless
it lacks its identifier. -/
inductive Commits {σ : Type} (answer : Except Fault Company × σ) : Outcome σ Company → Prop
  | failed {fault : Fault} (h : answer.1 = .error fault) : Commits answer (.refused fault answer.2)
  | stored {made : Company} {announced : List Delivery.Mutation} (h : answer.1 = .ok made) :
    Commits answer ⟨.ok made, answer.2, announced⟩
  | unnamed {made : Company} {fault : Fault} (h : answer.1 = .ok made)
    (hid : made.id.isValue = false) : Commits answer (.refused fault answer.2)

section Commits

variable {σ : Type} {answer : Except Fault Company × σ} {o : Outcome σ Company} {limits : Limits}

theorem Commits.state_eq (h : Commits answer o) : o.state = answer.2 := by
  cases h <;> rfl

theorem Commits.result_of_error (h : Commits answer o) {fault : Fault}
    (hfault : answer.1 = .error fault) : o.result = .error fault := by
  cases h with
  | failed h => exact congrArg _ (Except.error.inj (h.symm.trans hfault))
  | stored h => cases h.symm.trans hfault
  | unnamed h _ => cases h.symm.trans hfault

theorem Commits.result_of_ok (h : Commits answer o) {made : Company} (hmade : answer.1 = .ok made)
    (hid : made.id.isValue = true) : o.result = .ok made := by
  cases h with
  | failed h => cases h.symm.trans hmade
  | stored h => exact congrArg _ (Except.ok.inj (h.symm.trans hmade))
  | unnamed h hnone =>
    obtain rfl := Except.ok.inj (h.symm.trans hmade)
    cases hnone.symm.trans hid

theorem commits_createCompany {c : Company} {u : Unit} (h : limits.checkNew c = .ok u) (fresh : Uuid)
    (repo : CompanyRepository σ) (s : σ) :
    Commits (repo.create fresh c s) (createCompany repo limits fresh c s) := by
  rw [createCompany, h]
  dsimp only
  generalize repo.create fresh c s = answer
  obtain ⟨result, next⟩ := answer
  cases result with
  | error fault => exact .failed rfl
  | ok made =>
    dsimp only
    cases hid : made.id with
    | unset => exact .unnamed rfl (hid ▸ rfl)
    | cleared => exact .unnamed rfl (hid ▸ rfl)
    | value id => exact .stored rfl

theorem commits_updateCompany {patch : Company} {id : Uuid} (h : limits.checkPatch patch = .ok id)
    (repo : CompanyRepository σ) (s : σ) :
    Commits (repo.update patch s) (updateCompany repo limits patch s) := by
  rw [updateCompany, h]
  dsimp only
  generalize repo.update patch s = answer
  obtain ⟨result, next⟩ := answer
  cases result with
  | error fault => exact .failed rfl
  | ok made => exact .stored rfl

end Commits

/-- What is refused by the rules, and otherwise commits the operation, is gated. -/
theorem Gated.of_commits {rules : List Rule} {op : Operation}
    {act : ∀ σ : Type, CompanyRepository σ → σ → Outcome σ Company}
    (commit : ∀ σ : Type, CompanyRepository σ → σ → Except Fault Company × σ)
    (hperform : ∀ (σ : Type) (repo : CompanyRepository σ) (s : σ),
      repo.perform s op = ((commit σ repo s).1.map some, (commit σ repo s).2))
    (hrecorded : ∀ (σ : Type) (repo : CompanyRepository σ) (s : σ),
      (commit _ repo.recorded (s, [])).2 = ((commit σ repo s).2, [op]))
    (hrefused : ∀ r, Rule.firstBroken? rules = some r →
      ∀ (σ : Type) (repo : CompanyRepository σ) (s : σ), act σ repo s = .refused r.fault s)
    (hcommits : (∀ r ∈ rules, r.holds = true) →
      ∀ (σ : Type) (repo : CompanyRepository σ) (s : σ), Commits (commit σ repo s) (act σ repo s)) :
    Gated rules op act := by
  have hasked : (∀ r ∈ rules, r.holds = true) → ∀ (σ : Type) (repo : CompanyRepository σ) (s : σ),
      (act _ repo.recorded (s, [])).state = ((repo.perform s op).2, [op]) := by
    intro hall σ repo s
    rw [(hcommits hall _ repo.recorded (s, [])).state_eq, hrecorded, hperform]
  refine ⟨fun σ repo s => ⟨?_, ?_⟩, hrefused, hasked, fun hall σ repo s => ⟨?_, ?_⟩⟩
  · rintro ⟨hnothing, _⟩
    by_contra hnone
    rw [hasked (by simpa using hnone)] at hnothing
    cases hnothing
  · intro hbroken
    obtain ⟨r, hr⟩ := Rule.exists_firstBroken? hbroken
    rw [hrefused r hr]
    exact ⟨rfl, r.field, r.reason, rfl⟩
  · intro fault hfault
    rw [hperform] at hfault
    exact (hcommits hall σ repo s).result_of_error (map_eq_error_iff.1 hfault)
  · intro made hmade hid
    rw [hperform] at hmade
    obtain ⟨_, hstored, hsame⟩ := map_eq_ok_iff.1 hmade
    obtain rfl := Option.some.inj hsame
    exact (hcommits hall σ repo s).result_of_ok hstored hid

/-- Creations and updates are decided by their rules first: which records are let through, what the
others are told, and that storage is left alone, is the same for every repository. -/
theorem gated_changes (limits : Limits) (fresh : Uuid) (c : Company) :
    Gated (limits.newRules c) (.create fresh c)
        (fun _ repo s => createCompany repo limits fresh c s) ∧
      Gated (limits.patchRules c) (.update c)
        (fun _ repo s => updateCompany repo limits c s) := by
  have hnew := Decides.checkNew limits c
  have hpatch := Decides.checkPatch limits c
  constructor
  · refine .of_commits (fun _ repo s => repo.create fresh c s)
      (fun _ _ _ => rfl) (fun _ _ _ => rfl) (fun r hr _ repo s => ?_) fun hall _ repo s => ?_
    · rw [createCompany, hnew.eq_error hr]
    · obtain ⟨_, hok⟩ := hnew.exists_ok hall
      exact commits_createCompany hok fresh repo s
  · refine .of_commits (fun _ repo s => repo.update c s)
      (fun _ _ _ => rfl) (fun _ _ _ => rfl) (fun r hr _ repo s => ?_) fun hall _ repo s => ?_
    · rw [updateCompany, hpatch.eq_error hr]
    · obtain ⟨_, hok⟩ := hpatch.exists_ok hall
      exact commits_updateCompany hok repo s

/-- Of several broken rules the first is told. -/
example : Rule.firstBroken? (Limits.patchRules {}
    { id := .value .nil, name := .cleared, createdBy := .value .nil }) =
      some ⟨"updated_by", "is required", false⟩ := by decide

end Service
end TradeRegister

import TradeRegister.Proofs.Store.Reached

/-! # Records that cannot be written

A record that the columns refuse is refused by the store, with the fault of the columns, and the
store stays as it is. Which rows there are makes no difference to the database. The store in memory
looks for the company before it reads the rest of a partial update, so if the company is missing it
says so instead.
-/

namespace TradeRegister

def Company.missesTarget (patch : Company) (rows : List Store.CompanyRow) : Bool :=
  patch.id.value?.any fun id => rows.all fun r => r.id != id

namespace Store

variable {σ : Type}

/-- Records that cannot be written are refused and leave the state alone. Of a partial update that
has a fault, `told` is what is answered. -/
structure RefusesUnwritable (b : Backend σ) (s : σ) (told : Company → Fault → Fault) : Prop where
  create : ∀ fresh c fault, CompanyWrite.ofNew fresh c = .error fault →
    fault.IsValidation ∧ b.companies.create fresh c s = (.error fault, s)
  update : ∀ patch fault, CompanyWrite.ofPatch patch = .error fault →
    fault.IsValidation ∧ b.companies.update patch s = (.error (told patch fault), s)

theorem Database.refusesUnwritable (d : Database) :
    RefusesUnwritable .database d fun _ fault => fault where
  create := by
    intro fresh c fault hrefused
    refine ⟨CompanyWrite.refuses_ofNew fresh c fault hrefused, ?_⟩
    change d.createCompany fresh c = _
    rw [createCompany, hrefused]
  update := by
    intro patch fault hrefused
    refine ⟨CompanyWrite.refuses_ofPatch patch fault hrefused, ?_⟩
    change d.updateCompany patch = _
    rw [updateCompany, hrefused]

/-- What is wrong with the identifier comes first. -/
theorem CompanyWrite.fault_of_require {patch : Company} {fault fault' : Fault}
    (hid : patch.id.require "id" = .error fault')
    (hrefused : CompanyWrite.ofPatch patch = .error fault) :
    fault' = fault ∧ patch.id.value? = none := by
  rw [ofPatch, hid] at hrefused
  refine ⟨Except.error.inj hrefused, ?_⟩
  cases hvalue : patch.id with
  | unset => rfl
  | cleared => rfl
  | value id =>
    rw [hvalue] at hid
    cases hid

namespace Memory

def toldOf (m : Memory) (patch : Company) (fault : Fault) : Fault :=
  if patch.missesTarget (Backend.memory.companyRows m) then .notFound "company" else fault

namespace Sound

variable {m : Memory}

theorem missesTarget_eq (h : m.Sound) {patch : Company} {id : Uuid} (hid : patch.id = .value id) :
    patch.missesTarget (Backend.memory.companyRows m) = (m.companies.get? id).isNone := by
  rw [Company.missesTarget, hid, Bool.eq_iff_iff, Option.isNone_iff_eq_none,
    h.companies.get?_eq_none_iff]
  change (m.companies.rows.all fun r => r.id != id) = true ↔ _
  simp

theorem updateCompany_unwritable (h : m.Sound) {patch : Company} {fault : Fault}
    (hrefused : CompanyWrite.ofPatch patch = .error fault) :
    m.updateCompany patch = (.error (m.toldOf patch fault), m) := by
  unfold Memory.updateCompany toldOf
  cases hid : patch.id.require "id" with
  | error fault' =>
    obtain ⟨rfl, hnone⟩ := CompanyWrite.fault_of_require hid hrefused
    rw [Company.missesTarget, hnone]
    rfl
  | ok id =>
    rw [h.missesTarget_eq (Attribute.require_eq_ok_iff.1 hid)]
    dsimp only
    cases m.companies.get? id with
    | none => rfl
    | some row =>
      simp only [CompanyRow.amend_eq, hrefused, Except.map]
      rfl

theorem refusesUnwritable (h : m.Sound) : RefusesUnwritable .memory m m.toldOf where
  create := by
    intro fresh c fault hrefused
    refine ⟨CompanyWrite.refuses_ofNew fresh c fault hrefused, ?_⟩
    change m.createCompany fresh c = _
    rw [Memory.createCompany, hrefused]
  update := by
    intro patch fault hrefused
    exact ⟨CompanyWrite.refuses_ofPatch patch fault hrefused, h.updateCompany_unwritable hrefused⟩

end Sound
end Memory

/-- What the columns refuse is refused, in the database whatever it holds, and in memory with one
fault in place of another if the company to update is missing. -/
theorem refusesUnwritable_after (changes : List Change) :
    (∀ d, RefusesUnwritable .database d fun _ fault => fault) ∧
      RefusesUnwritable .memory (Backend.memory.after changes)
        (Backend.memory.after changes).toldOf :=
  ⟨Database.refusesUnwritable, (Memory.laws.intact_after changes).sound.refusesUnwritable⟩

def namelessPatch : Company := { Company.patch (.ofNat 17) (.ofNat 19) with name := .cleared }

/-- Without the company, the store in memory does not say that the name cannot be cleared. -/
theorem missing_before_nameless :
    CompanyWrite.ofPatch namelessPatch = .error (.validation "name" "cannot be cleared") ∧
      ((Backend.database.after []).updateCompany namelessPatch).1 =
        .error (.validation "name" "cannot be cleared") ∧
      ((Backend.memory.after []).updateCompany namelessPatch).1 = .error (.notFound "company") ∧
      ¬ RefusesUnwritable .memory (Backend.memory.after []) fun _ fault => fault := by
  refine ⟨rfl, rfl, rfl, fun hclaim => ?_⟩
  have htold := (hclaim.update namelessPatch _ rfl).2
  cases congrArg Prod.fst htold

end Store
end TradeRegister

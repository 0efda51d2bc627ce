import TradeRegister.Proofs.Store.Write
import TradeRegister.Store.Database
import TradeRegister.Store.Memory

/-! # Faults that do not blame the record

Once a record is turned into columns, a store has no more to say against it. Whatever goes wrong then
lies with the rows that are there, or with the engine, in any state.
-/

namespace TradeRegister

namespace Fault

/-- A row is missing, stands in the way, or cannot be read. -/
inductive IsOfRows : Fault → Prop
  | notFound (entity : String) : IsOfRows (.notFound entity)
  | conflict (entity : String) : IsOfRows (.conflict entity)
  | unknownKind (company : Uuid) (kind : String) :
    IsOfRows (.infrastructure (.unknownKind company kind))

/-- A fault that does not blame the request. -/
def IsOfStorage (f : Fault) : Prop := ¬ f.IsValidation

theorem IsOfRows.isOfStorage {f : Fault} (h : f.IsOfRows) : f.IsOfStorage := by
  rintro ⟨field, message, rfl⟩
  cases h

theorem IsOfRows.isTold {f : Fault} (h : f.IsOfRows) : f.IsTold := by
  rintro rfl
  cases h

theorem isOfStorage_engine : IsOfStorage (.infrastructure .engine) := by
  rintro ⟨field, message, ⟨⟩⟩

end Fault

theorem Refuses.isOfStorage {α : Type} {x : Except Fault α} (h : Refuses Fault.IsOfRows x) :
    Refuses Fault.IsOfStorage x := h.mono fun _ => Fault.IsOfRows.isOfStorage

theorem EngineError.isOfStorage_fault (e : EngineError) (entity : String) :
    (e.fault entity).IsOfStorage := by
  cases e with
  | uniqueViolation => exact (Fault.IsOfRows.conflict entity).isOfStorage
  | rowNotUpdated => exact (Fault.IsOfRows.notFound entity).isOfStorage
  | rowNotFound => exact (Fault.IsOfRows.notFound entity).isOfStorage
  | failure => exact Fault.isOfStorage_engine

namespace Store

theorem CompanyRow.ofRows_read (r : CompanyRow) : Refuses Fault.IsOfRows r.read := by
  unfold read
  split
  · exact .ok _
  · exact .error (.unknownKind _ _)

theorem CompanyRow.named_of_read {r : CompanyRow} {c : Company} (h : r.read = .ok c) :
    c.id.isValue = true := by
  rw [id_of_read h]
  rfl

namespace Memory

variable (m : Memory)

theorem ofRows_companyById (id : Uuid) : Refuses Fault.IsOfRows (m.companyById id) := by
  unfold companyById
  split
  · exact CompanyRow.ofRows_read _
  · exact .error (.notFound _)

theorem ofRows_companyByName (n : String) : Refuses Fault.IsOfRows (m.companyByName n) := by
  unfold companyByName
  split
  · exact CompanyRow.ofRows_read _
  · exact .error (.notFound _)

theorem ofRows_createCompany {fresh : Uuid} {c : Company} {w : CompanyWrite}
    (h : CompanyWrite.ofNew fresh c = .ok w) :
    Refuses Fault.IsOfRows (m.createCompany fresh c).1 := by
  obtain ⟨row, hrow⟩ := CompanyWrite.exists_newRow_of_ofNew h
  simp only [createCompany, h, hrow]
  split
  · exact .error (.conflict _)
  · exact row.ofRows_read

theorem named_createCompany {fresh : Uuid} {c made : Company}
    (h : (m.createCompany fresh c).1 = .ok made) : made.id.isValue = true := by
  unfold createCompany at h
  split at h
  · cases h
  · split at h
    · cases h
    · split at h
      · cases h
      · exact CompanyRow.named_of_read h

theorem ofRows_updateCompany {patch : Company} {id : Uuid} {w : CompanyWrite}
    (h : CompanyWrite.ofPatch patch = .ok (id, w)) :
    Refuses Fault.IsOfRows (m.updateCompany patch).1 := by
  unfold updateCompany
  rw [Attribute.require_eq_ok_iff.2 (CompanyWrite.ofPatch_eq_ok_iff.1 h).1]
  dsimp only
  cases m.companies.get? id with
  | none => exact .error (.notFound _)
  | some row =>
    simp only [CompanyRow.amend_eq, h, Except.map]
    split
    · exact .error (.conflict _)
    · exact CompanyRow.ofRows_read _

theorem ofRows_deleteCompany (id : Uuid) : Refuses Fault.IsOfRows (m.deleteCompany id).1 := by
  unfold deleteCompany
  split
  · exact .ok _
  · exact .error (.notFound _)

end Memory

namespace Database

variable (d : Database)

theorem ofStorage_readCompany (x : Except EngineError CompanyRow) :
    Refuses Fault.IsOfStorage (readCompany x) := by
  cases x with
  | error e => exact .error (e.isOfStorage_fault "company")
  | ok row => exact row.ofRows_read.isOfStorage

theorem named_of_readCompany {x : Except EngineError CompanyRow} {c : Company}
    (h : readCompany x = .ok c) : c.id.isValue = true := by
  cases x with
  | error e => cases h
  | ok row => exact CompanyRow.named_of_read h

theorem ofStorage_createCompany {fresh : Uuid} {c : Company} {w : CompanyWrite}
    (h : CompanyWrite.ofNew fresh c = .ok w) :
    Refuses Fault.IsOfStorage (d.createCompany fresh c).1 := by
  obtain ⟨row, hrow⟩ := CompanyWrite.exists_newRow_of_ofNew h
  simp only [createCompany, h, hrow]
  exact ofStorage_readCompany _

theorem named_createCompany {fresh : Uuid} {c made : Company}
    (h : (d.createCompany fresh c).1 = .ok made) : made.id.isValue = true := by
  unfold createCompany at h
  split at h
  · cases h
  · split at h
    · cases h
    · exact named_of_readCompany h

theorem ofStorage_updateCompany {patch : Company} {id : Uuid} {w : CompanyWrite}
    (h : CompanyWrite.ofPatch patch = .ok (id, w)) :
    Refuses Fault.IsOfStorage (d.updateCompany patch).1 := by
  simp only [updateCompany, h]
  split
  · exact ofStorage_readCompany _
  · exact ofStorage_readCompany _

theorem ofStorage_deleteCompany (id : Uuid) :
    Refuses Fault.IsOfStorage (d.deleteCompany id).1 := by
  unfold deleteCompany
  split
  · exact .error (EngineError.isOfStorage_fault _ _)
  · exact .error (Fault.IsOfRows.notFound _).isOfStorage
  · exact .ok _

end Database
end Store
end TradeRegister

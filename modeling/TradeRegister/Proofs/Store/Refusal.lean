import TradeRegister.Proofs.Store.Blame

/-! # What the store in memory refuses

Every fault of the store in memory says what it is: none stands for a text of a storage engine.
-/

namespace TradeRegister

theorem Refuses.isTold_of_ofRows {α : Type} {x : Except Fault α} (h : Refuses Fault.IsOfRows x) :
    Refuses Fault.IsTold x := h.mono fun _ => Fault.IsOfRows.isTold

namespace Store.Memory

variable (m : Memory)

theorem refuses_companyById (id : Uuid) : Refuses Fault.IsTold (m.companyById id) :=
  (m.ofRows_companyById id).isTold_of_ofRows

theorem refuses_companyByName (name : String) : Refuses Fault.IsTold (m.companyByName name) :=
  (m.ofRows_companyByName name).isTold_of_ofRows

theorem refuses_userById (id : Uuid) : Refuses Fault.IsTold (m.userById id) := by
  unfold userById
  split
  · exact .ok _
  · exact .error (Fault.IsOfRows.notFound _).isTold

theorem refuses_createCompany (fresh : Uuid) (c : Company) :
    Refuses Fault.IsTold (m.createCompany fresh c).1 := by
  cases hw : CompanyWrite.ofNew fresh c with
  | error fault =>
    rw [createCompany, hw]
    exact (CompanyWrite.refuses_ofNew fresh c).isTold.passOn hw
  | ok w => exact (m.ofRows_createCompany hw).isTold_of_ofRows

theorem refuses_updateCompany (c : Company) : Refuses Fault.IsTold (m.updateCompany c).1 := by
  cases hw : CompanyWrite.ofPatch c with
  | error fault =>
    unfold updateCompany
    cases hid : c.id.require "id" with
    | error fault' => exact (c.id.refuses_require "id").isTold.passOn hid
    | ok id =>
      dsimp only
      cases m.companies.get? id with
      | none => exact .error (Fault.IsOfRows.notFound _).isTold
      | some row =>
        simp only [CompanyRow.amend_eq, hw, Except.map]
        exact (CompanyWrite.refuses_ofPatch c).isTold.passOn hw
  | ok target => exact (m.ofRows_updateCompany hw).isTold_of_ofRows

theorem refuses_deleteCompany (id : Uuid) : Refuses Fault.IsTold (m.deleteCompany id).1 :=
  (m.ofRows_deleteCompany id).isTold_of_ofRows

theorem refuses_createUser (fresh : Uuid) (u : User) :
    Refuses Fault.IsTold (m.createUser fresh u).1 := by
  unfold createUser
  cases hw : UserWrite.ofNew fresh u with
  | error fault => exact (UserWrite.refuses_ofNew fresh u).isTold.passOn hw
  | ok w =>
    obtain ⟨row, hrow⟩ := UserWrite.exists_newRow_of_ofNew hw
    simp only [hrow]
    split
    · exact .error (Fault.IsOfRows.conflict _).isTold
    · exact .ok _

end Store.Memory
end TradeRegister

import TradeRegister.Proofs.Store.Reached

/-! # Rows that cannot be read

The row of a company may name a legal form that does not exist. Whatever the rows are, a fault of
the database leaves them as they were, with one exception: a partial update of such a row that names
no legal form either is written, and only then found to be unreadable.
-/

namespace TradeRegister

namespace Attribute

variable {α : Type} {x : Attribute α}

theorem Over.unique {old a b : α} (ha : x.Over old a) (hb : x.Over old b) : a = b := by
  cases x with
  | unset => exact Eq.trans ha (Eq.symm hb)
  | cleared => exact False.elim ha
  | value v => exact Eq.trans ha (Eq.symm hb)

theorem OverNullable.unique {old a b : Option α} (ha : x.OverNullable old a)
    (hb : x.OverNullable old b) : a = b := by
  cases x <;> exact Eq.trans ha (Eq.symm hb)

theorem Over.ne_cleared {old a : α} (h : x.Over old a) : x ≠ .cleared := by
  rintro rfl
  exact h

end Attribute

namespace Store

/-! ## Partial updates of one row -/

namespace Patched

variable {patch : Company} {old next : CompanyRow}

theorem isWritable (h : Patched patch old next) : CompanyWrite.IsWritable patch where
  name := h.name.ne_cleared
  employeeCount := h.employeeCount.ne_cleared
  registered := h.registered.ne_cleared
  kind := fun hcleared => h.kind.ne_cleared (Attribute.map_eq_cleared_iff.2 hcleared)
  updatedBy := h.updatedBy.1

theorem unique {next' : CompanyRow} (h : Patched patch old next) (h' : Patched patch old next') :
    next = next' := by
  obtain ⟨id, name, description, employeeCount, registered, kind, createdBy, updatedBy⟩ := next
  obtain rfl := h.id.trans h'.id.symm
  obtain rfl := h.name.unique h'.name
  obtain rfl := h.description.unique h'.description
  obtain rfl := h.employeeCount.unique h'.employeeCount
  obtain rfl := h.registered.unique h'.registered
  obtain rfl := h.kind.unique h'.kind
  obtain rfl := h.createdBy.trans h'.createdBy.symm
  obtain rfl := h.updatedBy.2.unique h'.updatedBy.2
  rfl

theorem kind_eq (h : Patched patch old next) (hunset : patch.kind = .unset) :
    next.kind = old.kind := by
  have hkind := h.kind
  rwa [hunset] at hkind

/-- A row of unknown legal form keeps it only if the update names none. -/
theorem unknown_iff (h : Patched patch old next) : CompanyKind.ofName? next.kind = none ↔
    patch.kind = .unset ∧ CompanyKind.ofName? old.kind = none := by
  cases hform : patch.kind with
  | unset => simp [h.kind_eq hform]
  | cleared => exact absurd hform h.isWritable.kind
  | value kind =>
    have hkind := h.kind
    rw [hform] at hkind
    rw [show next.kind = kind.name from hkind, CompanyKind.ofName?_name]
    simp

end Patched

theorem CompanyRow.read_eq_error_iff {r : CompanyRow} {fault : Fault} :
    r.read = .error fault ↔
      CompanyKind.ofName? r.kind = none ∧ fault = .infrastructure (.unknownKind r.id r.kind) := by
  unfold read
  cases CompanyKind.ofName? r.kind <;> simp [eq_comm]

/-! ## The database -/

namespace Database

def replaceCompany (d : Database) (id : Uuid) (next : CompanyRow) : Database :=
  { d with companies := some ((Backend.database.companyRows d).map
      fun r => if r.id = id then next else r) }

/-- A partial update is stored, and answered with a fault: it changes a row of unknown legal form,
but not the form. -/
inductive WrittenUnread (d : Database) (patch : Company) : Fault → Database → Prop
  | intro {row next : CompanyRow} (hrow : row ∈ Backend.database.companyRows d)
    (hid : patch.id = .value row.id) (hpatched : Patched patch row next) (hchanged : next ≠ row)
    (hfree : ∀ r ∈ Backend.database.companyRows d, r.id ≠ row.id → patch.name ≠ .value r.name)
    (hunset : patch.kind = .unset) (hunknown : CompanyKind.ofName? row.kind = none) :
    WrittenUnread d patch (.infrastructure (.unknownKind row.id row.kind))
      (d.replaceCompany row.id next)

namespace Sound

variable {d d' : Database} {patch : Company} {row next : CompanyRow} {fault : Fault}

theorem replaceCompany_eq_iff (h : Sound d) (hrow : row ∈ Backend.database.companyRows d) :
    d.replaceCompany row.id next = d ↔ next = row := by
  constructor
  · intro hsame
    have hrows := (congrArg Database.companies hsame).trans h.companies_eq
    have hmap := (Option.some.inj hrows).trans (List.map_id _).symm
    have hat := List.map_inj_left.1 hmap row hrow
    rwa [if_pos rfl] at hat
  · rintro rfl
    rw [replaceCompany, h.distinct_companies.replace_self hrow, ← h.companies_eq]

theorem updateCompany_eq (h : Sound d) {w : CompanyWrite}
    (hpatch : CompanyWrite.ofPatch patch = .ok (row.id, w))
    (hrow : row ∈ Backend.database.companyRows d)
    (hfree : ∀ r ∈ Backend.database.companyRows d,
      r.id ≠ row.id → r.name ≠ (w.overwrite row).name) :
    d.updateCompany patch =
      ((w.overwrite row).read, d.replaceCompany row.id (w.overwrite row)) := by
  have hfind := (find?_eq_some_iff_of_nodup h.distinct_companies.keys).2 ⟨hrow, rfl⟩
  rw [Database.updateCompany, hpatch]
  dsimp only
  by_cases hw : w.isChanged
  · have hany : ((Backend.database.companyRows d).any
        fun r => r.id != row.id && r.name == (w.overwrite row).name) = false := by
      simpa using hfree
    simp only [hw, if_true, writeCompany, h.companyRows_eq, hfind, hany]
    rfl
  · have hsame := CompanyWrite.overwrite_of_not_isChanged (by simpa using hw) row
    rw [if_neg hw, Database.companyById_eq h.companyRows_eq, hfind, hsame,
      (h.replaceCompany_eq_iff hrow).2 rfl]
    rfl

theorem createCompany_of_error (h : Sound d) {fresh : Uuid} {c : Company}
    (hout : d.createCompany fresh c = (.error fault, d')) : d' = d := by
  have hlaw := h.createCompany fresh c
  rw [hout] at hlaw
  refine hlaw.of_error fun row hasked => ?_
  obtain ⟨kind, hread⟩ := (CompanyRow.ofNew_eq_ok_iff.1 hasked).read_eq
  exact ⟨_, hread⟩

theorem deleteCompany_of_error (h : Sound d) {id : Uuid}
    (hout : d.deleteCompany id = (.error fault, d')) : d' = d := by
  have hlaw := h.deleteCompany id
  rw [hout] at hlaw
  exact hlaw.of_error

/-- Exactly these updates change the table although they are answered with a fault. -/
theorem updateCompany_error_iff (h : Sound d) :
    d.updateCompany patch = (.error fault, d') ∧ d' ≠ d ↔ WrittenUnread d patch fault d' := by
  constructor
  · rintro ⟨hout, hne⟩
    have hlaw := h.updateCompany patch
    rw [hout] at hlaw
    obtain ⟨row, w, hpatch, hrow, hfree⟩ := hlaw.of_error.resolve_left hne
    have hpatched := patched_overwrite hpatch row
    have hid := (CompanyWrite.ofPatch_eq_ok_iff.1 hpatch).1
    obtain ⟨hread, rfl⟩ := Prod.mk.inj (hout.symm.trans (h.updateCompany_eq hpatch hrow hfree))
    obtain ⟨hform, rfl⟩ := CompanyRow.read_eq_error_iff.1 hread.symm
    obtain ⟨hunset, hunknown⟩ := hpatched.unknown_iff.1 hform
    rw [hpatched.id, hpatched.kind_eq hunset]
    refine .intro hrow hid hpatched ?_ ?_ hunset hunknown
    · exact fun hsame => hne ((h.replaceCompany_eq_iff hrow).2 hsame)
    · intro r hr hother hname
      exact hfree r hr hother ((hpatched.name_eq_iff h.distinct_companies hrow hr hother).2 hname)
  · rintro ⟨hrow, hid, hpatched, hchanged, hfree, hunset, hunknown⟩
    rename_i row next
    have hpatch := CompanyWrite.ofPatch_eq_ok_iff.2 ⟨hid, hpatched.isWritable, rfl⟩
    obtain rfl := hpatched.unique (patched_overwrite hpatch row)
    refine ⟨?_, fun hsame => hchanged ((h.replaceCompany_eq_iff hrow).1 hsame)⟩
    rw [h.updateCompany_eq hpatch hrow, CompanyRow.read_eq_error_iff.2 ⟨?_, rfl⟩, hpatched.id,
      hpatched.kind_eq hunset]
    · exact hpatched.unknown_iff.2 ⟨hunset, hunknown⟩
    · intro r hr hother hname
      exact hfree r hr hother
        ((hpatched.name_eq_iff h.distinct_companies hrow hr hother).1 hname)

/-- Whatever is asked of the repository: a fault comes with a change of the table exactly when an
update is written that cannot be read. -/
theorem perform_error_iff (h : Sound d) {op : Operation} :
    companyRepository.perform d op = (.error fault, d') ∧ d' ≠ d ↔
      ∃ patch, op = .update patch ∧ WrittenUnread d patch fault d' := by
  constructor
  · rintro ⟨hout, hne⟩
    obtain ⟨hresult, rfl⟩ := Prod.mk.inj hout
    cases op with
    | create fresh c =>
      exact absurd (h.createCompany_of_error (Prod.ext (map_eq_error_iff.1 hresult) rfl)) hne
    | byId id => exact absurd rfl hne
    | byName name => exact absurd rfl hne
    | update patch =>
      exact ⟨patch, rfl,
        h.updateCompany_error_iff.1 ⟨Prod.ext (map_eq_error_iff.1 hresult) rfl, hne⟩⟩
    | delete id =>
      exact absurd (h.deleteCompany_of_error (Prod.ext (map_eq_error_iff.1 hresult) rfl)) hne
  · rintro ⟨patch, rfl, hwritten⟩
    obtain ⟨hout, hne⟩ := h.updateCompany_error_iff.2 hwritten
    refine ⟨?_, hne⟩
    rw [CompanyRepository.perform, show companyRepository.update patch d = _ from hout]
    rfl

end Sound
end Database
end Store
end TradeRegister

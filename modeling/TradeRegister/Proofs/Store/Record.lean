import TradeRegister.Proofs.Store.Distinct
import TradeRegister.Proofs.Store.Write
import TradeRegister.Store.Row

/-! # Records and the rows they ask for

A new record that can be stored asks for one row, whose columns are its attributes. A partial update
that can be written turns a row into one whose columns hold the attributes with a value, null for a
cleared description, and what they held before for whatever is unset.
-/

namespace TradeRegister

/-- What a column holds once an attribute was written over `old`; nothing may be cleared. -/
def Attribute.Over {α : Type} (old : α) : Attribute α → α → Prop
  | .unset, next => next = old
  | .cleared, _ => False
  | .value a, next => next = a

/-- The same for a column that a cleared attribute empties. -/
def Attribute.OverNullable {α : Type} (old : Option α) : Attribute α → Option α → Prop
  | .unset, next => next = old
  | .cleared, next => next = none
  | .value a, next => next = some a

namespace Attribute

variable {α : Type}

theorem over_iff {x : Attribute α} {old next : α} :
    x.Over old next ↔ x = .unset ∧ next = old ∨ x = .value next := by
  cases x <;> simp [Over, eq_comm]

end Attribute

namespace Store

variable {α : Type}

namespace Column

theorem over_overwrite {x : Attribute α} (h : x ≠ .cleared) (old : α) :
    x.Over old ((ofOption x.value?).overwrite old) := by
  cases x with
  | unset => rfl
  | cleared => exact absurd rfl h
  | value a => rfl

theorem overNullable_overwrite (x : Attribute α) (old : Option α) :
    x.OverNullable old ((ofNullable x).overwrite old) := by
  cases x <;> rfl

theorem overNullable_overwrite_of_ne {x : Attribute α} (h : x ≠ .cleared) (old : Option α) :
    x.OverNullable old ((ofOption (x.value?.map some)).overwrite old) := by
  cases x with
  | unset => rfl
  | cleared => exact absurd rfl h
  | value a => rfl

end Column

/-! ## New rows -/

/-- The row that a new record asks for; `fresh` stands in for an identifier that it leaves out. -/
structure CompanyRow.Records (c : Company) (fresh : Uuid) (r : CompanyRow) : Prop where
  id : c.id = .value r.id ∨ c.id = .unset ∧ r.id = fresh
  name : c.name = .value r.name
  description : r.description = c.description.value?
  employeeCount : c.employeeCount = .value r.employeeCount
  registered : c.registered = .value r.registered
  kind : ∃ kind, c.kind = .value kind ∧ r.kind = kind.name
  createdBy : c.createdBy = .value r.createdBy
  updatedBy : c.updatedBy ≠ .cleared ∧ r.updatedBy = c.updatedBy.value?

structure UserRow.Records (u : User) (fresh : Uuid) (r : UserRow) : Prop where
  id : u.id = .value r.id ∨ u.id = .unset ∧ r.id = fresh
  username : u.username = .value r.username
  passwordHash : u.passwordHash = .value r.passwordHash

def CompanyRow.ofNew (fresh : Uuid) (c : Company) : Except Fault CompanyRow :=
  match CompanyWrite.ofNew fresh c with
  | .error fault => .error fault
  | .ok w =>
    match w.newRow? with
    | none => .error (.infrastructure .engine)
    | some row => .ok row

def UserRow.ofNew (fresh : Uuid) (u : User) : Except Fault UserRow :=
  match UserWrite.ofNew fresh u with
  | .error fault => .error fault
  | .ok w =>
    match w.newRow? with
    | none => .error (.infrastructure .engine)
    | some row => .ok row

theorem assignId_eq_ok_iff {fresh id : Uuid} {x : Attribute Uuid} :
    assignId fresh x = .ok id ↔ x = .value id ∨ x = .unset ∧ id = fresh := by
  cases x <;> simp [assignId, Attribute.rejectCleared, Except.map, eq_comm]

theorem join_content?_ofNullable (x : Attribute α) :
    (Column.ofNullable x).content?.join = x.value? := by
  cases x <;> rfl

theorem join_content?_ofSettable (x : Attribute α) :
    (Column.ofOption (x.value?.map some)).content?.join = x.value? := by
  cases x <;> rfl

def CompanyWrite.forNew (c : Company) (r : CompanyRow) : CompanyWrite where
  id := .set r.id
  name := .set r.name
  description := .ofNullable c.description
  employeeCount := .set r.employeeCount
  registered := .set r.registered
  kind := .set r.kind
  createdBy := .set r.createdBy
  updatedBy := .ofOption (c.updatedBy.value?.map some)

theorem CompanyWrite.ofNew_eq_ok_iff {fresh : Uuid} {c : Company} {w : CompanyWrite} :
    ofNew fresh c = .ok w ↔ ∃ r : CompanyRow, r.Records c fresh ∧ forNew c r = w := by
  simp only [ofNew, bind_eq_ok_iff, Attribute.require_eq_ok_iff, assignId_eq_ok_iff,
    Column.ofSettable_eq_ok_iff]
  constructor
  · rintro ⟨id, hid, name, hname, count, hcount, registered, hregistered, kind, hkind, creator,
      hcreator, _, ⟨hcleared, rfl⟩, hw⟩
    obtain rfl := Except.ok.inj hw
    exact ⟨⟨id, name, c.description.value?, count, registered, kind.name, creator,
      c.updatedBy.value?⟩,
      ⟨hid, hname, rfl, hcount, hregistered, ⟨kind, hkind, rfl⟩, hcreator, hcleared, rfl⟩, rfl⟩
  · rintro ⟨r, ⟨hid, hname, _, hcount, hregistered, ⟨kind, hkind, hform⟩, hcreator, hcleared, _⟩, rfl⟩
    refine ⟨_, hid, _, hname, _, hcount, _, hregistered, kind, hkind, _, hcreator, _,
      ⟨hcleared, rfl⟩, ?_⟩
    rw [forNew, hform]
    rfl

theorem CompanyWrite.newRow?_forNew {c : Company} {fresh : Uuid} {r : CompanyRow}
    (h : r.Records c fresh) : (forNew c r).newRow? = some r := by
  have hcolumns : (forNew c r).newRow? = some { r with
      description := (Column.ofNullable c.description).content?.join
      updatedBy := (Column.ofOption (c.updatedBy.value?.map some)).content?.join } := rfl
  rw [hcolumns, join_content?_ofNullable, join_content?_ofSettable, ← h.description,
    ← h.updatedBy.2]

theorem CompanyRow.ofNew_eq_ok_iff {fresh : Uuid} {c : Company} {r : CompanyRow} :
    ofNew fresh c = .ok r ↔ r.Records c fresh := by
  constructor
  · intro h
    unfold ofNew at h
    cases hw : CompanyWrite.ofNew fresh c with
    | error fault =>
      rw [hw] at h
      cases h
    | ok w =>
      obtain ⟨row, hrow, rfl⟩ := CompanyWrite.ofNew_eq_ok_iff.1 hw
      simp only [hw, CompanyWrite.newRow?_forNew hrow] at h
      exact Except.ok.inj h ▸ hrow
  · intro h
    simp only [ofNew, CompanyWrite.ofNew_eq_ok_iff.2 ⟨r, h, rfl⟩, CompanyWrite.newRow?_forNew h]

theorem UserRow.ofNew_eq_ok_iff {fresh : Uuid} {u : User} {r : UserRow} :
    ofNew fresh u = .ok r ↔ r.Records u fresh := by
  constructor
  · intro h
    unfold ofNew at h
    cases hw : UserWrite.ofNew fresh u with
    | error fault =>
      rw [hw] at h
      cases h
    | ok w =>
      have hwrite := hw
      simp only [UserWrite.ofNew, bind_eq_ok_iff, Attribute.require_eq_ok_iff,
        assignId_eq_ok_iff] at hwrite
      obtain ⟨id, hid, name, hname, hash, hhash, heq⟩ := hwrite
      obtain rfl := Except.ok.inj heq
      rw [hw] at h
      obtain rfl := Except.ok.inj h
      exact ⟨hid, hname, hhash⟩
  · rintro ⟨hid, hname, hhash⟩
    have hw : UserWrite.ofNew fresh u = .ok ⟨.set r.id, .set r.username, .set r.passwordHash⟩ := by
      simp only [UserWrite.ofNew, bind_eq_ok_iff, Attribute.require_eq_ok_iff, assignId_eq_ok_iff]
      exact ⟨_, hid, _, hname, _, hhash, rfl⟩
    rw [ofNew, hw]
    rfl

/-- Whether the row that a new record asks for is taken shows in what the record supplies, unless
the identifier assigned to it is not new. -/
theorem CompanyRow.Records.taken_iff {c : Company} {fresh : Uuid} {row r : CompanyRow}
    (h : row.Records c fresh) (hfresh : c.id = .unset → r.id ≠ fresh) :
    (r.id = row.id ∨ r.name = row.name) ↔ c.name = .value r.name ∨ c.id = .value r.id := by
  have hname : r.name = row.name ↔ c.name = .value r.name := by
    rw [h.name, Attribute.value.injEq]
    exact eq_comm
  have hid : r.id = row.id ↔ c.id = .value r.id := by
    rcases h.id with hid | ⟨hunset, hid⟩
    · rw [hid, Attribute.value.injEq]
      exact eq_comm
    · rw [hunset, hid]
      simpa using hfresh hunset
  rw [hname, hid, or_comm]

/-! ## Partial updates -/

/-- `next` is `old` with a partial update written over it. -/
structure Patched (patch : Company) (old next : CompanyRow) : Prop where
  id : next.id = old.id
  name : patch.name.Over old.name next.name
  description : patch.description.OverNullable old.description next.description
  employeeCount : patch.employeeCount.Over old.employeeCount next.employeeCount
  registered : patch.registered.Over old.registered next.registered
  kind : (patch.kind.map CompanyKind.name).Over old.kind next.kind
  createdBy : next.createdBy = old.createdBy
  updatedBy : patch.updatedBy ≠ .cleared ∧
    patch.updatedBy.OverNullable old.updatedBy next.updatedBy

theorem patched_overwrite {patch : Company} {id : Uuid} {w : CompanyWrite}
    (h : CompanyWrite.ofPatch patch = .ok (id, w)) (r : CompanyRow) :
    Patched patch r (w.overwrite r) := by
  obtain ⟨_, hwritable, rfl⟩ := CompanyWrite.ofPatch_eq_ok_iff.1 h
  refine ⟨rfl, ?_, ?_, ?_, ?_, ?_, rfl, hwritable.updatedBy, ?_⟩
  · exact Column.over_overwrite hwritable.name r.name
  · exact Column.overNullable_overwrite patch.description r.description
  · exact Column.over_overwrite hwritable.employeeCount r.employeeCount
  · exact Column.over_overwrite hwritable.registered r.registered
  · have hcleared : patch.kind.map CompanyKind.name ≠ .cleared := by
      rw [Ne, Attribute.map_eq_cleared_iff]
      exact hwritable.kind
    have hover := Column.over_overwrite hcleared r.kind
    rwa [Attribute.value?_map] at hover
  · exact Column.overNullable_overwrite_of_ne hwritable.updatedBy r.updatedBy

/-- Another row has the name that a partial update leads to only if it has the one supplied. -/
theorem Patched.name_eq_iff {patch : Company} {old next r : CompanyRow}
    {rows : List CompanyRow} (h : Patched patch old next)
    (hrows : Distinct CompanyRow.id CompanyRow.name rows) (hold : old ∈ rows) (hr : r ∈ rows)
    (hid : r.id ≠ old.id) : r.name = next.name ↔ patch.name = .value r.name := by
  have hne : r.name ≠ old.name := fun hname =>
    hid (congrArg CompanyRow.id (hrows.eq_of_name hr hold hname))
  rcases Attribute.over_iff.1 h.name with ⟨hunset, hname⟩ | hvalue
  · rw [hunset, hname]
    simpa using hne
  · rw [hvalue, Attribute.value.injEq]
    exact eq_comm

end Store
end TradeRegister

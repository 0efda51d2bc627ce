import TradeRegister.Proofs.Store.Reached

/-! # What is stored is read back

A new record that a store accepts becomes one row more. The record that is answered is the one that
was given, except that it has an identifier, and that a nullable attribute which was left unset is
cleared. Both lookups find exactly this record from then on, through any further changes that are not
made to its row.
-/

namespace TradeRegister

variable {σ ρ τ α : Type}

/-! ## Records -/

/-- What is left unset is stored as null. -/
def Attribute.orCleared : Attribute α → Attribute α
  | .value a => .value a
  | _ => .cleared

theorem Attribute.ofNullable_value? (x : Attribute α) : ofNullable x.value? = x.orCleared := by
  cases x <;> rfl

/-- How a new company reads back; `fresh` stands in for an identifier that it leaves out. -/
def Company.asStored (c : Company) (fresh : Uuid) : Company :=
  { c with
    id := .value (c.id.value?.getD fresh)
    description := c.description.orCleared
    updatedBy := c.updatedBy.orCleared }

def User.asStored (u : User) (fresh : Uuid) : User :=
  { u with id := .value (u.id.value?.getD fresh) }

namespace Store

theorem CompanyRow.Records.read_eq_asStored {c : Company} {fresh : Uuid} {row : CompanyRow}
    (h : row.Records c fresh) : row.read = .ok (c.asStored fresh) := by
  obtain ⟨kind, hkind, hform⟩ := h.kind
  rw [CompanyRow.read_eq hform, company, Company.asStored, h.name, h.employeeCount, h.registered,
    hkind, h.createdBy, h.description, h.updatedBy.2, Attribute.ofNullable_value?,
    Attribute.ofNullable_value?]
  rcases h.id with hid | ⟨hunset, hid⟩
  · rw [hid]
    rfl
  · rw [hunset, hid]
    rfl

theorem UserRow.Records.read_eq_asStored {u : User} {fresh : Uuid} {row : UserRow}
    (h : row.Records u fresh) : row.read = u.asStored fresh := by
  rw [UserRow.read, User.asStored, h.username, h.passwordHash]
  rcases h.id with hid | ⟨hunset, hid⟩
  · rw [hid]
    rfl
  · rw [hunset, hid]
    rfl

/-! ## Tables -/

/-- One of the tables of a store that is changed step by step. -/
structure Shelf (σ ρ τ α : Type) where
  entity : Entity ρ α
  idOf : α → Attribute Uuid
  view : σ → View ρ α
  /-- The rows of the other table. -/
  kept : σ → List τ
  change : σ → Change → σ
  /-- The change is made to the row with this identifier. -/
  Touches : σ → Uuid → Change → Prop

namespace Shelf

variable (t : Shelf σ ρ τ α)

/-- None of the changes, made one after the other, is made to this row. -/
def Spares (id : Uuid) : σ → List Change → Prop
  | _, [] => True
  | s, x :: later => ¬ t.Touches s id x ∧ Spares id (t.change s x) later

/-- What comes of a new record that can be stored as these rows, and then reads as `stored`. -/
structure RoundTrip (Records : ρ → Prop) (stored : α) (s : σ) (out : Except Fault α × σ) :
    Prop where
  accepted_iff : (∃ made, out.1 = .ok made) ↔ ∃ row, Records row ∧
    ∀ r ∈ (t.view s).rows, t.entity.id r ≠ t.entity.id row ∧ t.entity.name r ≠ t.entity.name row
  answered : ∀ made, out.1 = .ok made → made = stored
  added : ∀ made, out.1 = .ok made → ∃ row, t.entity.read row = .ok made ∧
    (t.view out.2).rows.Perm (row :: (t.view s).rows) ∧ t.kept out.2 = t.kept s
  found : ∀ made, out.1 = .ok made → ∃ id n, t.idOf made = .value id ∧
    t.entity.nameOf made = .value n ∧ ∀ later, t.Spares id out.2 later →
      (t.view (later.foldl t.change out.2)).byId id = .ok made ∧
        (t.view (later.foldl t.change out.2)).byName n = .ok made

/-- In good states lookups find the rows that are there, and a change leaves every row that it is not
made to. -/
structure Lawful (Good : σ → Prop) : Prop where
  idOf_read : ∀ {r a}, t.entity.read r = .ok a → t.idOf a = .value (t.entity.id r)
  byId : ∀ {s r a}, Good s → r ∈ (t.view s).rows → t.entity.read r = .ok a →
    (t.view s).byId (t.entity.id r) = .ok a
  byName : ∀ {s r a}, Good s → r ∈ (t.view s).rows → t.entity.read r = .ok a →
    (t.view s).byName (t.entity.name r) = .ok a
  change : ∀ {s}, Good s → ∀ x, Good (t.change s x)
  keep : ∀ {s r}, Good s → r ∈ (t.view s).rows → ∀ x, ¬ t.Touches s (t.entity.id r) x →
    r ∈ (t.view (t.change s x)).rows

namespace Lawful

variable {t : Shelf σ ρ τ α} {Good : σ → Prop} {s : σ}

theorem keep_run (h : t.Lawful Good) (hs : Good s) {r : ρ} (hr : r ∈ (t.view s).rows)
    {later : List Change} (hspares : t.Spares (t.entity.id r) s later) :
    Good (later.foldl t.change s) ∧ r ∈ (t.view (later.foldl t.change s)).rows := by
  induction later generalizing s with
  | nil => exact ⟨hs, hr⟩
  | cons x later ih =>
    obtain ⟨hx, hlater⟩ := hspares
    exact ih (h.change hs x) (h.keep hs hr x hx) hlater

theorem roundTrip (h : t.Lawful Good) {asked : Except Fault ρ} {Records : ρ → Prop}
    (hasked : ∀ {row}, asked = .ok row ↔ Records row) {stored : α}
    (hread : ∀ {row}, Records row → t.entity.read row = .ok stored) {Sound : σ → Prop}
    {out : Except Fault α × σ}
    (hlaw : Creation t.entity (t.view s).rows asked s
      (Becomes Sound (fun s => (t.view s).rows) t.kept s) out)
    (hgood : Good out.2) : t.RoundTrip Records stored s out where
  accepted_iff := by
    constructor
    · rintro ⟨made, hmade⟩
      obtain ⟨row, hrow, hfree, -, -⟩ := hlaw.of_fst_ok hmade
      exact ⟨row, hasked.1 hrow, hfree⟩
    · rintro ⟨row, hrow, hfree⟩
      rcases hlaw.taken_or_stored (hasked.2 hrow) with ⟨_, r, hr, hsame⟩ | ⟨hout, _, _⟩
      · exact absurd hsame (not_or.2 (hfree r hr))
      · exact ⟨stored, hout.trans (hread hrow)⟩
  answered := by
    intro made hmade
    obtain ⟨row, hrow, -, -, hmade⟩ := hlaw.of_fst_ok hmade
    exact Except.ok.inj (hmade.symm.trans (hread (hasked.1 hrow)))
  added := by
    intro made hmade
    obtain ⟨row, -, -, hnext, hmade⟩ := hlaw.of_fst_ok hmade
    exact ⟨row, hmade, hnext.rows, hnext.kept⟩
  found := by
    intro made hmade
    obtain ⟨row, -, -, hnext, hmade⟩ := hlaw.of_fst_ok hmade
    refine ⟨_, _, h.idOf_read hmade, t.entity.nameOf_read hmade, fun later hspares => ?_⟩
    have hrow : row ∈ (t.view out.2).rows := hnext.rows.mem_iff.2 List.mem_cons_self
    obtain ⟨hlater, hrow⟩ := h.keep_run hgood hrow hspares
    exact ⟨h.byId hlater hrow hmade, h.byName hlater hrow hmade⟩

end Lawful
end Shelf

/-! ## Both tables -/

namespace Backend

def TouchesCompany (b : Backend σ) (s : σ) (id : Uuid) : Change → Prop
  | .updateCompany patch => patch.id = .value id ∧ ∃ c, (b.companies.update patch s).1 = .ok c
  | .deleteCompany target => target = id ∧ (b.companies.delete target s).1 = .ok ()
  | _ => False

def companyShelf (b : Backend σ) : Shelf σ CompanyRow UserRow Company where
  entity := .company
  idOf := Company.id
  view := b.companyView
  kept := b.userRows
  change := b.change
  Touches := b.TouchesCompany

/-- Accounts are never changed. -/
def userShelf (b : Backend σ) : Shelf σ UserRow CompanyRow User where
  entity := .user
  idOf := User.id
  view := b.userView
  kept := b.companyRows
  change := b.change
  Touches := fun _ _ _ => False

theorem spares_userShelf (b : Backend σ) (id : Uuid) (s : σ) (later : List Change) :
    b.userShelf.Spares id s later := by
  induction later generalizing s with
  | nil => trivial
  | cons x later ih => exact ⟨not_false, ih _⟩

namespace Laws.Intact

variable {b : Backend σ} {l : b.Laws} {s : σ}

theorem keep_company (h : l.Intact s) {r : CompanyRow} (hr : r ∈ b.companyRows s) (x : Change)
    (hspared : ¬ b.TouchesCompany s r.id x) : r ∈ b.companyRows (b.change s x) := by
  cases x with
  | createCompany fresh c => exact (l.createCompany h.sound fresh c).mem_of_mem hr
  | updateCompany patch =>
    have hlaw := l.updateCompany h.sound patch
    have hspared : patch.id = .value r.id → ∀ c, (b.companies.update patch s).1 ≠ .ok c :=
      fun hid c hc => hspared ⟨hid, c, hc⟩
    rw [Backend.change]
    generalize b.companies.update patch s = out at hlaw hspared
    cases hlaw with
    | refused _ _ => exact hr
    | missing _ _ => exact hr
    | taken _ _ _ _ _ => exact hr
    | @written old _ _ hpatch hold _ hnext =>
      refine hnext.rows.mem_iff.2 (List.mem_map.2 ⟨r, hr, if_neg fun hid => ?_⟩)
      obtain ⟨kind, hkind⟩ := h.known.patched hold (patched_overwrite hpatch old)
      exact hspared (hid ▸ (CompanyWrite.ofPatch_eq_ok_iff.1 hpatch).1) _
        (CompanyRow.read_eq hkind)
  | deleteCompany id =>
    have hlaw := l.deleteCompany h.sound id
    have hspared : id = r.id → (b.companies.delete id s).1 ≠ .ok () :=
      fun hid hok => hspared ⟨hid, hok⟩
    rw [Backend.change]
    generalize b.companies.delete id s = out at hlaw hspared
    cases hlaw with
    | missing _ => exact hr
    | removed _ _ hnext =>
      refine hnext.rows.mem_iff.2 (List.mem_filter.2 ⟨hr, ?_⟩)
      simpa using fun hid => hspared (Eq.symm hid) rfl
  | createUser fresh u =>
    rw [Backend.change, l.companyRows_createUser h.sound]
    exact hr

theorem keep_user (h : l.Intact s) {r : UserRow} (hr : r ∈ b.userRows s) (x : Change) :
    r ∈ b.userRows (b.change s x) := by
  cases x with
  | createCompany fresh c => exact (l.createCompany h.sound fresh c).kept_eq ▸ hr
  | updateCompany patch => exact (l.updateCompany h.sound patch).kept_eq ▸ hr
  | deleteCompany id => exact (l.deleteCompany h.sound id).kept_eq ▸ hr
  | createUser fresh u => exact (l.createUser h.sound fresh u).mem_of_mem hr

end Laws.Intact

theorem Laws.lawful_companyShelf {b : Backend σ} (l : b.Laws) :
    b.companyShelf.Lawful l.Intact where
  idOf_read := CompanyRow.id_of_read
  byId := fun h hr hread => (l.companyById_eq_ok_iff h.sound).2 ⟨_, hr, rfl, hread⟩
  byName := fun h hr hread => (l.companyByName_eq_ok_iff h.sound).2 ⟨_, hr, rfl, hread⟩
  change := Intact.change
  keep := fun h hr x hspared => h.keep_company hr x hspared

theorem Laws.lawful_userShelf {b : Backend σ} (l : b.Laws) : b.userShelf.Lawful l.Intact where
  idOf_read := by
    intro r u hread
    rw [← Except.ok.inj hread]
    rfl
  byId := by
    intro s r u h hr hread
    refine (l.userById h.sound _).trans ?_
    exact (Entity.user.answer_eq_ok_iff (l.users h.sound).keys).2 ⟨r, hr, rfl, hread⟩
  byName := by
    intro s r u h hr hread
    refine (l.userByUsername h.sound _).trans ?_
    exact (Entity.user.answer_eq_ok_iff (l.users h.sound).names).2 ⟨r, hr, rfl, hread⟩
  change := Intact.change
  keep := fun h hr x _ => h.keep_user hr x

/-- New records of both tables make the round trip, and nothing is ever done to an account. -/
structure ReadsBack (b : Backend σ) (s : σ) : Prop where
  company : ∀ fresh c, b.companyShelf.RoundTrip (fun row => row.Records c fresh)
    (c.asStored fresh) s (b.companies.create fresh c s)
  user : ∀ fresh u, b.userShelf.RoundTrip (fun row => row.Records u fresh)
    (u.asStored fresh) s (b.users.create fresh u s)
  untouched : ∀ id s' later, b.userShelf.Spares id s' later

theorem Laws.Intact.readsBack {b : Backend σ} {l : b.Laws} {s : σ} (h : l.Intact s) :
    b.ReadsBack s where
  company fresh c := l.lawful_companyShelf.roundTrip CompanyRow.ofNew_eq_ok_iff
    CompanyRow.Records.read_eq_asStored (l.createCompany h.sound fresh c) (h.createCompany fresh c)
  user fresh u := l.lawful_userShelf.roundTrip UserRow.ofNew_eq_ok_iff
    (fun hrow => congrArg Except.ok (UserRow.Records.read_eq_asStored hrow))
    (l.createUser h.sound fresh u) (h.createUser fresh u)
  untouched := b.spares_userShelf

end Backend

/-- Whatever was asked of a store before, a new record that it accepts is read back, and goes on
being read back while its row is left alone. -/
theorem readsBack_after (before : List Change) :
    Backend.memory.ReadsBack (Backend.memory.after before) ∧
      Backend.database.ReadsBack (Backend.database.after before) :=
  ⟨(Memory.laws.intact_after before).readsBack, (Database.laws.intact_after before).readsBack⟩

end Store
end TradeRegister

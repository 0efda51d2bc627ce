import TradeRegister.Proofs.Store.Effects

/-! # Both stores keep the laws

The store in memory is sound while its tables hold their own rows. The database is sound while it is
open and has both tables, whose rows have distinct keys and names. Each then does with its rows what
the laws say.
-/

namespace TradeRegister.Store

namespace Table.Holds

variable {ρ : Type} {key : ρ → Uuid} {name : ρ → String} {t : Table ρ} {rows : List ρ}

theorem self (h : Holds key name t rows) : Holds key name t t.rows :=
  ⟨h.keyed, .refl _, h.distinct.perm h.perm⟩

theorem get?_eq_some_iff (h : Holds key name t rows) {id : Uuid} {r : ρ} :
    t.get? id = some r ↔ r ∈ rows ∧ key r = id := by
  rw [h.get?_eq, find?_eq_some_iff_of_nodup h.distinct.keys]

theorem get?_eq_none_iff (h : Holds key name t rows) {id : Uuid} :
    t.get? id = none ↔ ∀ r ∈ rows, key r ≠ id := by
  rw [h.get?_eq, List.find?_eq_none]
  simp

end Table.Holds

/-! ## The store in memory -/

namespace Memory

/-- Both tables hold their own rows. -/
structure Sound (m : Memory) : Prop where
  companies : Table.Holds CompanyRow.id CompanyRow.name m.companies m.companies.rows
  users : Table.Holds UserRow.id UserRow.username m.users m.users.rows

theorem createCompany_eq (m : Memory) (fresh : Uuid) (c : Company) :
    m.createCompany fresh c =
      match CompanyRow.ofNew fresh c with
      | .error fault => (.error fault, m)
      | .ok row =>
        if m.companies.contains row.id || m.companies.any (fun r => r.name == row.name) then
          (.error (.conflict "company"), m)
        else (row.read, { m with companies := m.companies.put row.id row }) := by
  unfold createCompany CompanyRow.ofNew
  cases CompanyWrite.ofNew fresh c with
  | error fault => rfl
  | ok w => cases h : w.newRow? <;> simp [h]

theorem createUser_eq (m : Memory) (fresh : Uuid) (u : User) :
    m.createUser fresh u =
      match UserRow.ofNew fresh u with
      | .error fault => (.error fault, m)
      | .ok row =>
        if m.users.contains row.id || m.users.any (fun r => r.username == row.username) then
          (.error (.conflict "user"), m)
        else (.ok row.read, { m with users := m.users.put row.id row }) := by
  unfold createUser UserRow.ofNew
  cases UserWrite.ofNew fresh u with
  | error fault => rfl
  | ok w => cases h : w.newRow? <;> simp [h]

namespace Sound

variable {m : Memory}

theorem withCompanies (h : Sound m) {t : Table CompanyRow} {rows rows' : List CompanyRow}
    (hholds : Table.Holds CompanyRow.id CompanyRow.name t rows) (hperm : rows.Perm rows') :
    Becomes Sound Backend.memory.companyRows Backend.memory.userRows m
      { m with companies := t } rows' :=
  ⟨⟨hholds.self, h.users⟩, hholds.perm.trans hperm, rfl⟩

theorem withUsers (h : Sound m) {t : Table UserRow} {rows rows' : List UserRow}
    (hholds : Table.Holds UserRow.id UserRow.username t rows) (hperm : rows.Perm rows') :
    Becomes Sound Backend.memory.userRows Backend.memory.companyRows m
      { m with users := t } rows' :=
  ⟨⟨h.companies, hholds.self⟩, hholds.perm.trans hperm, rfl⟩

theorem createCompany (h : Sound m) (fresh : Uuid) (c : Company) :
    Creation .company (Backend.memory.companyRows m) (CompanyRow.ofNew fresh c) m
      (Becomes Sound Backend.memory.companyRows Backend.memory.userRows m)
      (m.createCompany fresh c) := by
  rw [createCompany_eq]
  cases hasked : CompanyRow.ofNew fresh c with
  | error fault => exact .refused rfl
  | ok row =>
    simp only [h.companies.contains_or_any_eq]
    cases htaken : m.companies.rows.any fun r => r.id == row.id || r.name == row.name with
    | true => exact .of_any rfl htaken
    | false =>
      exact .of_any_eq_false rfl htaken
        (h.withCompanies (h.companies.put_new htaken) List.perm_append_comm)

theorem createUser (h : Sound m) (fresh : Uuid) (u : User) :
    Creation .user (Backend.memory.userRows m) (UserRow.ofNew fresh u) m
      (Becomes Sound Backend.memory.userRows Backend.memory.companyRows m)
      (m.createUser fresh u) := by
  rw [createUser_eq]
  cases hasked : UserRow.ofNew fresh u with
  | error fault => exact .refused rfl
  | ok row =>
    simp only [h.users.contains_or_any_eq]
    cases htaken : m.users.rows.any fun r => r.id == row.id || r.username == row.username with
    | true => exact .of_any rfl htaken
    | false =>
      exact .of_any_eq_false rfl htaken
        (h.withUsers (h.users.put_new htaken) List.perm_append_comm)

theorem updateCompany (h : Sound m) (patch : Company) :
    Amendment (Backend.memory.companyRows m) patch m
      (Becomes Sound Backend.memory.companyRows Backend.memory.userRows m)
      (m.updateCompany patch) := by
  unfold Memory.updateCompany
  cases hpatch : CompanyWrite.ofPatch patch with
  | error fault =>
    -- Only the identifier is read before the row is looked for, so a missing row may hide the fault.
    cases hid : patch.id.require "id" with
    | error fault' =>
      have hsame : CompanyWrite.ofPatch patch = .error fault' := by
        rw [CompanyWrite.ofPatch, hid]
        rfl
      exact .refused hsame (.inl rfl)
    | ok id =>
      dsimp only
      cases m.companies.get? id with
      | none => exact .refused hpatch (.inr rfl)
      | some row =>
        simp only [CompanyRow.amend_eq, hpatch, Except.map]
        exact .refused hpatch (.inl rfl)
  | ok target =>
    obtain ⟨id, w⟩ := target
    rw [Attribute.require_eq_ok_iff.2 (CompanyWrite.ofPatch_eq_ok_iff.1 hpatch).1]
    dsimp only
    cases hget : m.companies.get? id with
    | none => exact .missing hpatch (h.companies.get?_eq_none_iff.1 hget)
    | some row =>
      obtain ⟨hrow, rfl⟩ := h.companies.get?_eq_some_iff.1 hget
      simp only [CompanyRow.amend_eq, hpatch, Except.map, h.companies.any_eq]
      cases htaken : m.companies.rows.any
          fun r => r.id != row.id && r.name == (w.overwrite row).name with
      | true =>
        obtain ⟨r, hr, hother⟩ := List.any_eq_true.1 htaken
        simp only [Bool.and_eq_true, bne_iff_ne, beq_iff_eq] at hother
        exact .taken hpatch hrow hr hother.1 hother.2
      | false =>
        have hkey := CompanyWrite.overwrite_id (CompanyWrite.ofPatch_fixed hpatch).1 row
        have hfree : ∀ r ∈ m.companies.rows, r.id ≠ row.id → r.name ≠ (w.overwrite row).name := by
          simpa using htaken
        exact .written hpatch hrow hfree
          (h.withCompanies (h.companies.put_over hget hkey htaken) (.refl _))

theorem deleteCompany (h : Sound m) (id : Uuid) :
    Deletion (Backend.memory.companyRows m) id m
      (Becomes Sound Backend.memory.companyRows Backend.memory.userRows m)
      (m.deleteCompany id) := by
  unfold Memory.deleteCompany Table.contains
  cases hget : m.companies.get? id with
  | none => exact .missing (h.companies.get?_eq_none_iff.1 hget)
  | some row =>
    obtain ⟨hrow, hid⟩ := h.companies.get?_eq_some_iff.1 hget
    exact .removed hrow hid (h.withCompanies (h.companies.erase id) (.refl _))

end Sound

/-- The store in memory does what the laws say. -/
def laws : Backend.memory.Laws where
  Sound := Sound
  start := ⟨.empty, .empty⟩
  companyRows_start := rfl
  userRows_start := rfl
  companies := fun h => h.companies.distinct
  users := fun h => h.users.distinct
  companyById := fun h => companyById_eq h.companies
  companyByName := fun h => companyByName_eq h.companies
  userById := fun h => userById_eq h.users
  userByUsername := fun h => userByUsername_eq h.users
  createCompany := fun h => h.createCompany
  updateCompany := fun h => h.updateCompany
  deleteCompany := fun h => h.deleteCompany
  createUser := fun h => h.createUser

end Memory

/-! ## The database -/

namespace Database

/-- Open, with both tables in place. -/
structure Sound (d : Database) : Prop where
  isOpen : d.isOpen = true
  companies : ∃ rows, d.companies = some rows ∧ Distinct CompanyRow.id CompanyRow.name rows
  users : ∃ rows, d.users = some rows ∧ Distinct UserRow.id UserRow.username rows

theorem rows_companies (d : Database) :
    Backend.database.companyRows d = d.companies.getD [] := by
  simp [Backend.companyRows, View.rows, Backend.companyView, Backend.database, Function.comp_def]

theorem rows_users (d : Database) : Backend.database.userRows d = d.users.getD [] := by
  simp [Backend.userRows, View.rows, Backend.userView, Backend.database, Function.comp_def]

theorem createCompany_eq (d : Database) (fresh : Uuid) (c : Company) :
    d.createCompany fresh c =
      match CompanyRow.ofNew fresh c with
      | .error fault => (.error fault, d)
      | .ok row => (readCompany (d.insertCompany row).1, (d.insertCompany row).2) := by
  unfold createCompany CompanyRow.ofNew
  cases CompanyWrite.ofNew fresh c with
  | error fault => rfl
  | ok w => cases h : w.newRow? <;> simp [h]

theorem createUser_eq (d : Database) (fresh : Uuid) (u : User) :
    d.createUser fresh u =
      match UserRow.ofNew fresh u with
      | .error fault => (.error fault, d)
      | .ok row => (readUser (d.insertUser row).1, (d.insertUser row).2) := by
  unfold createUser UserRow.ofNew
  cases UserWrite.ofNew fresh u with
  | error fault => rfl
  | ok w => cases h : w.newRow? <;> simp [h]

namespace Sound

variable {d : Database}

theorem companies_eq (h : Sound d) : d.companies = some (Backend.database.companyRows d) := by
  obtain ⟨rows, hrows, _⟩ := h.companies
  rw [rows_companies, hrows, Option.getD_some]

theorem users_eq (h : Sound d) : d.users = some (Backend.database.userRows d) := by
  obtain ⟨rows, hrows, _⟩ := h.users
  rw [rows_users, hrows, Option.getD_some]

theorem companyRows_eq (h : Sound d) : d.companyRows = .ok (Backend.database.companyRows d) := by
  simp [Database.companyRows, h.isOpen, h.companies_eq]

theorem userRows_eq (h : Sound d) : d.userRows = .ok (Backend.database.userRows d) := by
  simp [Database.userRows, h.isOpen, h.users_eq]

theorem distinct_companies (h : Sound d) :
    Distinct CompanyRow.id CompanyRow.name (Backend.database.companyRows d) := by
  obtain ⟨rows, hrows, hdistinct⟩ := h.companies
  rwa [rows_companies, hrows]

theorem distinct_users (h : Sound d) :
    Distinct UserRow.id UserRow.username (Backend.database.userRows d) := by
  obtain ⟨rows, hrows, hdistinct⟩ := h.users
  rwa [rows_users, hrows]

theorem withCompanies (h : Sound d) {rows rows' : List CompanyRow}
    (hdistinct : Distinct CompanyRow.id CompanyRow.name rows) (hperm : rows.Perm rows') :
    Becomes Sound Backend.database.companyRows Backend.database.userRows d
      { d with companies := some rows } rows' where
  sound := ⟨h.isOpen, ⟨rows, rfl, hdistinct⟩, h.users⟩
  rows := by rwa [rows_companies]
  kept := by rw [rows_users, rows_users]

theorem withUsers (h : Sound d) {rows rows' : List UserRow}
    (hdistinct : Distinct UserRow.id UserRow.username rows) (hperm : rows.Perm rows') :
    Becomes Sound Backend.database.userRows Backend.database.companyRows d
      { d with users := some rows } rows' where
  sound := ⟨h.isOpen, h.companies, ⟨rows, rfl, hdistinct⟩⟩
  rows := by rwa [rows_users]
  kept := by rw [rows_companies, rows_companies]

theorem createCompany (h : Sound d) (fresh : Uuid) (c : Company) :
    Creation .company (Backend.database.companyRows d) (CompanyRow.ofNew fresh c) d
      (Becomes Sound Backend.database.companyRows Backend.database.userRows d)
      (d.createCompany fresh c) := by
  rw [createCompany_eq]
  cases hasked : CompanyRow.ofNew fresh c with
  | error fault => exact .refused rfl
  | ok row =>
    simp only [insertCompany, h.companyRows_eq]
    cases htaken : (Backend.database.companyRows d).any
        fun r => r.id == row.id || r.name == row.name with
    | true => exact .of_any rfl htaken
    | false =>
      exact .of_any_eq_false rfl htaken
        (h.withCompanies (h.distinct_companies.append_new htaken) List.perm_append_comm)

theorem createUser (h : Sound d) (fresh : Uuid) (u : User) :
    Creation .user (Backend.database.userRows d) (UserRow.ofNew fresh u) d
      (Becomes Sound Backend.database.userRows Backend.database.companyRows d)
      (d.createUser fresh u) := by
  rw [createUser_eq]
  cases hasked : UserRow.ofNew fresh u with
  | error fault => exact .refused rfl
  | ok row =>
    simp only [insertUser, h.userRows_eq]
    cases htaken : (Backend.database.userRows d).any
        fun r => r.id == row.id || r.username == row.username with
    | true => exact .of_any rfl htaken
    | false =>
      exact .of_any_eq_false rfl htaken
        (h.withUsers (h.distinct_users.append_new htaken) List.perm_append_comm)

theorem updateCompany (h : Sound d) (patch : Company) :
    Amendment (Backend.database.companyRows d) patch d
      (Becomes Sound Backend.database.companyRows Backend.database.userRows d)
      (d.updateCompany patch) := by
  unfold Database.updateCompany
  cases hpatch : CompanyWrite.ofPatch patch with
  | error fault => exact .refused hpatch (.inl rfl)
  | ok target =>
    obtain ⟨id, w⟩ := target
    dsimp only
    cases hfind : (Backend.database.companyRows d).find? fun r => r.id == id with
    | none =>
      have hnone : ∀ r ∈ Backend.database.companyRows d, r.id ≠ id := by simpa using hfind
      by_cases hw : w.isChanged
      · simp only [hw, if_true, writeCompany, h.companyRows_eq, hfind]
        exact .missing hpatch hnone
      · rw [if_neg hw, Database.companyById_eq h.companyRows_eq, hfind]
        exact .missing hpatch hnone
    | some row =>
      obtain ⟨hrow, rfl⟩ := (find?_eq_some_iff_of_nodup h.distinct_companies.keys).1 hfind
      have hkey := CompanyWrite.overwrite_id (CompanyWrite.ofPatch_fixed hpatch).1 row
      by_cases hw : w.isChanged
      · simp only [hw, if_true, writeCompany, h.companyRows_eq, hfind]
        cases htaken : (Backend.database.companyRows d).any
            fun r => r.id != row.id && r.name == (w.overwrite row).name with
        | true =>
          obtain ⟨r, hr, hother⟩ := List.any_eq_true.1 htaken
          simp only [Bool.and_eq_true, bne_iff_ne, beq_iff_eq] at hother
          exact .taken hpatch hrow hr hother.1 hother.2
        | false =>
          have hfree : ∀ r ∈ Backend.database.companyRows d,
              r.id ≠ row.id → r.name ≠ (w.overwrite row).name := by
            simpa using htaken
          exact .written hpatch hrow hfree
            (h.withCompanies (h.distinct_companies.replace hkey hfree) (.refl _))
      · have hsame := CompanyWrite.overwrite_of_not_isChanged (by simpa using hw) row
        have hfree : ∀ r ∈ Backend.database.companyRows d,
            r.id ≠ row.id → r.name ≠ (w.overwrite row).name := by
          intro r hr hid hname
          rw [hsame] at hname
          exact hid (congrArg CompanyRow.id (h.distinct_companies.eq_of_name hr hrow hname))
        have hread : (d.companyById row.id, d) = ((w.overwrite row).read, d) := by
          rw [Database.companyById_eq h.companyRows_eq, hfind, hsame]
          rfl
        rw [if_neg hw, hread]
        refine .written hpatch hrow hfree ⟨h, ?_, rfl⟩
        rw [hsame, h.distinct_companies.replace_self hrow]

theorem deleteCompany (h : Sound d) (id : Uuid) :
    Deletion (Backend.database.companyRows d) id d
      (Becomes Sound Backend.database.companyRows Backend.database.userRows d)
      (d.deleteCompany id) := by
  unfold Database.deleteCompany
  simp only [removeCompany, h.companyRows_eq]
  by_cases hfound : ∃ row ∈ Backend.database.companyRows d, row.id = id
  · obtain ⟨row, hrow, hid⟩ := hfound
    have hlt : ((Backend.database.companyRows d).filter fun r => r.id != id).length <
        (Backend.database.companyRows d).length :=
      List.length_filter_lt_length_iff_exists.2 ⟨row, hrow, by simpa using hid⟩
    obtain ⟨n, hn⟩ := Nat.exists_eq_succ_of_ne_zero (Nat.sub_ne_zero_of_lt hlt)
    rw [hn]
    exact .removed hrow hid (h.withCompanies (h.distinct_companies.filter _) (.refl _))
  · have hnone : ∀ r ∈ Backend.database.companyRows d, r.id ≠ id := by simpa using hfound
    have hself : (Backend.database.companyRows d).filter (fun r => r.id != id) =
        Backend.database.companyRows d := by
      rw [List.filter_eq_self]
      simpa using hnone
    rw [hself, Nat.sub_self, ← h.companies_eq]
    exact .missing hnone

end Sound

/-- The database does what the laws say. -/
def laws : Backend.database.Laws where
  Sound := Sound
  start := ⟨rfl, ⟨[], rfl, .nil⟩, ⟨[], rfl, .nil⟩⟩
  companyRows_start := rfl
  userRows_start := rfl
  companies := fun h => h.distinct_companies
  users := fun h => h.distinct_users
  companyById := fun h => companyById_eq h.companyRows_eq
  companyByName := fun h => companyByName_eq h.companyRows_eq
  userById := fun h => userById_eq h.userRows_eq
  userByUsername := fun h => userByUsername_eq h.userRows_eq
  createCompany := fun h => h.createCompany
  updateCompany := fun h => h.updateCompany
  deleteCompany := fun h => h.deleteCompany
  createUser := fun h => h.createUser

end Database

end TradeRegister.Store

import TradeRegister.Proofs.Store.Lookup
import TradeRegister.Proofs.Store.Write

/-! # Two stores with the same rows

The two stores answer every operation alike while they hold the same rows, and hold the same rows
afterwards. Only for an update that cannot be turned into a write may the answers differ, since one
store looks for the row first; neither changes then.
-/

namespace TradeRegister.Store

/-- A database that is open, has its schema in place, and holds the rows of the tables in memory. -/
structure Agree (m : Memory) (d : Database) : Prop where
  isOpen : d.isOpen = true
  companies : ∃ rows, d.companies = some rows ∧
    Table.Holds CompanyRow.id CompanyRow.name m.companies rows
  users : ∃ rows, d.users = some rows ∧ Table.Holds UserRow.id UserRow.username m.users rows

/-- The two stores answered alike, and agree afterwards. -/
def Alike {α : Type} (x : Except Fault α × Memory) (y : Except Fault α × Database) : Prop :=
  x.1 = y.1 ∧ Agree x.2 y.2

/-- Both stores refused, or both returned the same value. -/
@[elab_as_elim]
theorem Alike.elim {α : Type} {motive : Except Fault α × Memory → Except Fault α × Database → Prop}
    {x : Except Fault α × Memory} {y : Except Fault α × Database} (h : Alike x y)
    (error : ∀ fault m d, Agree m d → motive (.error fault, m) (.error fault, d))
    (ok : ∀ a m d, Agree m d → motive (.ok a, m) (.ok a, d)) : motive x y := by
  obtain ⟨result, m⟩ := x
  obtain ⟨_, d⟩ := y
  obtain ⟨rfl, hagree⟩ := h
  cases result with
  | error fault => exact error fault m d hagree
  | ok a => exact ok a m d hagree

namespace Agree

variable {m : Memory} {d : Database}

theorem start : Agree {} .fresh := ⟨rfl, ⟨[], rfl, .empty⟩, ⟨[], rfl, .empty⟩⟩

theorem companyRows (h : Agree m d) : ∃ rows, d.companyRows = .ok rows ∧
    d.companies = some rows ∧ Table.Holds CompanyRow.id CompanyRow.name m.companies rows := by
  obtain ⟨rows, hrows, hholds⟩ := h.companies
  exact ⟨rows, by simp [Database.companyRows, h.isOpen, hrows], hrows, hholds⟩

theorem userRows (h : Agree m d) : ∃ rows, d.userRows = .ok rows ∧
    d.users = some rows ∧ Table.Holds UserRow.id UserRow.username m.users rows := by
  obtain ⟨rows, hrows, hholds⟩ := h.users
  exact ⟨rows, by simp [Database.userRows, h.isOpen, hrows], hrows, hholds⟩

theorem withCompanies (h : Agree m d) {t : Table CompanyRow} {rows : List CompanyRow}
    (hholds : Table.Holds CompanyRow.id CompanyRow.name t rows) :
    Agree { m with companies := t } { d with companies := some rows } :=
  ⟨h.isOpen, ⟨rows, rfl, hholds⟩, h.users⟩

theorem withUsers (h : Agree m d) {t : Table UserRow} {rows : List UserRow}
    (hholds : Table.Holds UserRow.id UserRow.username t rows) :
    Agree { m with users := t } { d with users := some rows } :=
  ⟨h.isOpen, h.companies, ⟨rows, rfl, hholds⟩⟩

/-! ## Reading -/

theorem companyById (h : Agree m d) (id : Uuid) : m.companyById id = d.companyById id := by
  obtain ⟨rows, hrows, _, hholds⟩ := h.companyRows
  rw [Memory.companyById_eq hholds, Database.companyById_eq hrows]

theorem companyByName (h : Agree m d) (n : String) : m.companyByName n = d.companyByName n := by
  obtain ⟨rows, hrows, _, hholds⟩ := h.companyRows
  rw [Memory.companyByName_eq hholds, Database.companyByName_eq hrows]

theorem userById (h : Agree m d) (id : Uuid) : m.userById id = d.userById id := by
  obtain ⟨rows, hrows, _, hholds⟩ := h.userRows
  rw [Memory.userById_eq hholds, Database.userById_eq hrows]

theorem userByUsername (h : Agree m d) (n : String) : m.userByUsername n = d.userByUsername n := by
  obtain ⟨rows, hrows, _, hholds⟩ := h.userRows
  rw [Memory.userByUsername_eq hholds, Database.userByUsername_eq hrows]

/-! ## Writing -/

theorem createCompany (h : Agree m d) (fresh : Uuid) (c : Company) :
    Alike (m.createCompany fresh c) (d.createCompany fresh c) := by
  obtain ⟨rows, hrows, _, hholds⟩ := h.companyRows
  unfold Memory.createCompany Database.createCompany
  cases CompanyWrite.ofNew fresh c with
  | error fault => exact ⟨rfl, h⟩
  | ok w =>
    dsimp only
    cases w.newRow? with
    | none => exact ⟨rfl, h⟩
    | some row =>
      simp only [Database.insertCompany, hrows, hholds.contains_or_any_eq]
      cases htaken : rows.any fun r => r.id == row.id || r.name == row.name with
      | true => exact ⟨rfl, h⟩
      | false => exact ⟨rfl, h.withCompanies (hholds.put_new htaken)⟩

theorem createUser (h : Agree m d) (fresh : Uuid) (u : User) :
    Alike (m.createUser fresh u) (d.createUser fresh u) := by
  obtain ⟨rows, hrows, _, hholds⟩ := h.userRows
  unfold Memory.createUser Database.createUser
  cases UserWrite.ofNew fresh u with
  | error fault => exact ⟨rfl, h⟩
  | ok w =>
    dsimp only
    cases w.newRow? with
    | none => exact ⟨rfl, h⟩
    | some row =>
      simp only [Database.insertUser, hrows, hholds.contains_or_any_eq]
      cases htaken : rows.any fun r => r.id == row.id || r.username == row.username with
      | true => exact ⟨rfl, h⟩
      | false => exact ⟨rfl, h.withUsers (hholds.put_new htaken)⟩

theorem deleteCompany (h : Agree m d) (id : Uuid) :
    Alike (m.deleteCompany id) (d.deleteCompany id) := by
  obtain ⟨rows, hrows, hd, hholds⟩ := h.companyRows
  unfold Memory.deleteCompany Database.deleteCompany
  simp only [Database.removeCompany, hrows, hholds.contains_eq]
  cases hfound : rows.any fun r => r.id == id with
  | true =>
    obtain ⟨r, hr, hid⟩ := List.any_eq_true.1 hfound
    have hlt : (rows.filter fun r => r.id != id).length < rows.length :=
      List.length_filter_lt_length_iff_exists.2 ⟨r, hr, by simpa using hid⟩
    obtain ⟨n, hn⟩ : ∃ n, rows.length - (rows.filter fun r => r.id != id).length = n + 1 :=
      ⟨rows.length - (rows.filter fun r => r.id != id).length - 1, by omega⟩
    rw [hn]
    exact ⟨rfl, h.withCompanies (hholds.erase id)⟩
  | false =>
    have hself : rows.filter (fun r => r.id != id) = rows := by
      rw [List.filter_eq_self]
      simpa using hfound
    rw [hself, Nat.sub_self]
    refine ⟨rfl, ?_⟩
    have hsame : { d with companies := some rows } = d := by rw [← hd]
    rw [hsame]
    exact h

theorem updateCompany (h : Agree m d) {c : Company} {id : Uuid} {w : CompanyWrite}
    (hc : CompanyWrite.ofPatch c = .ok (id, w)) : Alike (m.updateCompany c) (d.updateCompany c) := by
  obtain ⟨rows, hrows, hd, hholds⟩ := h.companyRows
  have hid : c.id.require "id" = .ok id :=
    Attribute.require_eq_ok_iff.2 (CompanyWrite.ofPatch_eq_ok_iff.1 hc).1
  rw [Memory.updateCompany, Database.updateCompany, hc, hid]
  dsimp only
  cases hget : m.companies.get? id with
  | none =>
    have hfind := hholds.get?_eq id ▸ hget
    by_cases hw : w.isChanged
    · simp only [hw, if_true, Database.writeCompany, hrows, hfind]
      exact ⟨rfl, h⟩
    · rw [if_neg hw, ← h.companyById, Memory.companyById, hget]
      exact ⟨rfl, h⟩
  | some row =>
    have hfind := hholds.get?_eq id ▸ hget
    have hrow : row ∈ rows ∧ row.id = id :=
      (find?_eq_some_iff_of_nodup hholds.distinct.keys).1 hfind
    simp only [CompanyRow.amend_eq, hc, Except.map, hholds.any_eq]
    by_cases hw : w.isChanged
    · have hkey : (w.overwrite row).id = id :=
        (CompanyWrite.overwrite_id (CompanyWrite.ofPatch_fixed hc).1 row).trans hrow.2
      simp only [hw, if_true, Database.writeCompany, hrows, hfind]
      cases htaken : rows.any fun r => r.id != id && r.name == (w.overwrite row).name with
      | true => exact ⟨rfl, h⟩
      | false => exact ⟨rfl, h.withCompanies (hholds.put_over hget hkey htaken)⟩
    · have hfree := hholds.distinct.any_eq_false hrow.1
      rw [hrow.2] at hfree
      rw [CompanyWrite.overwrite_of_not_isChanged (by simpa using hw), hfree, if_neg hw,
        ← h.companyById, Memory.companyById, hget]
      exact ⟨rfl, h.isOpen, ⟨rows, hd, hholds.put_same hget⟩, h.users⟩

/-- An update that cannot be turned into a write changes neither store. -/
theorem updateCompany_refused (h : Agree m d) {c : Company} {fault : Fault}
    (hc : CompanyWrite.ofPatch c = .error fault) :
    Agree (m.updateCompany c).2 (d.updateCompany c).2 := by
  rw [Memory.updateCompany, Database.updateCompany, hc]
  cases c.id.require "id" with
  | error fault => exact h
  | ok id =>
    dsimp only
    cases m.companies.get? id with
    | none => exact h
    | some row =>
      simp only [CompanyRow.amend_eq, hc, Except.map]
      exact h

end Agree
end TradeRegister.Store

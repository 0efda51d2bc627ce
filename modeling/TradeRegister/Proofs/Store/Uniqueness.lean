import TradeRegister.Proofs.Store.Agreement

/-! # Keys and names are unique

Whatever is created, updated and deleted, in whatever order and with whatever records, every row is
stored under its own key, and no two rows share a key or a name. A lookup by name therefore has at
most one row to find, and finds what a lookup by key finds.
-/

namespace TradeRegister.Store

variable {σ ρ α : Type}

/-! ## Coherent lookups -/

/-- What a store shows of one table: its rows with the keys they are stored under, and its lookups. -/
structure View (ρ α : Type) where
  entries : List (Uuid × ρ)
  byId : Uuid → Except Fault α
  byName : String → Except Fault α

def View.rows (v : View ρ α) : List ρ := v.entries.map (·.2)

/-- Keys and names are unique, and the lookup by name has one answer: the one that a lookup by key
gives, in whatever order the rows are scanned. -/
structure Coherent (e : Entity ρ α) (v : View ρ α) : Prop where
  keyed : ∀ x ∈ v.entries, x.1 = e.id x.2
  ids : (v.rows.map e.id).Nodup
  names : (v.rows.map e.name).Nodup
  byName_eq_ok_iff : ∀ n a, v.byName n = .ok a ↔ ∃ id, v.byId id = .ok a ∧ e.nameOf a = .value n
  byName_eq_of_perm : ∀ scan : List ρ, scan.Perm v.rows → ∀ n,
    v.byName n = e.answer (scan.find? fun r => e.name r == n)

theorem Coherent.of_distinct {e : Entity ρ α} {v : View ρ α} {rows : List ρ}
    (hkeyed : ∀ x ∈ v.entries, x.1 = e.id x.2) (hperm : v.rows.Perm rows)
    (h : Distinct e.id e.name rows)
    (hid : ∀ id, v.byId id = e.answer (rows.find? fun r => e.id r == id))
    (hname : ∀ n, v.byName n = e.answer (rows.find? fun r => e.name r == n)) : Coherent e v where
  keyed := hkeyed
  ids := (h.perm hperm).keys
  names := (h.perm hperm).names
  byName_eq_ok_iff := by
    intro n a
    rw [hname, e.answer_eq_ok_iff h.names]
    constructor
    · rintro ⟨r, hr, rfl, hread⟩
      refine ⟨e.id r, ?_, e.nameOf_read hread⟩
      rw [hid, e.answer_eq_ok_iff h.keys]
      exact ⟨r, hr, rfl, hread⟩
    · rintro ⟨id, hfound, hn⟩
      rw [hid, e.answer_eq_ok_iff h.keys] at hfound
      obtain ⟨r, hr, _, hread⟩ := hfound
      rw [e.nameOf_read hread] at hn
      exact ⟨r, hr, Attribute.value.inj hn, hread⟩
  byName_eq_of_perm := by
    intro scan hscan n
    rw [hname, find?_eq_of_perm h.names (hscan.trans hperm)]

/-! ## Stores -/

/-- A store that starts empty, and the rows of its tables with the keys they are stored under. -/
structure Backend (σ : Type) where
  start : σ
  companies : CompanyRepository σ
  users : UserRepository σ
  companyEntries : σ → List (Uuid × CompanyRow)
  userEntries : σ → List (Uuid × UserRow)

namespace Backend

def memory : Backend Memory where
  start := {}
  companies := Memory.companyRepository
  users := Memory.userRepository
  companyEntries := fun m => m.companies.entries
  userEntries := fun m => m.users.entries

/-- The key of a row in the database is its column of identifiers. -/
def database : Backend Database where
  start := .fresh
  companies := Database.companyRepository
  users := Database.userRepository
  companyEntries := fun d => (d.companies.getD []).map fun r => (r.id, r)
  userEntries := fun d => (d.users.getD []).map fun r => (r.id, r)

variable (b : Backend σ)

def companyView (s : σ) : View CompanyRow Company where
  entries := b.companyEntries s
  byId := fun id => b.companies.byId id s
  byName := fun n => b.companies.byName n s

def userView (s : σ) : View UserRow User where
  entries := b.userEntries s
  byId := fun id => b.users.byId id s
  byName := fun n => b.users.byUsername n s

end Backend

namespace Agree

variable {m : Memory} {d : Database}

theorem coherent_companies (h : Agree m d) :
    Coherent .company (Backend.memory.companyView m) ∧
      Coherent .company (Backend.database.companyView d) := by
  obtain ⟨rows, hrows, hd, hholds⟩ := h.companyRows
  constructor
  · exact .of_distinct hholds.keyed hholds.perm hholds.distinct (Memory.companyById_eq hholds)
      (Memory.companyByName_eq hholds)
  · apply Coherent.of_distinct _ _ hholds.distinct (Database.companyById_eq hrows)
      (Database.companyByName_eq hrows)
    · simp [Backend.companyView, Backend.database, hd, Entity.company]
    · simp [View.rows, Backend.companyView, Backend.database, hd, Function.comp_def]

theorem coherent_users (h : Agree m d) :
    Coherent .user (Backend.memory.userView m) ∧
      Coherent .user (Backend.database.userView d) := by
  obtain ⟨rows, hrows, hd, hholds⟩ := h.userRows
  constructor
  · exact .of_distinct hholds.keyed hholds.perm hholds.distinct (Memory.userById_eq hholds)
      (Memory.userByUsername_eq hholds)
  · apply Coherent.of_distinct _ _ hholds.distinct (Database.userById_eq hrows)
      (Database.userByUsername_eq hrows)
    · simp [Backend.userView, Backend.database, hd, Entity.user]
    · simp [View.rows, Backend.userView, Backend.database, hd, Function.comp_def]

end Agree

/-! ## Changes -/

/-- Any change that a repository is asked for; a creation comes with an identifier to assign. -/
inductive Change
  | createCompany (fresh : Uuid) (c : Company)
  | updateCompany (patch : Company)
  | deleteCompany (id : Uuid)
  | createUser (fresh : Uuid) (u : User)

namespace Backend

variable (b : Backend σ)

def change (s : σ) : Change → σ
  | .createCompany fresh c => (b.companies.create fresh c s).2
  | .updateCompany patch => (b.companies.update patch s).2
  | .deleteCompany id => (b.companies.delete id s).2
  | .createUser fresh u => (b.users.create fresh u s).2

def after (changes : List Change) : σ := changes.foldl b.change b.start

end Backend

theorem Agree.change {m : Memory} {d : Database} (h : Agree m d) (x : Change) :
    Agree (Backend.memory.change m x) (Backend.database.change d x) := by
  cases x with
  | createCompany fresh c => exact (h.createCompany fresh c).2
  | updateCompany patch =>
    cases hpatch : CompanyWrite.ofPatch patch with
    | error fault => exact h.updateCompany_refused hpatch
    | ok target => exact (h.updateCompany hpatch).2
  | deleteCompany id => exact (h.deleteCompany id).2
  | createUser fresh u => exact (h.createUser fresh u).2

theorem agree_after (changes : List Change) :
    Agree (Backend.memory.after changes) (Backend.database.after changes) := by
  have hrun : ∀ m d, Agree m d →
      Agree (changes.foldl Backend.memory.change m) (changes.foldl Backend.database.change d) := by
    induction changes with
    | nil => exact fun m d h => h
    | cons x changes ih => exact fun m d h => ih _ _ (h.change x)
  exact hrun _ _ .start

/-- Whatever was asked of a store, its keys and names are unique and its lookups coherent. -/
theorem coherent_after (changes : List Change) :
    (Coherent .company (Backend.memory.companyView (Backend.memory.after changes)) ∧
      Coherent .user (Backend.memory.userView (Backend.memory.after changes))) ∧
    (Coherent .company (Backend.database.companyView (Backend.database.after changes)) ∧
      Coherent .user (Backend.database.userView (Backend.database.after changes))) := by
  have h := agree_after changes
  obtain ⟨hcm, hcd⟩ := h.coherent_companies
  obtain ⟨hum, hud⟩ := h.coherent_users
  exact ⟨⟨hcm, hum⟩, hcd, hud⟩

end TradeRegister.Store

import TradeRegister.Proofs.Store.Record
import TradeRegister.Proofs.Store.Uniqueness

/-! # What an operation does to the rows

A store shows the rows of its tables. Whatever it is asked, there are few things it may do: refuse
the record, find that a row is missing or in the way, or change exactly one row. Both stores keep to
these laws, and what is proved from the laws alone holds of both.
-/

namespace TradeRegister.Store

variable {σ ρ τ α : Type}

/-- Anything that a repository of companies is asked; a creation comes with an identifier to
assign. -/
inductive Operation
  | create (fresh : Uuid) (c : Company)
  | byId (id : Uuid)
  | byName (name : String)
  | update (patch : Company)
  | delete (id : Uuid)

/-- The answer, and the state after it. A deletion is answered without a record. -/
def CompanyRepository.perform (repo : CompanyRepository σ) (s : σ) :
    Operation → Except Fault (Option Company) × σ
  | .create fresh c => ((repo.create fresh c s).1.map some, (repo.create fresh c s).2)
  | .byId id => ((repo.byId id s).map some, s)
  | .byName name => ((repo.byName name s).map some, s)
  | .update patch => ((repo.update patch s).1.map some, (repo.update patch s).2)
  | .delete id => ((repo.delete id s).1.map fun _ => none, (repo.delete id s).2)

namespace Backend

def companyRows (b : Backend σ) (s : σ) : List CompanyRow := (b.companyView s).rows

def userRows (b : Backend σ) (s : σ) : List UserRow := (b.userView s).rows

end Backend

/-- Everything that a creation may lead to. `asked` is the row to insert, and `Next s' rows'` says of
a state that it has these rows. -/
inductive Creation (e : Entity ρ α) (rows : List ρ) (asked : Except Fault ρ) (s : σ)
    (Next : σ → List ρ → Prop) : Except Fault α × σ → Prop
  | refused {fault : Fault} (hasked : asked = .error fault) :
    Creation e rows asked s Next (.error fault, s)
  | taken {row r : ρ} (hasked : asked = .ok row) (hr : r ∈ rows)
    (hsame : e.id r = e.id row ∨ e.name r = e.name row) :
    Creation e rows asked s Next (.error (.conflict e.label), s)
  | stored {row : ρ} {s' : σ} (hasked : asked = .ok row)
    (hfree : ∀ r ∈ rows, e.id r ≠ e.id row ∧ e.name r ≠ e.name row)
    (hnext : Next s' (row :: rows)) : Creation e rows asked s Next (e.read row, s')

namespace Creation

variable {e : Entity ρ α} {rows : List ρ} {asked : Except Fault ρ} {row : ρ} {s s' : σ}
  {Next : σ → List ρ → Prop}

theorem of_any (hasked : asked = .ok row)
    (htaken : (rows.any fun r => e.id r == e.id row || e.name r == e.name row) = true) :
    Creation e rows asked s Next (.error (.conflict e.label), s) := by
  obtain ⟨r, hr, hsame⟩ := List.any_eq_true.1 htaken
  exact .taken hasked hr (by simpa using hsame)

theorem of_any_eq_false (hasked : asked = .ok row)
    (hfree : (rows.any fun r => e.id r == e.id row || e.name r == e.name row) = false)
    (hnext : Next s' (row :: rows)) : Creation e rows asked s Next (e.read row, s') :=
  .stored hasked (by simpa using hfree) hnext

theorem eq_of_error {out : Except Fault α × σ} (h : Creation e rows asked s Next out)
    {fault : Fault} (hasked : asked = .error fault) : out = (.error fault, s) := by
  cases h with
  | refused hasked' =>
    obtain rfl := Except.error.inj (hasked'.symm.trans hasked)
    rfl
  | taken hasked' _ _ => cases hasked'.symm.trans hasked
  | stored hasked' _ _ => cases hasked'.symm.trans hasked

theorem taken_or_stored {out : Except Fault α × σ} (h : Creation e rows asked s Next out)
    (hasked : asked = .ok row) :
    (out = (.error (.conflict e.label), s) ∧
        ∃ r ∈ rows, e.id r = e.id row ∨ e.name r = e.name row) ∨
      out.1 = e.read row ∧ (∀ r ∈ rows, e.id r ≠ e.id row ∧ e.name r ≠ e.name row) ∧
        Next out.2 (row :: rows) := by
  cases h with
  | refused hasked' => cases hasked'.symm.trans hasked
  | taken hasked' hr hsame =>
    obtain rfl := Except.ok.inj (hasked'.symm.trans hasked)
    exact .inl ⟨rfl, _, hr, hsame⟩
  | stored hasked' hfree hnext =>
    obtain rfl := Except.ok.inj (hasked'.symm.trans hasked)
    exact .inr ⟨rfl, hfree, hnext⟩

theorem of_ok {a : α} (h : Creation e rows asked s Next (.ok a, s')) :
    ∃ row, asked = .ok row ∧ (∀ r ∈ rows, e.id r ≠ e.id row ∧ e.name r ≠ e.name row) ∧
      Next s' (row :: rows) ∧ e.read row = .ok a := by
  generalize hout : (Except.ok a, s') = out at h
  cases h with
  | refused _ => cases hout
  | taken _ _ _ => cases hout
  | stored hasked hfree hnext =>
    obtain ⟨hread, rfl⟩ := Prod.mk.inj hout
    exact ⟨_, hasked, hfree, hnext, hread.symm⟩

theorem of_fst_ok {out : Except Fault α × σ} {a : α} (h : Creation e rows asked s Next out)
    (ha : out.1 = .ok a) : ∃ row, asked = .ok row ∧
      (∀ r ∈ rows, e.id r ≠ e.id row ∧ e.name r ≠ e.name row) ∧ Next out.2 (row :: rows) ∧
      e.read row = .ok a := by
  rw [show out = (.ok a, out.2) from Prod.ext ha rfl] at h
  exact h.of_ok

/-- A fault leaves the state alone if whatever is asked for can be read. -/
theorem of_error {fault : Fault} (h : Creation e rows asked s Next (.error fault, s'))
    (hread : ∀ row, asked = .ok row → ∃ a, e.read row = .ok a) : s' = s := by
  generalize hout : (Except.error fault, s') = out at h
  cases h with
  | refused _ => exact congrArg Prod.snd hout
  | taken _ _ _ => exact congrArg Prod.snd hout
  | stored hasked _ _ =>
    obtain ⟨a, ha⟩ := hread _ hasked
    cases (congrArg Prod.fst hout).trans ha

end Creation

/-- Everything that a partial update may lead to. A store may look for the row first. -/
inductive Amendment (rows : List CompanyRow) (patch : Company) (s : σ)
    (Next : σ → List CompanyRow → Prop) : Except Fault Company × σ → Prop
  | refused {fault fault' : Fault} (hpatch : CompanyWrite.ofPatch patch = .error fault)
    (hfault : fault' = fault ∨ fault' = .notFound "company") :
    Amendment rows patch s Next (.error fault', s)
  | missing {id : Uuid} {w : CompanyWrite} (hpatch : CompanyWrite.ofPatch patch = .ok (id, w))
    (hnone : ∀ r ∈ rows, r.id ≠ id) : Amendment rows patch s Next (.error (.notFound "company"), s)
  | taken {row r : CompanyRow} {w : CompanyWrite}
    (hpatch : CompanyWrite.ofPatch patch = .ok (row.id, w)) (hrow : row ∈ rows) (hr : r ∈ rows)
    (hid : r.id ≠ row.id) (hname : r.name = (w.overwrite row).name) :
    Amendment rows patch s Next (.error (.conflict "company"), s)
  | written {row : CompanyRow} {w : CompanyWrite} {s' : σ}
    (hpatch : CompanyWrite.ofPatch patch = .ok (row.id, w)) (hrow : row ∈ rows)
    (hfree : ∀ r ∈ rows, r.id ≠ row.id → r.name ≠ (w.overwrite row).name)
    (hnext : Next s' (rows.map fun r => if r.id = row.id then w.overwrite row else r)) :
    Amendment rows patch s Next ((w.overwrite row).read, s')

theorem Amendment.of_ok {rows : List CompanyRow} {patch c : Company} {s s' : σ}
    {Next : σ → List CompanyRow → Prop} (h : Amendment rows patch s Next (.ok c, s')) :
    ∃ row w, CompanyWrite.ofPatch patch = .ok (row.id, w) ∧ row ∈ rows ∧
      (∀ r ∈ rows, r.id ≠ row.id → r.name ≠ (w.overwrite row).name) ∧
      Next s' (rows.map fun r => if r.id = row.id then w.overwrite row else r) ∧
      (w.overwrite row).read = .ok c := by
  generalize hout : (Except.ok c, s') = out at h
  cases h with
  | refused _ _ => cases hout
  | missing _ _ => cases hout
  | taken _ _ _ _ _ => cases hout
  | written hpatch hrow hfree hnext =>
    obtain ⟨hread, rfl⟩ := Prod.mk.inj hout
    exact ⟨_, _, hpatch, hrow, hfree, hnext, hread.symm⟩

/-- A fault leaves the state alone, or comes after the update. -/
theorem Amendment.of_error {rows : List CompanyRow} {patch : Company} {fault : Fault} {s s' : σ}
    {Next : σ → List CompanyRow → Prop} (h : Amendment rows patch s Next (.error fault, s')) :
    s' = s ∨ ∃ row w, CompanyWrite.ofPatch patch = .ok (row.id, w) ∧ row ∈ rows ∧
      ∀ r ∈ rows, r.id ≠ row.id → r.name ≠ (w.overwrite row).name := by
  generalize hout : (Except.error fault, s') = out at h
  cases h with
  | refused _ _ => exact .inl (congrArg Prod.snd hout)
  | missing _ _ => exact .inl (congrArg Prod.snd hout)
  | taken _ _ _ _ _ => exact .inl (congrArg Prod.snd hout)
  | written hpatch hrow hfree _ => exact .inr ⟨_, _, hpatch, hrow, hfree⟩

inductive Deletion (rows : List CompanyRow) (id : Uuid) (s : σ)
    (Next : σ → List CompanyRow → Prop) : Except Fault Unit × σ → Prop
  | missing (hnone : ∀ r ∈ rows, r.id ≠ id) :
    Deletion rows id s Next (.error (.notFound "company"), s)
  | removed {row : CompanyRow} {s' : σ} (hrow : row ∈ rows) (hid : row.id = id)
    (hnext : Next s' (rows.filter fun r => r.id != id)) : Deletion rows id s Next (.ok (), s')

theorem Deletion.of_error {rows : List CompanyRow} {id : Uuid} {fault : Fault} {s s' : σ}
    {Next : σ → List CompanyRow → Prop} (h : Deletion rows id s Next (.error fault, s')) :
    s' = s := by
  generalize hout : (Except.error fault, s') = out at h
  cases h with
  | missing _ => exact congrArg Prod.snd hout
  | removed _ _ _ => cases congrArg Prod.fst hout

/-- One table of `s'` has these rows, and the other those that it has in `s`. -/
structure Becomes (Sound : σ → Prop) (changed : σ → List ρ) (kept : σ → List τ) (s s' : σ)
    (rows : List ρ) : Prop where
  sound : Sound s'
  rows : (changed s').Perm rows
  kept : kept s' = kept s

section Becomes

variable {Sound : σ → Prop} {rowsOf : σ → List ρ} {kept : σ → List τ} {s : σ}

theorem Creation.mem_of_mem {e : Entity ρ α} {asked : Except Fault ρ} {out : Except Fault α × σ}
    (h : Creation e (rowsOf s) asked s (Becomes Sound rowsOf kept s) out) {r : ρ}
    (hr : r ∈ rowsOf s) : r ∈ rowsOf out.2 := by
  cases h with
  | refused _ => exact hr
  | taken _ _ _ => exact hr
  | stored _ _ hnext => exact hnext.rows.mem_iff.2 (List.mem_cons_of_mem _ hr)

theorem Creation.kept_eq {e : Entity ρ α} {rows : List ρ} {asked : Except Fault ρ}
    {out : Except Fault α × σ} (h : Creation e rows asked s (Becomes Sound rowsOf kept s) out) :
    kept out.2 = kept s := by
  cases h with
  | refused _ => rfl
  | taken _ _ _ => rfl
  | stored _ _ hnext => exact hnext.kept

variable {companiesOf : σ → List CompanyRow} {rows : List CompanyRow}

theorem Amendment.kept_eq {patch : Company} {out : Except Fault Company × σ}
    (h : Amendment rows patch s (Becomes Sound companiesOf kept s) out) : kept out.2 = kept s := by
  cases h with
  | refused _ _ => rfl
  | missing _ _ => rfl
  | taken _ _ _ _ _ => rfl
  | written _ _ _ hnext => exact hnext.kept

theorem Deletion.kept_eq {id : Uuid} {out : Except Fault Unit × σ}
    (h : Deletion rows id s (Becomes Sound companiesOf kept s) out) : kept out.2 = kept s := by
  cases h with
  | missing _ => rfl
  | removed _ _ hnext => exact hnext.kept

end Becomes

/-- What a store does, told by the rows it shows. Its states are sound while they are reached by its
own operations. -/
structure Backend.Laws (b : Backend σ) where
  Sound : σ → Prop
  start : Sound b.start
  companyRows_start : b.companyRows b.start = []
  userRows_start : b.userRows b.start = []
  companies : ∀ {s}, Sound s → Distinct CompanyRow.id CompanyRow.name (b.companyRows s)
  users : ∀ {s}, Sound s → Distinct UserRow.id UserRow.username (b.userRows s)
  companyById : ∀ {s}, Sound s → ∀ id,
    b.companies.byId id s = Entity.company.answer ((b.companyRows s).find? fun r => r.id == id)
  companyByName : ∀ {s}, Sound s → ∀ n,
    b.companies.byName n s = Entity.company.answer ((b.companyRows s).find? fun r => r.name == n)
  userById : ∀ {s}, Sound s → ∀ id,
    b.users.byId id s = Entity.user.answer ((b.userRows s).find? fun r => r.id == id)
  userByUsername : ∀ {s}, Sound s → ∀ n,
    b.users.byUsername n s = Entity.user.answer ((b.userRows s).find? fun r => r.username == n)
  createCompany : ∀ {s}, Sound s → ∀ fresh c,
    Creation .company (b.companyRows s) (CompanyRow.ofNew fresh c) s
      (Becomes Sound b.companyRows b.userRows s) (b.companies.create fresh c s)
  updateCompany : ∀ {s}, Sound s → ∀ patch,
    Amendment (b.companyRows s) patch s (Becomes Sound b.companyRows b.userRows s)
      (b.companies.update patch s)
  deleteCompany : ∀ {s}, Sound s → ∀ id,
    Deletion (b.companyRows s) id s (Becomes Sound b.companyRows b.userRows s)
      (b.companies.delete id s)
  createUser : ∀ {s}, Sound s → ∀ fresh u,
    Creation .user (b.userRows s) (UserRow.ofNew fresh u) s
      (Becomes Sound b.userRows b.companyRows s) (b.users.create fresh u s)

namespace Backend.Laws

variable {b : Backend σ} (l : b.Laws) {s : σ}

theorem companyById_eq_ok_iff (h : l.Sound s) {id : Uuid} {c : Company} :
    b.companies.byId id s = .ok c ↔ ∃ r ∈ b.companyRows s, r.id = id ∧ r.read = .ok c := by
  rw [l.companyById h]
  exact Entity.company.answer_eq_ok_iff (l.companies h).keys

theorem companyByName_eq_ok_iff (h : l.Sound s) {n : String} {c : Company} :
    b.companies.byName n s = .ok c ↔ ∃ r ∈ b.companyRows s, r.name = n ∧ r.read = .ok c := by
  rw [l.companyByName h]
  exact Entity.company.answer_eq_ok_iff (l.companies h).names

theorem companyRows_createUser (h : l.Sound s) (fresh : Uuid) (u : User) :
    b.companyRows (b.users.create fresh u s).2 = b.companyRows s :=
  (l.createUser h fresh u).kept_eq

end Backend.Laws

end TradeRegister.Store

import TradeRegister.Proofs.Store.Reached

/-! # What a partial update leaves

A store accepts a partial update when its target is there, nothing but the description is cleared,
and no other company has the name. Of all rows only the target changes then: what the update
supplies is written, a cleared description becomes null, everything else stays, and so do identifier
and creator. The record that is answered is the one that lookups find next.
-/

namespace TradeRegister

structure Company.IsComplete (c : Company) : Prop where
  id : c.id ≠ .unset
  name : c.name ≠ .unset
  description : c.description ≠ .unset
  employeeCount : c.employeeCount ≠ .unset
  registered : c.registered ≠ .unset
  kind : c.kind ≠ .unset
  createdBy : c.createdBy ≠ .unset
  updatedBy : c.updatedBy ≠ .unset

namespace Store

variable {σ : Type}

/-! ## Columns -/

/-- The content changed exactly if the column is set, and then to what it is set to. -/
def Column.Wrote {α : Type} (col : Column α) (old next : α) : Prop :=
  (∀ a, col = .set a → next = a) ∧ (col.isSet = false → next = old)

theorem Column.wrote_iff {α : Type} {col : Column α} {old next : α} :
    col.Wrote old next ↔ next = col.overwrite old := by
  cases col <;> simp [Wrote, isSet, overwrite]

/-- The columns of a row changed exactly where a write sets them. -/
structure CompanyWrite.Wrote (w : CompanyWrite) (old next : CompanyRow) : Prop where
  id : w.id.Wrote old.id next.id
  name : w.name.Wrote old.name next.name
  description : w.description.Wrote old.description next.description
  employeeCount : w.employeeCount.Wrote old.employeeCount next.employeeCount
  registered : w.registered.Wrote old.registered next.registered
  kind : w.kind.Wrote old.kind next.kind
  createdBy : w.createdBy.Wrote old.createdBy next.createdBy
  updatedBy : w.updatedBy.Wrote old.updatedBy next.updatedBy

theorem CompanyWrite.wrote_iff {w : CompanyWrite} {old next : CompanyRow} :
    w.Wrote old next ↔ next = w.overwrite old := by
  constructor
  · intro h
    obtain ⟨id, name, description, employeeCount, registered, kind, createdBy, updatedBy⟩ := next
    obtain ⟨hid, hname, hdescription, hcount, hregistered, hkind, hcreator, heditor⟩ := h
    simp only [Column.wrote_iff] at *
    subst_vars
    rfl
  · rintro rfl
    constructor <;> exact Column.wrote_iff.2 rfl

/-- The store in memory changes the columns that the database is told to write. -/
theorem CompanyRow.amend_eq_ok_iff {r next : CompanyRow} {patch : Company} :
    r.amend patch = .ok next ↔
      ∃ id w, CompanyWrite.ofPatch patch = .ok (id, w) ∧ w.Wrote r next := by
  simp only [CompanyWrite.wrote_iff, amend_eq]
  cases CompanyWrite.ofPatch patch with
  | error fault => simp [Except.map]
  | ok target =>
    constructor
    · intro h
      exact ⟨target.1, target.2, rfl, (Except.ok.inj h).symm⟩
    · rintro ⟨id, w, htarget, rfl⟩
      rw [Except.ok.inj htarget]
      rfl

theorem CompanyRow.isComplete_company (r : CompanyRow) (kind : CompanyKind) :
    (r.company kind).IsComplete := by
  constructor <;> simp [company, Attribute.ofNullable_ne_unset]

/-! ## Updates -/

/-- What a store owes to a partial update. -/
structure UpdatesPartially (b : Backend σ) (s : σ) (patch : Company) : Prop where
  accepted_iff : (∃ c, (b.companies.update patch s).1 = .ok c) ↔
    ∃ old ∈ b.companyRows s, patch.id = .value old.id ∧ CompanyWrite.IsWritable patch ∧
      ∀ r ∈ b.companyRows s, r.id ≠ old.id → patch.name ≠ .value r.name
  written : ∀ c s', b.companies.update patch s = (.ok c, s') →
    ∃ old ∈ b.companyRows s, patch.id = .value old.id ∧ ∃ next, Patched patch old next ∧
      next.read = .ok c ∧ b.userRows s' = b.userRows s ∧
      (b.companyRows s').Perm ((b.companyRows s).map fun r => if r.id = old.id then next else r)
  answered : ∀ c s', b.companies.update patch s = (.ok c, s') → c.IsComplete ∧
    ∃ id n, c.id = .value id ∧ c.name = .value n ∧ b.companies.byId id s' = .ok c ∧
      b.companies.byName n s' = .ok c

namespace Backend.Laws.Intact

variable {b : Backend σ} {l : b.Laws} {s : σ}

theorem updatesPartially (h : l.Intact s) (patch : Company) : UpdatesPartially b s patch where
  accepted_iff := by
    constructor
    · rintro ⟨c, hc⟩
      have hlaw := l.updateCompany h.sound patch
      rw [show b.companies.update patch s = (.ok c, _) from Prod.ext hc rfl] at hlaw
      obtain ⟨old, w, hpatch, hold, hfree, -, -⟩ := hlaw.of_ok
      obtain ⟨hid, hwritable, -⟩ := CompanyWrite.ofPatch_eq_ok_iff.1 hpatch
      refine ⟨old, hold, hid, hwritable, fun r hr hother hname => hfree r hr hother ?_⟩
      exact ((patched_overwrite hpatch old).name_eq_iff (l.companies h.sound) hold hr hother).2 hname
    · rintro ⟨old, hold, hid, hwritable, hfree⟩
      have hlaw := l.updateCompany h.sound patch
      generalize b.companies.update patch s = out at hlaw
      cases hlaw with
      | refused hrefused _ =>
        rw [CompanyWrite.ofPatch_eq_ok_iff.2 ⟨hid, hwritable, rfl⟩] at hrefused
        cases hrefused
      | missing hpatch hnone =>
        have hsame := (CompanyWrite.ofPatch_eq_ok_iff.1 hpatch).1
        exact absurd (Attribute.value.inj (hid.symm.trans hsame)) (hnone old hold)
      | @taken row r w hpatch hrow hr hother hname =>
        have hsame := (CompanyWrite.ofPatch_eq_ok_iff.1 hpatch).1
        obtain rfl := (l.companies h.sound).eq_of_key hrow hold
          (Attribute.value.inj (hsame.symm.trans hid))
        have hpatched := patched_overwrite hpatch row
        exact absurd ((hpatched.name_eq_iff (l.companies h.sound) hrow hr hother).1 hname)
          (hfree r hr hother)
      | written hpatch hrow _ _ =>
        obtain ⟨kind, hkind⟩ := h.known.patched hrow (patched_overwrite hpatch _)
        exact ⟨_, CompanyRow.read_eq hkind⟩
  written := by
    intro c s' hupdate
    have hlaw := l.updateCompany h.sound patch
    rw [hupdate] at hlaw
    obtain ⟨old, w, hpatch, hold, -, hnext, hread⟩ := hlaw.of_ok
    exact ⟨old, hold, (CompanyWrite.ofPatch_eq_ok_iff.1 hpatch).1, _, patched_overwrite hpatch old,
      hread, hnext.kept, hnext.rows⟩
  answered := by
    intro c s' hupdate
    have hlaw := l.updateCompany h.sound patch
    rw [hupdate] at hlaw
    obtain ⟨old, w, hpatch, hold, -, hnext, hread⟩ := hlaw.of_ok
    obtain ⟨kind, hkind⟩ := h.known.patched hold (patched_overwrite hpatch old)
    have hmem : w.overwrite old ∈ b.companyRows s' :=
      hnext.rows.mem_iff.2 (List.mem_map.2 ⟨old, hold, if_pos rfl⟩)
    obtain rfl := Except.ok.inj ((CompanyRow.read_eq hkind).symm.trans hread)
    refine ⟨CompanyRow.isComplete_company _ _, _, _, rfl, rfl, ?_, ?_⟩
    · exact (l.companyById_eq_ok_iff hnext.sound).2 ⟨_, hmem, rfl, hread⟩
    · exact (l.companyByName_eq_ok_iff hnext.sound).2 ⟨_, hmem, rfl, hread⟩

end Backend.Laws.Intact

/-- Whatever was asked of a store before, a partial update that it accepts changes what the update
supplies and nothing else, and both stores change the same columns. -/
theorem updatesPartially_after (changes : List Change) (patch : Company) :
    (UpdatesPartially .memory (Backend.memory.after changes) patch ∧
      UpdatesPartially .database (Backend.database.after changes) patch) ∧
    ∀ r next : CompanyRow, r.amend patch = .ok next ↔
      ∃ id w, CompanyWrite.ofPatch patch = .ok (id, w) ∧ w.Wrote r next :=
  ⟨⟨(Memory.laws.intact_after changes).updatesPartially patch,
    (Database.laws.intact_after changes).updatesPartially patch⟩,
    fun _ _ => CompanyRow.amend_eq_ok_iff⟩

end Store
end TradeRegister

import TradeRegister.Proofs.Service.Validation
import TradeRegister.Proofs.Store.Reached
import TradeRegister.Service.Services

/-! # What a service operation leads to

Over a store that keeps the laws, a company operation is refused by validation, finds a row missing or
in the way, or changes exactly one row and announces it; a registration stores exactly one account or
nothing. Every other request leaves the rows alone.
-/

namespace TradeRegister.Service

open Store (Backend Becomes CompanyRow CompanyWrite Patched UserRow patched_overwrite)
open Token (Authority)

variable {σ : Type}

/-- Everything that a creation through the service may lead to. -/
inductive CreationOutcome (rows : List CompanyRow) (limits : Limits) (fresh : Uuid) (c : Company)
    (s : σ) (Next : σ → List CompanyRow → Prop) : Outcome σ Company → Prop
  | invalid {fault : Fault} (hcheck : limits.checkNew c = .error fault) :
    CreationOutcome rows limits fresh c s Next (.refused fault s)
  | taken {row r : CompanyRow} (hadmits : limits.Admits c) (hrow : row.Records c fresh) (hr : r ∈ rows)
    (hsame : r.id = row.id ∨ r.name = row.name) :
    CreationOutcome rows limits fresh c s Next (.refused (.conflict "company") s)
  | stored {row : CompanyRow} {kind : CompanyKind} {s' : σ} (hadmits : limits.Admits c)
    (hrow : row.Records c fresh) (hkind : row.kind = kind.name)
    (hfree : ∀ r ∈ rows, r.id ≠ row.id ∧ r.name ≠ row.name) (hnext : Next s' (row :: rows)) :
    CreationOutcome rows limits fresh c s Next ⟨.ok (row.company kind), s', [.of .create row.id]⟩

inductive UpdateOutcome (rows : List CompanyRow) (limits : Limits) (patch : Company) (s : σ)
    (Next : σ → List CompanyRow → Prop) : Outcome σ Company → Prop
  | invalid {fault : Fault} (hcheck : limits.checkPatch patch = .error fault) :
    UpdateOutcome rows limits patch s Next (.refused fault s)
  | missing {id : Uuid} (hpasses : limits.Passes patch id) (hnone : ∀ r ∈ rows, r.id ≠ id) :
    UpdateOutcome rows limits patch s Next (.refused (.notFound "company") s)
  | taken {old r : CompanyRow} (hpasses : limits.Passes patch old.id) (hold : old ∈ rows)
    (hr : r ∈ rows) (hother : r.id ≠ old.id) (hname : patch.name = .value r.name) :
    UpdateOutcome rows limits patch s Next (.refused (.conflict "company") s)
  | written {old next : CompanyRow} {kind : CompanyKind} {s' : σ}
    (hpasses : limits.Passes patch old.id) (hold : old ∈ rows) (hpatched : Patched patch old next)
    (hkind : next.kind = kind.name)
    (hfree : ∀ r ∈ rows, r.id ≠ old.id → patch.name ≠ .value r.name)
    (hnext : Next s' (rows.map fun r => if r.id = old.id then next else r)) :
    UpdateOutcome rows limits patch s Next ⟨.ok (next.company kind), s', [.of .update old.id]⟩

inductive DeletionOutcome (rows : List CompanyRow) (id : Uuid) (s : σ)
    (Next : σ → List CompanyRow → Prop) : Outcome σ Unit → Prop
  | missing (hnone : ∀ r ∈ rows, r.id ≠ id) :
    DeletionOutcome rows id s Next (.refused (.notFound "company") s)
  | removed {row : CompanyRow} {s' : σ} (hrow : row ∈ rows) (hid : row.id = id)
    (hnext : Next s' (rows.filter fun r => r.id != id)) :
    DeletionOutcome rows id s Next ⟨.ok (), s', [.of .delete id]⟩

inductive RegistrationOutcome (rows : List UserRow) (authority : Authority) (now : Instant)
    (salt : Bytes) (fresh : Uuid) (username password : String) (s : σ)
    (Next : σ → List UserRow → Prop) : Outcome σ Session → Prop
  | invalid {fault : Fault} (haccount : accountFor salt username password = .error fault) :
    RegistrationOutcome rows authority now salt fresh username password s Next (.refused fault s)
  | taken {r : UserRow} {hash : String}
    (haccount : accountFor salt username password = .ok (.unregistered username hash)) (hr : r ∈ rows)
    (hsame : r.id = fresh ∨ r.username = username) :
    RegistrationOutcome rows authority now salt fresh username password s Next
      (.refused (.conflict "user") s)
  | stored {hash : String} {s' : σ}
    (haccount : accountFor salt username password = .ok (.unregistered username hash))
    (hfree : ∀ r ∈ rows, r.id ≠ fresh ∧ r.username ≠ username)
    (hnext : Next s' (⟨fresh, username, hash⟩ :: rows)) :
    RegistrationOutcome rows authority now salt fresh username password s Next
      ⟨.ok (sessionFor authority now fresh), s', [.of .signup fresh]⟩

/-- Storage updates the company that validation found named. -/
theorem Limits.Passes.id_unique {limits : Limits} {patch : Company} {id id' : Uuid} {w : CompanyWrite}
    (h : limits.Passes patch id) (hpatch : CompanyWrite.ofPatch patch = .ok (id', w)) : id' = id :=
  Attribute.value.inj ((CompanyWrite.ofPatch_eq_ok_iff.1 hpatch).1.symm.trans h.id)

theorem exists_eq_unregistered_of_accountFor {salt : Bytes} {username password : String} {u : User}
    (h : accountFor salt username password = .ok u) : ∃ hash, u = .unregistered username hash := by
  simp only [accountFor, bind_eq_ok_iff] at h
  obtain ⟨_, _, hash, _, hu⟩ := h
  exact ⟨hash, (Except.ok.inj hu).symm⟩

section Companies

variable {b : Backend σ} {l : b.Laws} {s : σ}

theorem createCompany_outcome (h : l.Intact s) (limits : Limits) (fresh : Uuid) (c : Company) :
    CreationOutcome (b.companyRows s) limits fresh c s (Becomes l.Sound b.companyRows b.userRows s)
      (createCompany b.companies limits fresh c s) := by
  unfold createCompany
  cases hcheck : limits.checkNew c with
  | error fault => exact .invalid hcheck
  | ok _ =>
    have hadmits := Limits.checkNew_eq_ok_iff.1 hcheck
    obtain ⟨row, hrow⟩ := hadmits.exists_records fresh
    have hlaw := l.createCompany h.sound fresh c
    rw [CompanyRow.ofNew_eq_ok_iff.2 hrow] at hlaw
    dsimp only
    generalize b.companies.create fresh c s = out at hlaw
    cases hlaw with
    | refused hasked => cases hasked
    | taken hasked hr hsame =>
      obtain rfl := Except.ok.inj hasked
      exact .taken hadmits hrow hr hsame
    | stored hasked hfree hnext =>
      obtain rfl := Except.ok.inj hasked
      obtain ⟨kind, _, hkind⟩ := hrow.kind
      rw [show Store.Entity.company.read row = _ from CompanyRow.read_eq hkind]
      exact .stored hadmits hrow hkind hfree hnext

theorem updateCompany_outcome (h : l.Intact s) (limits : Limits) (patch : Company) :
    UpdateOutcome (b.companyRows s) limits patch s (Becomes l.Sound b.companyRows b.userRows s)
      (updateCompany b.companies limits patch s) := by
  unfold updateCompany
  cases hcheck : limits.checkPatch patch with
  | error fault => exact .invalid hcheck
  | ok id =>
    have hpasses := Limits.checkPatch_eq_ok_iff.1 hcheck
    have hlaw := l.updateCompany h.sound patch
    dsimp only
    generalize b.companies.update patch s = out at hlaw
    cases hlaw with
    | refused hpatch _ =>
      rw [CompanyWrite.ofPatch_eq_ok_iff.2 ⟨hpasses.id, hpasses.isWritable, rfl⟩] at hpatch
      cases hpatch
    | missing hpatch hnone =>
      obtain rfl := hpasses.id_unique hpatch
      exact .missing hpasses hnone
    | @taken old r w hpatch hold hr hother hname =>
      obtain rfl := hpasses.id_unique hpatch
      have hpatched := patched_overwrite hpatch old
      exact .taken hpasses hold hr hother
        ((hpatched.name_eq_iff (l.companies h.sound) hold hr hother).1 hname)
    | @written old w s' hpatch hold hfree hnext =>
      obtain rfl := hpasses.id_unique hpatch
      have hpatched := patched_overwrite hpatch old
      obtain ⟨kind, hkind⟩ := h.known.patched hold hpatched
      rw [CompanyRow.read_eq hkind]
      refine .written hpasses hold hpatched hkind ?_ hnext
      intro r hr hother hname
      exact hfree r hr hother ((hpatched.name_eq_iff (l.companies h.sound) hold hr hother).2 hname)

theorem deleteCompany_outcome (h : l.Intact s) (id : Uuid) :
    DeletionOutcome (b.companyRows s) id s (Becomes l.Sound b.companyRows b.userRows s)
      (deleteCompany b.companies id s) := by
  unfold deleteCompany
  have hlaw := l.deleteCompany h.sound id
  generalize b.companies.delete id s = out at hlaw
  cases hlaw with
  | missing hnone => exact .missing hnone
  | removed hrow hid hnext => exact .removed hrow hid hnext

theorem register_outcome (h : l.Intact s) (authority : Authority) (now : Instant) (salt : Bytes)
    (fresh : Uuid) (username password : String) :
    RegistrationOutcome (b.userRows s) authority now salt fresh username password s
      (Becomes l.Sound b.userRows b.companyRows s)
      (register b.users authority now salt fresh username password s) := by
  unfold register
  cases haccount : accountFor salt username password with
  | error fault => exact .invalid haccount
  | ok user =>
    obtain ⟨hash, rfl⟩ := exists_eq_unregistered_of_accountFor haccount
    have hrow : UserRow.Records (.unregistered username hash) fresh ⟨fresh, username, hash⟩ :=
      ⟨.inr ⟨rfl, rfl⟩, rfl, rfl⟩
    have hlaw := l.createUser h.sound fresh (.unregistered username hash)
    rw [UserRow.ofNew_eq_ok_iff.2 hrow] at hlaw
    dsimp only
    generalize b.users.create fresh (.unregistered username hash) s = out at hlaw
    cases hlaw with
    | refused hasked => cases hasked
    | taken hasked hr hsame =>
      obtain rfl := Except.ok.inj hasked
      exact .taken haccount hr hsame
    | stored hasked hfree hnext =>
      obtain rfl := Except.ok.inj hasked
      exact .stored haccount hfree hnext

end Companies
end TradeRegister.Service

import TradeRegister.Proofs.Store.Laws

/-! # States that are reached

Whatever a store was asked, its state is sound and every company in it names a legal form, so that
reading a row never fails.
-/

namespace TradeRegister.Store

variable {σ : Type}

/-- Every row names a legal form. -/
def Known (rows : List CompanyRow) : Prop := ∀ r ∈ rows, ∃ kind : CompanyKind, r.kind = kind.name

theorem CompanyRow.read_eq {r : CompanyRow} {kind : CompanyKind} (h : r.kind = kind.name) :
    r.read = .ok (r.company kind) := by
  rw [read, h, CompanyKind.ofName?_name]

theorem CompanyRow.Records.read_eq {c : Company} {fresh : Uuid} {row : CompanyRow}
    (h : row.Records c fresh) : ∃ kind, row.read = .ok (row.company kind) := by
  obtain ⟨kind, _, hkind⟩ := h.kind
  exact ⟨kind, CompanyRow.read_eq hkind⟩

namespace Known

variable {rows : List CompanyRow}

theorem nil : Known [] := fun _ hr => absurd hr List.not_mem_nil

theorem perm (h : Known rows) {rows' : List CompanyRow} (hperm : rows'.Perm rows) : Known rows' :=
  fun r hr => h r (hperm.mem_iff.1 hr)

theorem cons (h : Known rows) {c : Company} {fresh : Uuid} {row : CompanyRow}
    (hrow : row.Records c fresh) : Known (row :: rows) := by
  intro r hr
  rcases List.mem_cons.1 hr with rfl | hr
  · obtain ⟨kind, _, hkind⟩ := hrow.kind
    exact ⟨kind, hkind⟩
  · exact h r hr

theorem patched (h : Known rows) {patch : Company} {old next : CompanyRow} (hold : old ∈ rows)
    (hpatched : Patched patch old next) : ∃ kind : CompanyKind, next.kind = kind.name := by
  rcases Attribute.over_iff.1 hpatched.kind with ⟨_, hsame⟩ | hvalue
  · rw [hsame]
    exact h old hold
  · obtain ⟨kind, _, hkind⟩ := Attribute.map_eq_value_iff.1 hvalue
    exact ⟨kind, hkind.symm⟩

theorem replace (h : Known rows) {id : Uuid} {next : CompanyRow}
    (hnext : ∃ kind : CompanyKind, next.kind = kind.name) :
    Known (rows.map fun r => if r.id = id then next else r) := by
  intro r hr
  obtain ⟨old, hold, rfl⟩ := List.mem_map.1 hr
  split
  · exact hnext
  · exact h old hold

theorem filter (h : Known rows) (p : CompanyRow → Bool) : Known (rows.filter p) :=
  fun r hr => h r (List.mem_of_mem_filter hr)

/-- A search that fails found nothing. -/
theorem answer_eq_error_iff (h : Known rows) {p : CompanyRow → Bool} {fault : Fault} :
    Entity.company.answer (rows.find? p) = .error fault ↔
      fault = .notFound "company" ∧ ∀ r ∈ rows, p r = false := by
  cases hfind : rows.find? p with
  | none =>
    have hnone : ∀ r ∈ rows, p r = false := by simpa using hfind
    constructor
    · intro hfault
      exact ⟨(Except.error.inj hfault).symm, hnone⟩
    · rintro ⟨rfl, _⟩
      rfl
  | some r =>
    have hr := List.mem_of_find?_eq_some hfind
    obtain ⟨kind, hkind⟩ := h r hr
    rw [show Entity.company.answer (some r) = _ from CompanyRow.read_eq hkind]
    refine iff_of_false (by rintro ⟨⟩) ?_
    rintro ⟨_, hnone⟩
    exact Bool.false_ne_true ((hnone r hr).symm.trans (List.find?_some hfind))

end Known

namespace Backend

variable {b : Backend σ}

/-- A sound state of which every company can be read. -/
structure Laws.Intact (l : b.Laws) (s : σ) : Prop where
  sound : l.Sound s
  known : Known (b.companyRows s)

namespace Laws.Intact

variable {l : b.Laws} {s s' : σ}

theorem start : l.Intact b.start := ⟨l.start, l.companyRows_start ▸ .nil⟩

theorem becomes {rows : List CompanyRow} (hknown : Known rows)
    (h : Becomes l.Sound b.companyRows b.userRows s s' rows) : l.Intact s' :=
  ⟨h.sound, hknown.perm h.rows⟩

theorem createCompany (h : l.Intact s) (fresh : Uuid) (c : Company) :
    l.Intact (b.companies.create fresh c s).2 := by
  have hlaw := l.createCompany h.sound fresh c
  generalize b.companies.create fresh c s = out at hlaw
  cases hlaw with
  | refused _ => exact h
  | taken _ _ _ => exact h
  | stored hasked _ hnext => exact becomes (h.known.cons (CompanyRow.ofNew_eq_ok_iff.1 hasked)) hnext

theorem updateCompany (h : l.Intact s) (patch : Company) :
    l.Intact (b.companies.update patch s).2 := by
  have hlaw := l.updateCompany h.sound patch
  generalize b.companies.update patch s = out at hlaw
  cases hlaw with
  | refused _ _ => exact h
  | missing _ _ => exact h
  | taken _ _ _ _ _ => exact h
  | written hpatch hrow _ hnext =>
    exact becomes (h.known.replace (h.known.patched hrow (patched_overwrite hpatch _))) hnext

theorem deleteCompany (h : l.Intact s) (id : Uuid) : l.Intact (b.companies.delete id s).2 := by
  have hlaw := l.deleteCompany h.sound id
  generalize b.companies.delete id s = out at hlaw
  cases hlaw with
  | missing _ => exact h
  | removed _ _ hnext => exact becomes (h.known.filter _) hnext

theorem createUser (h : l.Intact s) (fresh : Uuid) (u : User) :
    l.Intact (b.users.create fresh u s).2 := by
  have hlaw := l.createUser h.sound fresh u
  generalize b.users.create fresh u s = out at hlaw
  cases hlaw with
  | refused _ => exact h
  | taken _ _ _ => exact h
  | stored _ _ hnext => exact ⟨hnext.sound, hnext.kept ▸ h.known⟩

theorem companyById_eq_error_iff (h : l.Intact s) {id : Uuid} {fault : Fault} :
    b.companies.byId id s = .error fault ↔
      fault = .notFound "company" ∧ ∀ r ∈ b.companyRows s, r.id ≠ id := by
  rw [l.companyById h.sound, h.known.answer_eq_error_iff]
  simp only [beq_eq_false_iff_ne]

theorem companyByName_eq_error_iff (h : l.Intact s) {n : String} {fault : Fault} :
    b.companies.byName n s = .error fault ↔
      fault = .notFound "company" ∧ ∀ r ∈ b.companyRows s, r.name ≠ n := by
  rw [l.companyByName h.sound, h.known.answer_eq_error_iff]
  simp only [beq_eq_false_iff_ne]

theorem change (h : l.Intact s) (x : Change) : l.Intact (b.change s x) := by
  cases x with
  | createCompany fresh c => exact h.createCompany fresh c
  | updateCompany patch => exact h.updateCompany patch
  | deleteCompany id => exact h.deleteCompany id
  | createUser fresh u => exact h.createUser fresh u

end Laws.Intact

theorem Laws.intact_after (l : b.Laws) (changes : List Change) : l.Intact (b.after changes) :=
  List.foldlRecOn changes b.change Intact.start fun _ h x _ => h.change x

end Backend
end TradeRegister.Store

import TradeRegister.Proofs.Service.Companies
import TradeRegister.Proofs.Uuid

/-! # Stored companies obey the rules

Validation stands before every write: what a creation must supply and what a partial update may
supply are checked apart, and storage checks neither. Together they keep every stored company within
the limits, with the creator that the record of its creation named, so every company can be read.
-/

namespace TradeRegister

/-- Every attribute was read, and only the description and the last editor may be empty. -/
structure Company.IsRead (c : Company) : Prop where
  id : c.id.isValue
  name : c.name.isValue
  description : c.description ≠ .unset
  employeeCount : c.employeeCount.isValue
  registered : c.registered.isValue
  kind : c.kind.isValue
  createdBy : c.createdBy.isValue
  updatedBy : c.updatedBy ≠ .unset

theorem Store.CompanyRow.isRead_company (r : CompanyRow) (kind : CompanyKind) :
    (r.company kind).IsRead := by
  constructor <;> simp [company, Attribute.isValue, Attribute.ofNullable_ne_unset]

namespace Service

open Store (Backend CompanyRow Database Memory Patched)
open Token (Authority)
open Delivery (Dispatcher)

variable {σ : Type}

namespace Limits

/-! ## Single checks -/

theorem checkName_eq_ok_iff {l : Limits} {name : String} :
    l.checkName name = .ok () ↔ Text.isBlank name = false ∧ name.length ≤ l.maxNameLength := by
  unfold checkName
  rw [← Nat.not_lt]
  cases Text.isBlank name with
  | true => simp
  | false => by_cases hlength : l.maxNameLength < name.length <;> simp [hlength]

theorem checkDescription_eq_ok_iff {l : Limits} {x : Attribute String} :
    l.checkDescription x = .ok () ↔
      ∀ text, x.value? = some text → text.length ≤ l.maxDescriptionLength := by
  cases x with
  | unset => simp [checkDescription, Attribute.value?]
  | cleared => simp [checkDescription, Attribute.value?]
  | value text =>
    rw [checkDescription, Attribute.value?]
    by_cases hlength : l.maxDescriptionLength < text.length
    · simp [hlength]
    · simp [hlength, Nat.not_lt.1 hlength]

theorem checkEmployeeCount_eq_ok_iff {n : Int32} : checkEmployeeCount n = .ok () ↔ 0 ≤ n := by
  unfold checkEmployeeCount
  rw [← Int32.not_lt]
  by_cases hn : n < 0 <;> simp [hn]

theorem checkActor_eq_ok_iff {field : String} {actor : Uuid} :
    checkActor field actor = .ok () ↔ actor ≠ .nil := by
  unfold checkActor
  rw [← Uuid.isNil_eq_false_iff]
  cases actor.isNil <;> simp

/-! ## Rows -/

/-- The row of a company within the limits. -/
structure Allows (l : Limits) (r : CompanyRow) : Prop where
  name : Text.isBlank r.name = false ∧ r.name.length ≤ l.maxNameLength
  description : ∀ text, r.description = some text → text.length ≤ l.maxDescriptionLength
  employeeCount : 0 ≤ r.employeeCount
  kind : ∃ kind : CompanyKind, r.kind = kind.name
  createdBy : r.createdBy ≠ .nil

variable {l : Limits}

theorem Admits.allows {c : Company} (h : l.Admits c) {fresh : Uuid} {row : CompanyRow}
    (hrow : row.Records c fresh) : l.Allows row where
  name := by
    obtain ⟨name, hname, hcheck⟩ := h.name
    obtain rfl := Attribute.value.inj (hname.symm.trans hrow.name)
    exact checkName_eq_ok_iff.1 hcheck
  description := by
    rw [hrow.description]
    exact checkDescription_eq_ok_iff.1 h.description
  employeeCount := by
    obtain ⟨n, hcount, hcheck⟩ := h.employeeCount
    obtain rfl := Attribute.value.inj (hcount.symm.trans hrow.employeeCount)
    exact checkEmployeeCount_eq_ok_iff.1 hcheck
  kind := by
    obtain ⟨kind, _, hkind⟩ := hrow.kind
    exact ⟨kind, hkind⟩
  createdBy := by
    obtain ⟨actor, hcreator, hcheck⟩ := h.createdBy
    obtain rfl := Attribute.value.inj (hcreator.symm.trans hrow.createdBy)
    exact checkActor_eq_ok_iff.1 hcheck

/-- A row within the limits stays there when what validation passes is written over it. -/
theorem Allows.patched {old next : CompanyRow} (hold : l.Allows old) {patch : Company} {id : Uuid}
    (h : l.Passes patch id) (hpatched : Patched patch old next) {kind : CompanyKind}
    (hkind : next.kind = kind.name) : l.Allows next where
  name := by
    rcases Attribute.over_iff.1 hpatched.name with ⟨_, hsame⟩ | hvalue
    · exact hsame ▸ hold.name
    · have hcheck := h.checkName
      rw [hvalue] at hcheck
      exact checkName_eq_ok_iff.1 hcheck
  description := by
    intro text htext
    have hcheck := checkDescription_eq_ok_iff.1 h.description
    have hover := hpatched.description
    cases hgiven : patch.description with
    | unset =>
      rw [hgiven] at hover
      exact hold.description text (hover ▸ htext)
    | cleared =>
      rw [hgiven] at hover
      cases hover.symm.trans htext
    | value given =>
      rw [hgiven] at hover hcheck
      obtain rfl := Option.some.inj (hover.symm.trans htext)
      exact hcheck given rfl
  employeeCount := by
    rcases Attribute.over_iff.1 hpatched.employeeCount with ⟨_, hsame⟩ | hvalue
    · exact hsame ▸ hold.employeeCount
    · have hcheck := h.checkEmployeeCount
      rw [hvalue] at hcheck
      exact checkEmployeeCount_eq_ok_iff.1 hcheck
  kind := ⟨kind, hkind⟩
  createdBy := hpatched.createdBy ▸ hold.createdBy

end Limits

/-! ## Steps -/

def Step.Makes (id creator : Uuid) : Step → Sight → Prop
  | .request (.createCompany c) _ _, .response (.ok (.company made)) _ =>
    made.id = .value id ∧ c.createdBy = .value creator
  | _, _ => False

def Step.Removes (id : Uuid) : Step → Sight → Prop
  | .request (.deleteCompany target) _ _, .response (.ok _) _ => target = id
  | _, _ => False

/-- The step takes a company away or puts another one in its place. -/
def Step.Replaces (id : Uuid) (s : Step) (sight : Sight) : Prop :=
  s.Removes id sight ∨ s.RestoresId id sight

/-- A step of the run created the company for this creator, and no later one replaced it. -/
def Services.MadeBy (d : Services σ) (steps : List Step) (x : Scene σ) (id creator : Uuid) : Prop :=
  ∃ before s after, steps = before ++ s :: after ∧ s.Makes id creator (d.step (d.run before x) s).1 ∧
    d.Avoids after (d.step (d.run before x) s).2 (Step.Replaces id)

variable {b : Backend σ} {l : b.Laws}

theorem admits_of_createCompany {authority : Authority} {limits : Limits} {supply : Supply} {s : σ}
    {c : Company} {response : Response}
    (h : ((b.services authority limits).answer supply s (.createCompany c)).result = .ok response) :
    limits.Admits c := by
  rw [answer_createCompany, createCompany] at h
  cases hcheck : limits.checkNew c with
  | error fault =>
    rw [hcheck] at h
    cases h
  | ok _ => exact Limits.checkNew_eq_ok_iff.1 hcheck

theorem allows_step {x : Scene σ} (h : l.Intact x.store) (authority : Authority) (limits : Limits)
    (hrows : ∀ r ∈ b.companyRows x.store, limits.Allows r) (s : Step) :
    ∀ r ∈ b.companyRows ((b.services authority limits).step x s).2.store, limits.Allows r := by
  cases s with
  | request r id salt =>
    have hadmits {c : Company} {response : Response} (hr : r = .createCompany c) :=
      hr ▸ @admits_of_createCompany σ b authority limits ⟨x.now, id, salt⟩ x.store c response
    have heffect := answer_effect h authority limits ⟨x.now, id, salt⟩ r
    rw [Services.store_step_request]
    generalize (b.services authority limits).answer ⟨x.now, id, salt⟩ x.store r = o at hadmits heffect ⊢
    cases heffect with
    | asked _ => exact hrows
    | refused => exact hrows
    | created hrow _ _ hnext =>
      intro row hmem
      rcases List.mem_cons.1 (hnext.rows.mem_iff.1 hmem) with rfl | hkept
      · exact (hadmits rfl rfl).allows hrow
      · exact hrows row hkept
    | updated hpasses hold hpatched hkind hnext =>
      intro row hmem
      obtain ⟨r, hr, rfl⟩ := List.mem_map.1 (hnext.rows.mem_iff.1 hmem)
      split
      · exact (hrows _ hold).patched hpasses hpatched hkind
      · exact hrows r hr
    | deleted _ hnext =>
      intro row hmem
      exact hrows row (List.mem_of_mem_filter (hnext.rows.mem_iff.1 hmem))
    | registered _ _ hnext => exact hnext.kept ▸ hrows
  | seed u id => exact l.companyRows_createUser h.sound id u ▸ hrows
  | setClock t => exact hrows
  | advanceClock seconds nanos => exact hrows

theorem Step.not_replaces_of_isQuestion {r : Request} (hr : r.IsQuestion) (id fresh : Uuid)
    (salt : Bytes) (sight : Sight) : ¬ Step.Replaces id (.request r fresh salt) sight := by
  rintro (h | h)
  all_goals cases r <;> first | exact hr | exact h

theorem Step.not_replaces_of_error (r : Request) (id fresh : Uuid) (salt : Bytes) (fault : Fault)
    (announced : List Delivery.Mutation) :
    ¬ Step.Replaces id (.request r fresh salt) (.response (.error fault) announced) := by
  rintro (h | h)
  all_goals cases r <;> exact h

/-- The step created the company, or one of the same identifier and creator was there and no other
took its place. -/
theorem makes_or_kept_step {x : Scene σ} (h : l.Intact x.store) (authority : Authority)
    (limits : Limits) (s : Step) {row : CompanyRow}
    (hrow : row ∈ b.companyRows ((b.services authority limits).step x s).2.store) :
    s.Makes row.id row.createdBy ((b.services authority limits).step x s).1 ∨
      ¬ s.Replaces row.id ((b.services authority limits).step x s).1 ∧
        ∃ old ∈ b.companyRows x.store, old.id = row.id ∧ old.createdBy = row.createdBy := by
  cases s with
  | request r id salt =>
    have heffect := answer_effect h authority limits ⟨x.now, id, salt⟩ r
    rw [Services.store_step_request] at hrow
    rw [Services.sight_step_request]
    generalize (b.services authority limits).answer ⟨x.now, id, salt⟩ x.store r = o at heffect hrow ⊢
    cases heffect with
    | asked hquestion =>
      exact .inr ⟨Step.not_replaces_of_isQuestion hquestion _ _ _ _, row, hrow, rfl, rfl⟩
    | refused => exact .inr ⟨Step.not_replaces_of_error _ _ _ _ _ _, row, hrow, rfl, rfl⟩
    | created hnew _ hfree hnext =>
      rcases List.mem_cons.1 (hnext.rows.mem_iff.1 hrow) with rfl | hkept
      · exact .inl ⟨rfl, hnew.createdBy⟩
      · refine .inr ⟨not_or.2 ⟨not_false, ?_⟩, row, hkept, rfl, rfl⟩
        exact fun hid => (hfree row hkept).1 (Attribute.value.inj hid).symm
    | updated _ hold hpatched _ hnext =>
      refine .inr ⟨not_or.2 ⟨not_false, not_false⟩, ?_⟩
      obtain ⟨r, hr, rfl⟩ := List.mem_map.1 (hnext.rows.mem_iff.1 hrow)
      split
      · exact ⟨_, hold, hpatched.id.symm, hpatched.createdBy.symm⟩
      · exact ⟨r, hr, rfl, rfl⟩
    | deleted _ hnext =>
      obtain ⟨hkept, hne⟩ := List.mem_filter.1 (hnext.rows.mem_iff.1 hrow)
      refine .inr ⟨not_or.2 ⟨?_, not_false⟩, row, hkept, rfl, rfl⟩
      exact fun hid => absurd hid.symm (by simpa using hne)
    | registered _ _ hnext =>
      exact .inr ⟨not_or.2 ⟨not_false, not_false⟩, row, hnext.kept ▸ hrow, rfl, rfl⟩
  | seed u id =>
    have hkept : row ∈ b.companyRows x.store := l.companyRows_createUser h.sound id u ▸ hrow
    exact .inr ⟨not_or.2 ⟨not_false, not_false⟩, row, hkept, rfl, rfl⟩
  | setClock t => exact .inr ⟨not_or.2 ⟨not_false, not_false⟩, row, hrow, rfl, rfl⟩
  | advanceClock seconds nanos => exact .inr ⟨not_or.2 ⟨not_false, not_false⟩, row, hrow, rfl, rfl⟩

/-! ## Runs -/

theorem allows_run {x : Scene σ} (h : l.Intact x.store) (authority : Authority) (limits : Limits)
    (hrows : ∀ r ∈ b.companyRows x.store, limits.Allows r) (steps : List Step) :
    ∀ r ∈ b.companyRows ((b.services authority limits).run steps x).store, limits.Allows r := by
  induction steps generalizing x with
  | nil => exact hrows
  | cons s steps ih =>
    exact ih (intact_step h authority limits s) (allows_step h authority limits hrows s)

theorem allows_after (l : b.Laws) (authority : Authority) (limits : Limits) (now : Instant)
    (dispatcher : Dispatcher) (steps : List Step) :
    ∀ r ∈ b.companyRows ((b.services authority limits).run steps ⟨b.start, now, dispatcher⟩).store,
      limits.Allows r := by
  have hstart : ∀ r ∈ b.companyRows b.start, limits.Allows r := by
    rw [l.companyRows_start]
    exact fun _ hr => absurd hr List.not_mem_nil
  exact allows_run (l := l) .start authority limits hstart steps

theorem Services.MadeBy.cons {d : Services σ} {s : Step} {steps : List Step} {x : Scene σ}
    {id creator : Uuid} (h : d.MadeBy steps (d.step x s).2 id creator) :
    d.MadeBy (s :: steps) x id creator := by
  obtain ⟨before, made, after, rfl, hmakes, havoids⟩ := h
  exact ⟨s :: before, made, after, rfl, hmakes, havoids⟩

/-- Every company was made in the run, or was there from the start and never replaced. -/
theorem madeBy_or_kept_run {x : Scene σ} (h : l.Intact x.store) (authority : Authority)
    (limits : Limits) (steps : List Step) {row : CompanyRow}
    (hrow : row ∈ b.companyRows ((b.services authority limits).run steps x).store) :
    (b.services authority limits).MadeBy steps x row.id row.createdBy ∨
      (b.services authority limits).Avoids steps x (Step.Replaces row.id) ∧
        ∃ old ∈ b.companyRows x.store, old.id = row.id ∧ old.createdBy = row.createdBy := by
  induction steps generalizing x with
  | nil => exact .inr ⟨fun _ hp => absurd hp List.not_mem_nil, row, hrow, rfl, rfl⟩
  | cons s steps ih =>
    rcases ih (intact_step h authority limits s) hrow with hmade | ⟨havoids, old, hold, hid, hcreator⟩
    · exact .inl hmade.cons
    · rcases makes_or_kept_step h authority limits s hold with hmakes | ⟨hkeeps, first, hfirst⟩
      · rw [hid, hcreator] at hmakes
        exact .inl ⟨[], s, steps, rfl, hmakes, havoids⟩
      · rw [hid] at hkeeps
        rw [hid, hcreator] at hfirst
        exact .inr ⟨List.forall_mem_cons.2 ⟨hkeeps, havoids⟩, first, hfirst⟩

/-- After a run, every stored company is within the limits, has the creator that the creation of it
named, and is found by its identifier and by its name. -/
structure KeepsRules (b : Backend σ) (d : Services σ) (steps : List Step) (x : Scene σ) : Prop where
  allows : ∀ row ∈ b.companyRows (d.run steps x).store, d.limits.Allows row
  made : ∀ row ∈ b.companyRows (d.run steps x).store, d.MadeBy steps x row.id row.createdBy
  read : ∀ row ∈ b.companyRows (d.run steps x).store, ∃ c, row.read = .ok c ∧ c.IsRead ∧
    ∀ supply,
      (d.answer supply (d.run steps x).store (.companyById row.id)).result = .ok (.company c) ∧
      (d.answer supply (d.run steps x).store (.companyByName row.name)).result = .ok (.company c)

theorem keepsRules (l : b.Laws) (authority : Authority) (limits : Limits) (now : Instant)
    (dispatcher : Dispatcher) (steps : List Step) :
    KeepsRules b (b.services authority limits) steps ⟨b.start, now, dispatcher⟩ where
  allows := allows_after l authority limits now dispatcher steps
  made := by
    intro row hrow
    rcases madeBy_or_kept_run (l := l) .start authority limits steps hrow with hmade | ⟨_, r, hr, _⟩
    · exact hmade
    · rw [l.companyRows_start] at hr
      cases hr
  read := by
    intro row hrow
    have hafter := intact_run (l := l) (x := ⟨b.start, now, dispatcher⟩) .start authority limits steps
    obtain ⟨kind, hkind⟩ := hafter.known row hrow
    refine ⟨_, Store.CompanyRow.read_eq hkind, row.isRead_company kind, fun supply => ?_⟩
    have hfinds := findsExactly hafter authority limits supply
    exact ⟨(hfinds.byId_iff row.id _).2 ⟨row, hrow, rfl, Store.CompanyRow.read_eq hkind⟩,
      (hfinds.byName_iff row.name _).2 ⟨row, hrow, rfl, Store.CompanyRow.read_eq hkind⟩⟩

/-- Whatever records were sent in, valid or not, and whichever store is behind the service, every
stored company obeys the rules and can be read. -/
theorem keepsRules_run (authority : Authority) (limits : Limits) (now : Instant)
    (dispatcher : Dispatcher) (steps : List Step) :
    KeepsRules .memory (Backend.memory.services authority limits) steps
        ⟨Backend.memory.start, now, dispatcher⟩ ∧
      KeepsRules .database (Backend.database.services authority limits) steps
        ⟨Backend.database.start, now, dispatcher⟩ :=
  ⟨keepsRules Memory.laws authority limits now dispatcher steps,
    keepsRules Database.laws authority limits now dispatcher steps⟩

end Service
end TradeRegister

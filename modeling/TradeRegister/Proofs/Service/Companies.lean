import TradeRegister.Proofs.Service.Effects

/-! # Exact answers of the company service

In every state that is reached, what a company operation answers is decided by the rows alone: a
creation conflicts exactly with a row of its name or of the identifier it supplies, a partial update
and a deletion miss exactly what is not there, and an update conflicts exactly with another row of
the name it supplies. Whatever is refused changes nothing. What was deleted stays unknown under its
identifier and under its name until a creation or a rename brings them back.
-/

namespace TradeRegister.Service

open Store (Backend CompanyRow Database Memory Patched)
open Token (Authority)
open Delivery (Dispatcher)

variable {σ : Type}

/-! ## Absence -/

def Step.RestoresId (id : Uuid) : Step → Sight → Prop
  | .request (.createCompany _) _ _, .response (.ok (.company c)) _ => c.id = .value id
  | _, _ => False

/-- The step creates a company of this name, or renames one to it. -/
def Step.RestoresName (name : String) : Step → Sight → Prop
  | .request (.createCompany _) _ _, .response (.ok (.company c)) _ => c.name = .value name
  | .request (.updateCompany patch) _ _, .response (.ok _) _ => patch.name = .value name
  | _, _ => False

/-- No step of the run does this. -/
def Services.Avoids (d : Services σ) (steps : List Step) (x : Scene σ)
    (P : Step → Sight → Prop) : Prop :=
  ∀ p ∈ steps.zip (d.trace steps x), ¬ P p.1 p.2.1

namespace Stems

variable {rows : List CompanyRow} {row : CompanyRow} {s : Step} {sight : Sight} {id : Uuid}
  {name : String}

theorem id_ne (h : Stems rows row s sight) (habsent : ∀ r ∈ rows, r.id ≠ id)
    (hkeeps : ¬ s.RestoresId id sight) : row.id ≠ id := by
  cases h with
  | kept hrow => exact habsent row hrow
  | created _ => exact fun hid => hkeeps (congrArg Attribute.value hid)
  | patched hold hpatched => exact hpatched.id ▸ habsent _ hold

theorem name_ne (h : Stems rows row s sight) (habsent : ∀ r ∈ rows, r.name ≠ name)
    (hkeeps : ¬ s.RestoresName name sight) : row.name ≠ name := by
  cases h with
  | kept hrow => exact habsent row hrow
  | created _ => exact fun hname => hkeeps (congrArg Attribute.value hname)
  | patched hold hpatched =>
    rcases Attribute.over_iff.1 hpatched.name with ⟨_, hsame⟩ | hvalue
    · rw [hsame]
      exact habsent _ hold
    · rintro rfl
      exact hkeeps hvalue

end Stems

variable {b : Backend σ} {l : b.Laws}

/-- Rows of a kind that no step brings back stay away. -/
theorem absent_run {absent : CompanyRow → Prop} {restores : Step → Sight → Prop}
    (hstems : ∀ {rows row s sight}, Stems rows row s sight → (∀ r ∈ rows, absent r) →
      ¬ restores s sight → absent row)
    {x : Scene σ} (h : l.Intact x.store) (authority : Authority) (limits : Limits)
    (habsent : ∀ r ∈ b.companyRows x.store, absent r) {steps : List Step}
    (havoids : (b.services authority limits).Avoids steps x restores) :
    ∀ r ∈ b.companyRows ((b.services authority limits).run steps x).store, absent r := by
  induction steps generalizing x with
  | nil => exact habsent
  | cons s steps ih =>
    obtain ⟨hs, hsteps⟩ := List.forall_mem_cons.1 havoids
    refine ih (intact_step h authority limits s) ?_ hsteps
    intro r hr
    exact hstems (stems_step h authority limits s hr) habsent hs

/-! ## Answers -/

structure CreatesExactly (b : Backend σ) (s : σ) (fresh : Uuid) (c : Company)
    (o : Outcome σ Response) : Prop where
  conflict_iff : o.result = .error (.conflict "company") ↔
    ∃ r ∈ b.companyRows s, c.name = .value r.name ∨ c.id = .value r.id
  added : o.result ≠ .error (.conflict "company") →
    ∃ row kind, row.Records c fresh ∧ row.kind = CompanyKind.name kind ∧
      o.result = .ok (.company (row.company kind)) ∧
      (b.companyRows o.state).Perm (row :: b.companyRows s) ∧
      b.userRows o.state = b.userRows s

structure UpdatesExactly (b : Backend σ) (s : σ) (id : Uuid) (patch : Company)
    (o : Outcome σ Response) : Prop where
  notFound_iff : o.result = .error (.notFound "company") ↔ ∀ r ∈ b.companyRows s, r.id ≠ id
  conflict_iff : o.result = .error (.conflict "company") ↔
    (∃ r ∈ b.companyRows s, r.id = id) ∧
      ∃ r ∈ b.companyRows s, r.id ≠ id ∧ patch.name = .value r.name
  changed : o.result ≠ .error (.notFound "company") → o.result ≠ .error (.conflict "company") →
    ∃ old ∈ b.companyRows s, old.id = id ∧ ∃ next kind, Patched patch old next ∧
      next.kind = CompanyKind.name kind ∧ o.result = .ok (.company (next.company kind)) ∧
      (b.companyRows o.state).Perm ((b.companyRows s).map fun r => if r.id = id then next else r) ∧
      b.userRows o.state = b.userRows s

/-- What the service owes to a deletion, now and in everything that may follow. -/
structure DeletesExactly (b : Backend σ) (d : Services σ) (s : σ) (id : Uuid)
    (o : Outcome σ Response) : Prop where
  notFound_iff : o.result = .error (.notFound "company") ↔ ∀ r ∈ b.companyRows s, r.id ≠ id
  removed : o.result ≠ .error (.notFound "company") → o.result = .ok .deleted ∧
    (b.companyRows o.state).Perm ((b.companyRows s).filter fun r => r.id != id) ∧
    b.userRows o.state = b.userRows s
  unknownId : ∀ steps now dispatcher, d.Avoids steps ⟨o.state, now, dispatcher⟩ (Step.RestoresId id) →
    ∀ supply, (d.answer supply (d.run steps ⟨o.state, now, dispatcher⟩).store
      (.companyById id)).result = .error (.notFound "company")
  unknownName : ∀ row ∈ b.companyRows s, row.id = id → ∀ steps now dispatcher,
    d.Avoids steps ⟨o.state, now, dispatcher⟩ (Step.RestoresName row.name) →
    ∀ supply, (d.answer supply (d.run steps ⟨o.state, now, dispatcher⟩).store
      (.companyByName row.name)).result = .error (.notFound "company")

/-- What the service owes to those who look for a company. -/
structure FindsExactly (b : Backend σ) (d : Services σ) (s : σ) (supply : Supply) : Prop where
  byId_iff : ∀ id c, (d.answer supply s (.companyById id)).result = .ok (.company c) ↔
    ∃ r ∈ b.companyRows s, r.id = id ∧ r.read = .ok c
  byId_notFound_iff : ∀ id,
    (d.answer supply s (.companyById id)).result = .error (.notFound "company") ↔
      ∀ r ∈ b.companyRows s, r.id ≠ id
  byName_iff : ∀ name c, (d.answer supply s (.companyByName name)).result = .ok (.company c) ↔
    ∃ r ∈ b.companyRows s, r.name = name ∧ r.read = .ok c
  byName_notFound_iff : ∀ name,
    (d.answer supply s (.companyByName name)).result = .error (.notFound "company") ↔
      ∀ r ∈ b.companyRows s, r.name ≠ name

def Request.IsAboutCompanies : Request → Prop
  | .createCompany _ => True
  | .companyById _ => True
  | .companyByName _ => True
  | .updateCompany _ => True
  | .deleteCompany _ => True
  | _ => False

/-- All that the company service owes in a state. The identifier that a creation assigns is new. -/
structure AnswersExactly (b : Backend σ) (d : Services σ) (s : σ) : Prop where
  create : ∀ supply c, d.limits.checkNew c = .ok () →
    (c.id = .unset → ∀ r ∈ b.companyRows s, r.id ≠ supply.id) →
    CreatesExactly b s supply.id c (d.answer supply s (.createCompany c))
  update : ∀ supply patch id, d.limits.checkPatch patch = .ok id →
    UpdatesExactly b s id patch (d.answer supply s (.updateCompany patch))
  delete : ∀ supply id, DeletesExactly b d s id (d.answer supply s (.deleteCompany id))
  find : ∀ supply, FindsExactly b d s supply
  restoresId : ∀ now dispatcher step id, step.RestoresId id (d.step ⟨s, now, dispatcher⟩ step).1 →
    ∀ supply, ∃ c, (d.answer supply (d.step ⟨s, now, dispatcher⟩ step).2.store
      (.companyById id)).result = .ok (.company c)
  restoresName : ∀ now dispatcher step name,
    step.RestoresName name (d.step ⟨s, now, dispatcher⟩ step).1 →
    ∀ supply, ∃ c, (d.answer supply (d.step ⟨s, now, dispatcher⟩ step).2.store
      (.companyByName name)).result = .ok (.company c)
  unchanged : ∀ supply r fault, (d.answer supply s r).result = .error fault →
    d.answer supply s r = .refused fault s
  neverInfrastructure : ∀ supply r, r.IsAboutCompanies → ∀ cause,
    (d.answer supply s r).result ≠ .error (.infrastructure cause)

section Answers

variable {s : σ} (h : l.Intact s) (authority : Authority) (limits : Limits)

include h

theorem createsExactly (supply : Supply) {c : Company} (hvalid : limits.checkNew c = .ok ())
    (hfresh : c.id = .unset → ∀ r ∈ b.companyRows s, r.id ≠ supply.id) :
    CreatesExactly b s supply.id c
      ((b.services authority limits).answer supply s (.createCompany c)) := by
  have hout := createCompany_outcome h limits supply.id c
  rw [answer_createCompany]
  generalize createCompany b.companies limits supply.id c s = o at hout
  cases hout with
  | invalid hcheck =>
    rw [hvalid] at hcheck
    cases hcheck
  | taken _ hrow hr hsame =>
    have htaken := (hrow.taken_iff fun hunset => hfresh hunset _ hr).1 hsame
    exact ⟨iff_of_true rfl ⟨_, hr, htaken⟩, fun hne => absurd rfl hne⟩
  | @stored row kind s' _ hrow hkind hfree hnext =>
    refine ⟨iff_of_false (by rintro ⟨⟩) ?_, fun _ =>
      ⟨row, kind, hrow, hkind, rfl, hnext.rows, hnext.kept⟩⟩
    rintro ⟨r, hr, htaken⟩
    obtain ⟨hid, hname⟩ := hfree r hr
    exact ((hrow.taken_iff fun hunset => hfresh hunset r hr).2 htaken).elim hid hname

theorem updatesExactly (supply : Supply) {patch : Company} {id : Uuid}
    (hvalid : limits.checkPatch patch = .ok id) :
    UpdatesExactly b s id patch
      ((b.services authority limits).answer supply s (.updateCompany patch)) := by
  have hid := (Limits.checkPatch_eq_ok_iff.1 hvalid).id
  have hout := updateCompany_outcome h limits patch
  rw [answer_updateCompany]
  generalize updateCompany b.companies limits patch s = o at hout
  cases hout with
  | invalid hcheck =>
    rw [hvalid] at hcheck
    cases hcheck
  | missing hpasses hnone =>
    obtain rfl := Attribute.value.inj (hid.symm.trans hpasses.id)
    refine ⟨iff_of_true rfl hnone, iff_of_false (by rintro ⟨⟩) ?_, fun hne => absurd rfl hne⟩
    rintro ⟨⟨r, hr, hsame⟩, -⟩
    exact hnone r hr hsame
  | @taken old r hpasses hold hr hother hname =>
    obtain rfl := Attribute.value.inj (hid.symm.trans hpasses.id)
    refine ⟨iff_of_false (by rintro ⟨⟩) ?_, iff_of_true rfl ?_, fun _ hne => absurd rfl hne⟩
    · exact fun hnone => hnone old hold rfl
    · exact ⟨⟨old, hold, rfl⟩, r, hr, hother, hname⟩
  | @written old next kind s' hpasses hold hpatched hkind hfree hnext =>
    obtain rfl := Attribute.value.inj (hid.symm.trans hpasses.id)
    refine ⟨iff_of_false (by rintro ⟨⟩) ?_, iff_of_false (by rintro ⟨⟩) ?_, fun _ _ =>
      ⟨old, hold, rfl, next, kind, hpatched, hkind, rfl, hnext.rows, hnext.kept⟩⟩
    · exact fun hnone => hnone old hold rfl
    · rintro ⟨-, r, hr, hother, hname⟩
      exact hfree r hr hother hname

theorem findsExactly (supply : Supply) :
    FindsExactly b (b.services authority limits) s supply where
  byId_iff id c := by
    rw [answer_companyById, Outcome.answer, map_eq_ok_iff, ← l.companyById_eq_ok_iff h.sound]
    simp
  byId_notFound_iff id := by
    rw [answer_companyById, Outcome.answer, map_eq_error_iff, h.companyById_eq_error_iff]
    simp
  byName_iff name c := by
    rw [answer_companyByName, Outcome.answer, map_eq_ok_iff, ← l.companyByName_eq_ok_iff h.sound]
    simp
  byName_notFound_iff name := by
    rw [answer_companyByName, Outcome.answer, map_eq_error_iff, h.companyByName_eq_error_iff]
    simp

theorem unknownId_run {id : Uuid} (habsent : ∀ r ∈ b.companyRows s, r.id ≠ id) (steps : List Step)
    (now : Instant) (dispatcher : Dispatcher)
    (havoids : (b.services authority limits).Avoids steps ⟨s, now, dispatcher⟩ (Step.RestoresId id))
    (supply : Supply) :
    ((b.services authority limits).answer supply
      ((b.services authority limits).run steps ⟨s, now, dispatcher⟩).store
      (.companyById id)).result = .error (.notFound "company") :=
  ((findsExactly (intact_run h authority limits steps) authority limits supply).byId_notFound_iff
    id).2 (absent_run Stems.id_ne h authority limits habsent havoids)

theorem unknownName_run {name : String} (habsent : ∀ r ∈ b.companyRows s, r.name ≠ name)
    (steps : List Step) (now : Instant) (dispatcher : Dispatcher)
    (havoids : (b.services authority limits).Avoids steps ⟨s, now, dispatcher⟩ (Step.RestoresName name))
    (supply : Supply) :
    ((b.services authority limits).answer supply
      ((b.services authority limits).run steps ⟨s, now, dispatcher⟩).store
      (.companyByName name)).result = .error (.notFound "company") :=
  ((findsExactly (intact_run h authority limits steps) authority limits
    supply).byName_notFound_iff name).2 (absent_run Stems.name_ne h authority limits habsent havoids)

theorem deletesExactly (supply : Supply) (id : Uuid) :
    DeletesExactly b (b.services authority limits) s id
      ((b.services authority limits).answer supply s (.deleteCompany id)) := by
  have hout := deleteCompany_outcome h id
  rw [answer_deleteCompany]
  generalize deleteCompany b.companies id s = o at hout
  cases hout with
  | missing hnone =>
    exact ⟨iff_of_true rfl hnone, fun hne => absurd rfl hne, unknownId_run h authority limits hnone,
      fun row hrow hid => absurd hid (hnone row hrow)⟩
  | @removed row s' hrow hid hnext =>
    have hs' : l.Intact s' := .becomes (h.known.filter _) hnext
    have hkept : ∀ r ∈ b.companyRows s', r ∈ b.companyRows s ∧ r.id ≠ id := by
      intro r hr
      simpa using List.mem_filter.1 (hnext.rows.mem_iff.1 hr)
    refine ⟨iff_of_false (by rintro ⟨⟩) ?_, fun _ => ⟨rfl, hnext.rows, hnext.kept⟩, ?_, ?_⟩
    · exact fun hnone => hnone row hrow hid
    · exact unknownId_run hs' authority limits fun r hr => (hkept r hr).2
    · intro row' hrow' hid'
      apply unknownName_run hs' authority limits
      intro r hr hname
      obtain ⟨hr, hne⟩ := hkept r hr
      obtain rfl := (l.companies h.sound).eq_of_name hr hrow' hname
      exact hne hid'

theorem exists_row_of_createCompany (supply : Supply) {c made : Company}
    (hmade : ((b.services authority limits).answer supply s (.createCompany c)).result =
      .ok (.company made)) :
    ∃ r ∈ b.companyRows ((b.services authority limits).answer supply s (.createCompany c)).state,
      ∃ kind, made = r.company kind := by
  have heffect := answer_effect h authority limits supply (.createCompany c)
  generalize (b.services authority limits).answer supply s (.createCompany c) = o at heffect hmade ⊢
  cases heffect with
  | asked hquestion => exact hquestion.elim
  | refused => cases hmade
  | created _ _ _ hnext =>
    cases hmade
    exact ⟨_, hnext.rows.mem_iff.2 List.mem_cons_self, _, rfl⟩

theorem exists_row_of_updateCompany (supply : Supply) {patch : Company} {response : Response}
    (hdone : ((b.services authority limits).answer supply s (.updateCompany patch)).result =
      .ok response) :
    ∃ r ∈ b.companyRows ((b.services authority limits).answer supply s (.updateCompany patch)).state,
      ∃ old, Patched patch old r := by
  have heffect := answer_effect h authority limits supply (.updateCompany patch)
  generalize (b.services authority limits).answer supply s (.updateCompany patch) = o at heffect hdone ⊢
  cases heffect with
  | asked hquestion => exact hquestion.elim
  | refused => cases hdone
  | updated _ hold hpatched _ hnext =>
    exact ⟨_, hnext.rows.mem_iff.2 (List.mem_map.2 ⟨_, hold, if_pos rfl⟩), _, hpatched⟩

theorem exists_row_of_restoresId (now : Instant) (dispatcher : Dispatcher) (step : Step) {id : Uuid}
    (hrestores : step.RestoresId id ((b.services authority limits).step ⟨s, now, dispatcher⟩ step).1) :
    ∃ r ∈ b.companyRows ((b.services authority limits).step ⟨s, now, dispatcher⟩ step).2.store,
      r.id = id := by
  unfold Step.RestoresId at hrestores
  split at hrestores
  · next hsight =>
    obtain ⟨hmade, _⟩ := Sight.response.inj hsight
    obtain ⟨r, hr, kind, rfl⟩ := exists_row_of_createCompany h authority limits _ hmade
    exact ⟨r, hr, Attribute.value.inj hrestores⟩
  · exact hrestores.elim

theorem exists_row_of_restoresName (now : Instant) (dispatcher : Dispatcher) (step : Step)
    {name : String}
    (hrestores : step.RestoresName name
      ((b.services authority limits).step ⟨s, now, dispatcher⟩ step).1) :
    ∃ r ∈ b.companyRows ((b.services authority limits).step ⟨s, now, dispatcher⟩ step).2.store,
      r.name = name := by
  unfold Step.RestoresName at hrestores
  split at hrestores
  · next hsight =>
    obtain ⟨hmade, _⟩ := Sight.response.inj hsight
    obtain ⟨r, hr, kind, rfl⟩ := exists_row_of_createCompany h authority limits _ hmade
    exact ⟨r, hr, Attribute.value.inj hrestores⟩
  · next hsight =>
    obtain ⟨hdone, _⟩ := Sight.response.inj hsight
    obtain ⟨r, hr, old, hpatched⟩ := exists_row_of_updateCompany h authority limits _ hdone
    have hover := hpatched.name
    rw [hrestores] at hover
    exact ⟨r, hr, hover⟩
  · exact hrestores.elim

theorem neverInfrastructure (supply : Supply) {r : Request} (hr : r.IsAboutCompanies)
    (cause : Cause) :
    ((b.services authority limits).answer supply s r).result ≠ .error (.infrastructure cause) := by
  cases r with
  | createCompany c =>
    have hout := createCompany_outcome h limits supply.id c
    rw [answer_createCompany]
    generalize createCompany b.companies limits supply.id c s = o at hout
    cases hout with
    | invalid hcheck =>
      obtain ⟨_, _, rfl⟩ := limits.refuses_checkNew c _ hcheck
      rintro ⟨⟩
    | taken _ _ _ _ => rintro ⟨⟩
    | stored _ _ _ _ _ => rintro ⟨⟩
  | companyById id =>
    rw [answer_companyById, Outcome.answer, Ne, map_eq_error_iff, h.companyById_eq_error_iff]
    rintro ⟨⟨⟩, _⟩
  | companyByName name =>
    rw [answer_companyByName, Outcome.answer, Ne, map_eq_error_iff, h.companyByName_eq_error_iff]
    rintro ⟨⟨⟩, _⟩
  | updateCompany patch =>
    have hout := updateCompany_outcome h limits patch
    rw [answer_updateCompany]
    generalize updateCompany b.companies limits patch s = o at hout
    cases hout with
    | invalid hcheck =>
      obtain ⟨_, _, rfl⟩ := limits.refuses_checkPatch patch _ hcheck
      rintro ⟨⟩
    | missing _ _ => rintro ⟨⟩
    | taken _ _ _ _ _ => rintro ⟨⟩
    | written _ _ _ _ _ _ => rintro ⟨⟩
  | deleteCompany id =>
    have hout := deleteCompany_outcome h id
    rw [answer_deleteCompany]
    generalize deleteCompany b.companies id s = o at hout
    cases hout with
    | missing _ => rintro ⟨⟩
    | removed _ _ _ => rintro ⟨⟩
  | _ => exact hr.elim

theorem answersExactly : AnswersExactly b (b.services authority limits) s where
  create supply _ hvalid hfresh := createsExactly h authority limits supply hvalid hfresh
  update supply _ _ hvalid := updatesExactly h authority limits supply hvalid
  delete supply id := deletesExactly h authority limits supply id
  find supply := findsExactly h authority limits supply
  restoresId := by
    intro now dispatcher step id hrestores supply
    obtain ⟨r, hr, hid⟩ := exists_row_of_restoresId h authority limits now dispatcher step hrestores
    have hnext := intact_step (x := ⟨s, now, dispatcher⟩) h authority limits step
    obtain ⟨kind, hkind⟩ := hnext.known r hr
    exact ⟨_, ((findsExactly hnext authority limits supply).byId_iff id _).2
      ⟨r, hr, hid, CompanyRow.read_eq hkind⟩⟩
  restoresName := by
    intro now dispatcher step name hrestores supply
    obtain ⟨r, hr, hname⟩ :=
      exists_row_of_restoresName h authority limits now dispatcher step hrestores
    have hnext := intact_step (x := ⟨s, now, dispatcher⟩) h authority limits step
    obtain ⟨kind, hkind⟩ := hnext.known r hr
    exact ⟨_, ((findsExactly hnext authority limits supply).byName_iff name _).2
      ⟨r, hr, hname, CompanyRow.read_eq hkind⟩⟩
  unchanged supply r _ hfault := (answer_effect h authority limits supply r).unchanged hfault
  neverInfrastructure supply _ hr cause := neverInfrastructure h authority limits supply hr cause

end Answers

/-- Whatever happened before and whichever store is behind it, the company service answers by the
rows alone. -/
theorem answersExactly_run (authority : Authority) (limits : Limits) (now : Instant)
    (dispatcher : Dispatcher) (steps : List Step) :
    AnswersExactly .memory (Backend.memory.services authority limits)
        ((Backend.memory.services authority limits).run steps
          ⟨Backend.memory.start, now, dispatcher⟩).store ∧
      AnswersExactly .database (Backend.database.services authority limits)
        ((Backend.database.services authority limits).run steps
          ⟨Backend.database.start, now, dispatcher⟩).store := by
  have hmemory : Memory.laws.Intact Backend.memory.start := .start
  have hdatabase : Database.laws.Intact Backend.database.start := .start
  exact ⟨answersExactly (intact_run hmemory authority limits steps) authority limits,
    answersExactly (intact_run hdatabase authority limits steps) authority limits⟩

end TradeRegister.Service

import TradeRegister.Proofs.History
import TradeRegister.Proofs.Service.Rules
import TradeRegister.Proofs.Service.Sessions

/-! # The nil identifier among stored ones

Nobody acts under the nil identifier and no account is opened under it. Validation refuses it as the
creator of a company and as the editor of an update, but it looks neither at the identifier that a
new record brings along nor at its editor: these two are where nil gets into a row.
-/

namespace TradeRegister

open Service (Services Limits Response Supply admits_of_createCompany answer_effect)
open Store (Backend CompanyRow Database Memory UserRow)
open Token (Authority)

variable {σ : Type}

/-- Identifiers that the register assigns are of the time-ordered scheme. -/
def Uuid.IsAssigned (u : Uuid) : Prop := u.version = 7

instance (u : Uuid) : Decidable u.IsAssigned := inferInstanceAs (Decidable (u.version = 7))

theorem Uuid.IsAssigned.ne_nil {u : Uuid} (h : u.IsAssigned) : u ≠ .nil := by
  rintro rfl
  exact absurd h (by decide)

/-! ## Single calls -/

theorem event?_eq_created {id actor : Uuid} {c : Company} {a : Answered}
    (h : a.event? id = some (.created actor c)) :
    ∃ made, a = (.createCompany actor c, .ok (.company made)) ∧ made.id = .value id := by
  unfold Answered.event? at h
  split at h
  · obtain ⟨hmade, hevent⟩ := Option.ite_none_right_eq_some.1 h
    obtain ⟨rfl, rfl⟩ := CompanyEvent.created.inj (Option.some.inj hevent)
    exact ⟨_, rfl, hmade⟩
  all_goals simp at h

theorem event?_eq_updated {id actor : Uuid} {a : Answered}
    (h : a.event? id = some (.updated actor)) :
    ∃ patch response, a = (.updateCompany actor id patch, .ok response) := by
  unfold Answered.event? at h
  split at h
  · simp at h
  · obtain ⟨rfl, hevent⟩ := Option.ite_none_right_eq_some.1 h
    obtain rfl := CompanyEvent.updated.inj (Option.some.inj hevent)
    exact ⟨_, _, rfl⟩
  all_goals simp at h

/-- Somebody caused the event, and the record of a creation brought the identifier of the company
along unless a new one was assigned to it. -/
def CompanyEvent.Names (id : Uuid) : CompanyEvent → Prop
  | .created actor c => actor ≠ .nil ∧ (c.id = .value id ∨ c.id = .unset ∧ id ≠ .nil)
  | .updated actor => actor ≠ .nil
  | .deleted => True

variable {b : Backend σ} {l : b.Laws} {s : σ} {authority : Authority} {limits : Limits}
  {supply : Supply}

theorem names_created (h : l.Intact s) (hassigned : supply.id.IsAssigned) {actor id : Uuid}
    {c made : Company}
    (hanswer : ((b.services authority limits).answer supply s
      (.createCompany { c with createdBy := .value actor })).result = .ok (.company made))
    (hmade : made.id = .value id) : (CompanyEvent.created actor c).Names id := by
  obtain ⟨creator, hcreator, hcheck⟩ := (admits_of_createCompany hanswer).createdBy
  obtain rfl := Attribute.value.inj hcreator
  refine ⟨Limits.checkActor_eq_ok_iff.1 hcheck, ?_⟩
  have heffect := answer_effect h authority limits supply
    (.createCompany { c with createdBy := .value actor })
  generalize (b.services authority limits).answer supply s
    (.createCompany { c with createdBy := .value actor }) = o at heffect hanswer
  cases heffect with
  | asked hquestion => exact hquestion.elim
  | refused => cases hanswer
  | created hrow _ _ _ =>
    obtain rfl := Response.company.inj (Except.ok.inj hanswer)
    obtain rfl := Attribute.value.inj hmade
    exact hrow.id.imp_right fun ⟨hunset, hfresh⟩ => ⟨hunset, hfresh ▸ hassigned.ne_nil⟩

theorem names_updated (h : l.Intact s) {actor id : Uuid} {patch : Company} {response : Response}
    (hanswer : ((b.services authority limits).answer supply s
      (.updateCompany { patch with id := .value id, updatedBy := .value actor })).result =
        .ok response) : (CompanyEvent.updated actor).Names id := by
  have heffect := answer_effect h authority limits supply
    (.updateCompany { patch with id := .value id, updatedBy := .value actor })
  generalize (b.services authority limits).answer supply s
    (.updateCompany { patch with id := .value id, updatedBy := .value actor }) = o
    at heffect hanswer
  cases heffect with
  | asked hquestion => exact hquestion.elim
  | refused => cases hanswer
  | updated hpasses _ _ _ _ =>
    obtain ⟨editor, heditor, hcheck⟩ := hpasses.editor
    obtain rfl := Attribute.value.inj heditor
    exact Limits.checkActor_eq_ok_iff.1 hcheck

theorem names_visit (h : l.Intact s) (authority : Authority) (limits : Limits) {v : Visit}
    (hassigned : v.supply.id.IsAssigned) {id : Uuid} {e : CompanyEvent}
    (he : Answered.event? id (v.call, ((b.services authority limits).visit s v).result) = some e) :
    e.Names id := by
  obtain ⟨call, supply⟩ := v
  cases e with
  | created actor c =>
    obtain ⟨made, hanswered, hmade⟩ := event?_eq_created he
    obtain ⟨rfl, hanswer⟩ := Prod.mk.inj hanswered
    exact names_created h hassigned hanswer hmade
  | updated actor =>
    obtain ⟨patch, response, hanswered⟩ := event?_eq_updated he
    obtain ⟨rfl, hanswer⟩ := Prod.mk.inj hanswered
    exact names_updated h hanswer
  | deleted => trivial

theorem users_visit (h : l.Intact s) (authority : Authority) (limits : Limits) {v : Visit}
    (hassigned : v.supply.id.IsAssigned) (husers : ∀ r ∈ b.userRows s, r.id ≠ .nil) :
    ∀ r ∈ b.userRows ((b.services authority limits).visit s v).state, r.id ≠ .nil := by
  have heffect := answer_effect h authority limits v.supply v.call.request
  unfold Services.visit
  generalize v.call.request = r at heffect
  generalize (b.services authority limits).answer v.supply s r = o at heffect
  cases heffect with
  | registered _ _ hnext =>
    intro row hrow
    rcases List.mem_cons.1 (hnext.rows.mem_iff.1 hrow) with rfl | hkept
    · exact hassigned.ne_nil
    · exact husers row hkept
  | asked _ => exact husers
  | refused => exact husers
  | created _ _ _ hnext => exact hnext.kept ▸ husers
  | updated _ _ _ _ hnext => exact hnext.kept ▸ husers
  | deleted _ hnext => exact hnext.kept ▸ husers

/-! ## Runs -/

theorem names_after (authority : Authority) (limits : Limits) {visits : List Visit}
    (hassigned : ∀ v ∈ visits, v.supply.id.IsAssigned) (h : l.Intact s) {id : Uuid}
    {e : CompanyEvent}
    (he : e ∈ history id ((b.services authority limits).answered visits s)) : e.Names id := by
  induction visits generalizing s with
  | nil => exact absurd he List.not_mem_nil
  | cons v visits ih =>
    obtain ⟨hv, hrest⟩ := List.forall_mem_cons.1 hassigned
    have hnext := (answer_effect h authority limits v.supply v.call.request).intact h
    obtain ⟨a, ha, hevent⟩ := List.mem_filterMap.1 he
    rcases List.mem_cons.1 ha with rfl | ha
    · exact names_visit h authority limits hv hevent
    · exact ih hrest hnext (List.mem_filterMap.2 ⟨a, ha, hevent⟩)

theorem users_after (authority : Authority) (limits : Limits) {visits : List Visit}
    (hassigned : ∀ v ∈ visits, v.supply.id.IsAssigned) (h : l.Intact s)
    (husers : ∀ r ∈ b.userRows s, r.id ≠ .nil) :
    ∀ r ∈ b.userRows ((b.services authority limits).after visits s), r.id ≠ .nil := by
  induction visits generalizing s with
  | nil => exact husers
  | cons v visits ih =>
    obtain ⟨hv, hrest⟩ := List.forall_mem_cons.1 hassigned
    have hnext := (answer_effect h authority limits v.supply v.call.request).intact h
    exact ih hrest hnext (users_visit h authority limits hv husers)

/-- The row goes back to a creation by somebody, and nobody changed it under the nil identifier. It is
nil's own row just when the record of the creation said so, and names nil as its editor just when
that record did and nobody updated the company since. -/
def Store.CompanyRow.GoesBackTo (row : CompanyRow) (events : List CompanyEvent) : Prop :=
  ∃ before c, ∃ editors : List Uuid,
    events = before ++ .created row.createdBy c :: editors.map .updated ∧
    row.createdBy ≠ .nil ∧ (∀ editor ∈ editors, editor ≠ .nil) ∧
    (row.id = .nil ↔ c.id = .value .nil) ∧
    (row.updatedBy = some .nil ↔ editors = [] ∧ c.updatedBy = .value .nil)

theorem goesBackTo_of_tells {row : CompanyRow} {events : List CompanyEvent}
    (h : Tells events row.createdBy row.updatedBy) (hnames : ∀ e ∈ events, e.Names row.id) :
    row.GoesBackTo events := by
  obtain ⟨before, c, editors, rfl, heditor⟩ := h
  obtain ⟨hcreator, hid⟩ : (CompanyEvent.created row.createdBy c).Names row.id :=
    hnames _ (by simp)
  have heditors : ∀ editor ∈ editors, editor ≠ .nil := fun editor hmem =>
    hnames (.updated editor) (by simp [hmem])
  refine ⟨before, c, editors, rfl, hcreator, heditors, ⟨fun hnil => ?_, fun hnil => ?_⟩, ?_⟩
  · rcases hid with hid | ⟨_, hne⟩
    · exact hnil ▸ hid
    · exact absurd hnil hne
  · rcases hid with hid | ⟨hunset, _⟩
    · exact Attribute.value.inj (hid.symm.trans hnil)
    · cases hunset.symm.trans hnil
  · rw [heditor]
    cases hlast : editors.getLast? with
    | none => simp [List.getLast?_eq_none_iff.1 hlast, Attribute.value?_eq_some_iff]
    | some editor =>
      have hmem := List.mem_of_getLast? hlast
      simp [List.ne_nil_of_mem hmem, heditors editor hmem]

/-- Which identities a register holds: none of them is nil, except where the record of a creation
brought nil along. -/
structure KeepsIdentities (b : Backend σ) (s : σ) (log : List Answered) : Prop where
  users : ∀ r ∈ b.userRows s, r.id ≠ .nil
  companies : ∀ row ∈ b.companyRows s, row.GoesBackTo (history row.id log)

theorem Store.Backend.Laws.keepsIdentities (l : b.Laws) (authority : Authority) (limits : Limits)
    {visits : List Visit} (hassigned : ∀ v ∈ visits, v.supply.id.IsAssigned) :
    KeepsIdentities b ((b.services authority limits).after visits b.start)
      ((b.services authority limits).answered visits b.start) where
  users := by
    refine users_after (l := l) authority limits hassigned .start ?_
    rw [l.userRows_start]
    exact fun _ hr => absurd hr List.not_mem_nil
  companies := fun row hrow =>
    goesBackTo_of_tells ((l.keepsHistory authority limits visits).rows.present row hrow)
      fun _ he => names_after (l := l) authority limits hassigned .start he

/-- Whoever calls and whatever the records say, no account and no creator is nil, and a company has
the identifier nil, or nil as its last editor, just when the record it was created from brought that
along. -/
theorem keepsIdentities_after (authority : Authority) (limits : Limits) {visits : List Visit}
    (hassigned : ∀ v ∈ visits, v.supply.id.IsAssigned) :
    KeepsIdentities .memory
        ((Backend.memory.services authority limits).after visits Backend.memory.start)
        ((Backend.memory.services authority limits).answered visits Backend.memory.start) ∧
      KeepsIdentities .database
        ((Backend.database.services authority limits).after visits Backend.database.start)
        ((Backend.database.services authority limits).answered visits Backend.database.start) :=
  ⟨Memory.laws.keepsIdentities authority limits hassigned,
    Database.laws.keepsIdentities authority limits hassigned⟩

/-- A creation by the user, under the identifier nil and with nil as editor. -/
def Visit.nilCreation (now : Instant) (u : Uuid) : Visit where
  call := .createCompany u
    { id := .value .nil
      name := .value "Acme"
      employeeCount := .value 5
      registered := .value true
      kind := .value .nonProfit
      updatedBy := .value .nil }
  supply := ⟨now, .timeOrdered 2, []⟩

theorem keepsIdentities_after_nilCreation :
    (∀ v ∈ [Visit.nilCreation ⟨0, by decide, by decide⟩ ⟨2, by decide⟩], v.supply.id.IsAssigned) ∧
      KeepsIdentities .memory
        ((Backend.memory.services ⟨"acme", ⟨"k"⟩, 900, by decide, by decide⟩ {}).after
          [.nilCreation ⟨0, by decide, by decide⟩ ⟨2, by decide⟩] Backend.memory.start)
        ((Backend.memory.services ⟨"acme", ⟨"k"⟩, 900, by decide, by decide⟩ {}).answered
          [.nilCreation ⟨0, by decide, by decide⟩ ⟨2, by decide⟩] Backend.memory.start) :=
  have hassigned : ∀ v ∈ [Visit.nilCreation ⟨0, by decide, by decide⟩ ⟨2, by decide⟩],
      v.supply.id.IsAssigned := by decide
  ⟨hassigned, (keepsIdentities_after _ _ hassigned).1⟩

/-! ## A run that stores nil -/

def Call.actor? : Call → Option Uuid
  | .createCompany actor _ => some actor
  | .updateCompany actor _ _ => some actor
  | .deleteCompany actor _ => some actor
  | _ => none

/-- Whoever acts was recognized by a token before. -/
def ActsAsRecognized (log : List Answered) : Prop :=
  ∀ before a after actor, log = before ++ a :: after → a.1.actor? = some actor →
    ∃ token, (.authenticate token, .ok (.identity actor)) ∈ before

def Visit.recognition (authority : Authority) (now : Instant) (u : Uuid) : Visit where
  call := .authenticate (authority.issue now u)
  supply := ⟨now, .timeOrdered 1, []⟩

theorem result_recognition {authority : Authority} {now : Instant} {u : Uuid} (hu : u ≠ .nil)
    (hnow : 0 ≤ now.total) (hlifetime : 0 < authority.lifetime) :
    ((b.services authority limits).visit s (.recognition authority now u)).result =
      .ok (.identity u) := by
  have hlive : now.seconds < min (now.seconds + authority.lifetime) (2 ^ 63 - 1) := by
    have := now.lt_end
    unfold Instant.seconds
    omega
  have hknown : Service.authenticate authority now (authority.issue now u) = .ok u := by
    rw [Service.authenticate_issue authority hu hnow, if_pos hlive]
  unfold Services.visit Visit.recognition Call.request
  dsimp only
  rw [Service.answer_authenticate, hknown]
  rfl

theorem actsAsRecognized_nilCreation {authority : Authority} {now : Instant} {u : Uuid}
    (hu : u ≠ .nil) (hnow : 0 ≤ now.total) (hlifetime : 0 < authority.lifetime) :
    ActsAsRecognized ((b.services authority limits).answered
      [.recognition authority now u, .nilCreation now u] s) := by
  intro before a after actor hlog hactor
  rw [Services.answered, Services.answered, Services.answered,
    result_recognition hu hnow hlifetime] at hlog
  rcases before with _ | ⟨first, _ | ⟨second, rest⟩⟩
  · obtain ⟨rfl, _⟩ := List.cons.inj hlog
    cases hactor
  · obtain ⟨rfl, htail⟩ := List.cons.inj hlog
    obtain ⟨rfl, _⟩ := List.cons.inj htail
    cases hactor
    exact ⟨_, List.mem_singleton.2 rfl⟩
  · simp at hlog

/-- A recognized user can store a company under the identifier nil, with nil as its editor. -/
theorem nil_stored_by_recognized :
    ∃ (authority : Authority) (limits : Limits) (visits : List Visit),
      (∀ v ∈ visits, v.supply.id.IsAssigned) ∧
      ActsAsRecognized ((Backend.database.services authority limits).answered visits
        Backend.database.start) ∧
      ∃ row ∈ Backend.database.companyRows
          ((Backend.database.services authority limits).after visits Backend.database.start),
        row.id = .nil ∧ row.updatedBy = some .nil :=
  ⟨⟨"acme", ⟨"k"⟩, 900, by decide, by decide⟩, {},
    [.recognition _ ⟨0, by decide, by decide⟩ ⟨2, by decide⟩,
      .nilCreation ⟨0, by decide, by decide⟩ ⟨2, by decide⟩],
    by decide, actsAsRecognized_nilCreation (by decide) (by decide) (by decide),
    ⟨.nil, "Acme", none, 5, true, "NonProfit", ⟨2, by decide⟩, some .nil⟩, by decide, rfl, rfl⟩

end TradeRegister

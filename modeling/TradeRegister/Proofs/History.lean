import TradeRegister.Call
import TradeRegister.Proofs.Service.Effects

/-! # Who made a company, and who changed it

The calls that were answered tell the history of every company. Its row names the actor of the call
that created it, and the actor of the last call that updated it since. Until the first update the
row names the editor that the creating call supplied, if it supplied any: creation overwrites the
creator of a record and leaves its editor alone.
-/

namespace TradeRegister

open Service (Services Effect Limits Outcome Response Supply answer_effect)
open Store (Backend Becomes CompanyRow Database Memory Patched)
open Token (Authority)

variable {σ : Type}

/-! ## Histories -/

/-- A call with what it gets from outside. -/
structure Visit where
  call : Call
  supply : Supply

abbrev Answered := Call × Except Fault Response

namespace Service.Services

def visit (d : Services σ) (s : σ) (v : Visit) : Outcome σ Response :=
  d.answer v.supply s v.call.request

def after (d : Services σ) (visits : List Visit) (s : σ) : σ :=
  visits.foldl (fun s v => (d.visit s v).state) s

def answered (d : Services σ) : List Visit → σ → List Answered
  | [], _ => []
  | v :: visits, s =>
    let o := d.visit s v
    (v.call, o.result) :: d.answered visits o.state

end Service.Services

inductive CompanyEvent
  | created (actor : Uuid) (c : Company)
  | updated (actor : Uuid)
  | deleted
deriving DecidableEq

/-- What an answered call did to the company under `id`. -/
def Answered.event? (id : Uuid) : Answered → Option CompanyEvent
  | (.createCompany actor c, .ok (.company made)) =>
    if made.id = .value id then some (.created actor c) else none
  | (.updateCompany actor target _, .ok _) => if target = id then some (.updated actor) else none
  | (.deleteCompany _ target, .ok _) => if target = id then some .deleted else none
  | _ => none

def history (id : Uuid) (log : List Answered) : List CompanyEvent := log.filterMap (Answered.event? id)

theorem history_append_of_none {id : Uuid} {a : Answered} (h : a.event? id = none)
    (log : List Answered) : history id (log ++ [a]) = history id log := by
  simp [history, h]

theorem history_append_of_some {id : Uuid} {a : Answered} {e : CompanyEvent}
    (h : a.event? id = some e) (log : List Answered) :
    history id (log ++ [a]) = history id log ++ [e] := by
  simp [history, h]

/-- The history ends with a creation by `creator` and the updates since; `editor` is the actor of the
last of them or, without any, the editor that the new record supplied. -/
def Tells (events : List CompanyEvent) (creator : Uuid) (editor : Option Uuid) : Prop :=
  ∃ before c, ∃ editors : List Uuid,
    events = before ++ .created creator c :: editors.map .updated ∧
    editor = editors.getLast?.or c.updatedBy.value?

/-- The company was never created, or it was deleted since. -/
def IsOver (events : List CompanyEvent) : Prop :=
  events = [] ∨ ∃ before, events = before ++ [.deleted]

theorem Tells.created (events : List CompanyEvent) (actor : Uuid) (c : Company) :
    Tells (events ++ [.created actor c]) actor c.updatedBy.value? :=
  ⟨events, c, [], rfl, rfl⟩

theorem Tells.updated {events : List CompanyEvent} {creator : Uuid} {editor : Option Uuid}
    (h : Tells events creator editor) (actor : Uuid) :
    Tells (events ++ [.updated actor]) creator (some actor) := by
  obtain ⟨before, c, editors, rfl, _⟩ := h
  exact ⟨before, c, editors ++ [actor], by simp, by simp⟩

/-! ## Rows -/

/-- Every row names who made and who last changed its company. -/
structure Attributed (rows : List CompanyRow) (log : List Answered) : Prop where
  present : ∀ row ∈ rows, Tells (history row.id log) row.createdBy row.updatedBy
  absent : ∀ id, (∀ row ∈ rows, row.id ≠ id) → IsOver (history id log)

namespace Attributed

variable {rows rows' : List CompanyRow} {log : List Answered}

theorem nil : Attributed [] [] := ⟨fun _ hrow => absurd hrow List.not_mem_nil, fun _ _ => .inl rfl⟩

theorem perm (h : Attributed rows log) (hperm : rows'.Perm rows) : Attributed rows' log :=
  ⟨fun row hrow => h.present row (hperm.mem_iff.1 hrow),
    fun id hid => h.absent id fun row hrow => hid row (hperm.mem_iff.2 hrow)⟩

theorem still (h : Attributed rows log) {a : Answered} (ha : ∀ id, a.event? id = none) :
    Attributed rows (log ++ [a]) := by
  constructor
  · intro row hrow
    rw [history_append_of_none (ha row.id)]
    exact h.present row hrow
  · intro id hid
    rw [history_append_of_none (ha id)]
    exact h.absent id hid

theorem created (h : Attributed rows log) {row : CompanyRow} {kind : CompanyKind} {actor : Uuid}
    {c : Company} {fresh : Uuid} (hrow : row.Records { c with createdBy := .value actor } fresh)
    (hfree : ∀ r ∈ rows, r.id ≠ row.id) :
    Attributed (row :: rows)
      (log ++ [(.createCompany actor c, .ok (.company (row.company kind)))]) := by
  have hsame : Answered.event? row.id (.createCompany actor c, .ok (.company (row.company kind))) =
      some (.created actor c) := if_pos rfl
  have hother {id : Uuid} (hid : row.id ≠ id) :
      Answered.event? id (.createCompany actor c, .ok (.company (row.company kind))) = none :=
    if_neg fun h => hid (Attribute.value.inj h)
  constructor
  · intro r hr
    rcases List.mem_cons.1 hr with rfl | hr
    · have hcreator := Attribute.value.inj hrow.createdBy
      rw [history_append_of_some hsame, ← hcreator, hrow.updatedBy.2]
      exact .created _ actor c
    · rw [history_append_of_none (hother (Ne.symm (hfree r hr)))]
      exact h.present r hr
  · intro id hid
    rw [history_append_of_none (hother (hid row List.mem_cons_self))]
    exact h.absent id fun r hr => hid r (List.mem_cons_of_mem row hr)

theorem updated (h : Attributed rows log) {actor : Uuid} {patch : Company}
    {old next : CompanyRow} {response : Response} (hold : old ∈ rows)
    (hpatched : Patched { patch with id := .value old.id, updatedBy := .value actor } old next) :
    Attributed (rows.map fun r => if r.id = old.id then next else r)
      (log ++ [(.updateCompany actor old.id patch, .ok response)]) := by
  have hsame : Answered.event? old.id (.updateCompany actor old.id patch, .ok response) =
      some (.updated actor) := if_pos rfl
  have hother {id : Uuid} (hid : old.id ≠ id) :
      Answered.event? id (.updateCompany actor old.id patch, .ok response) = none := if_neg hid
  constructor
  · intro row hrow
    obtain ⟨r, hr, rfl⟩ := List.mem_map.1 hrow
    split
    · have heditor : next.updatedBy = some actor := hpatched.updatedBy.2
      rw [hpatched.id, history_append_of_some hsame, hpatched.createdBy, heditor]
      exact (h.present old hold).updated actor
    · next hid =>
      rw [history_append_of_none (hother (Ne.symm hid))]
      exact h.present r hr
  · intro id hid
    have habsent : ∀ r ∈ rows, r.id ≠ id := by
      intro r hr hsame
      have hnext := hid _ (List.mem_map_of_mem hr)
      split at hnext
      · next hsame' => exact hnext (hpatched.id.trans (hsame'.symm.trans hsame))
      · exact hnext hsame
    rw [history_append_of_none (hother (habsent old hold))]
    exact h.absent id habsent

theorem deleted (h : Attributed rows log) (actor target : Uuid) (response : Response) :
    Attributed (rows.filter fun r => r.id != target)
      (log ++ [(.deleteCompany actor target, .ok response)]) := by
  have hsame : Answered.event? target (.deleteCompany actor target, .ok response) =
      some .deleted := if_pos rfl
  have hother {id : Uuid} (hid : target ≠ id) :
      Answered.event? id (.deleteCompany actor target, .ok response) = none := if_neg hid
  constructor
  · intro r hr
    obtain ⟨hr, hne⟩ := List.mem_filter.1 hr
    rw [history_append_of_none (hother (Ne.symm (by simpa using hne)))]
    exact h.present r hr
  · intro id hid
    by_cases htarget : target = id
    · rw [← htarget, history_append_of_some hsame]
      exact .inr ⟨_, rfl⟩
    · rw [history_append_of_none (hother htarget)]
      refine h.absent id fun r hr hrid => ?_
      exact hid r (List.mem_filter.2 ⟨hr, by simpa [hrid] using Ne.symm htarget⟩) hrid

end Attributed

/-! ## Runs -/

variable {b : Backend σ} {l : b.Laws} {s : σ}

theorem attributed_visit (h : l.Intact s) (authority : Authority) (limits : Limits)
    {log : List Answered} (hlog : Attributed (b.companyRows s) log) (v : Visit) :
    let o := (b.services authority limits).visit s v
    Attributed (b.companyRows o.state) (log ++ [(v.call, o.result)]) := by
  obtain ⟨call, supply⟩ := v
  have heffect := answer_effect h authority limits supply call.request
  unfold Services.visit
  dsimp only
  generalize (b.services authority limits).answer supply s call.request = o at heffect
  cases call with
  | createCompany actor c =>
    cases heffect with
    | asked hquestion => exact hquestion.elim
    | refused => exact hlog.still fun _ => rfl
    | created hrow _ hfree hnext =>
      exact (hlog.created hrow fun r hr => (hfree r hr).1).perm hnext.rows
  | updateCompany actor id patch =>
    cases heffect with
    | asked hquestion => exact hquestion.elim
    | refused => exact hlog.still fun _ => rfl
    | updated hpasses hold hpatched _ hnext =>
      obtain rfl := Attribute.value.inj hpasses.id
      exact (hlog.updated hold hpatched).perm hnext.rows
  | deleteCompany actor id =>
    cases heffect with
    | asked hquestion => exact hquestion.elim
    | refused => exact hlog.still fun _ => rfl
    | deleted hrow hnext => exact (hlog.deleted actor _ .deleted).perm hnext.rows
  | signup username password =>
    cases heffect with
    | asked hquestion => exact hquestion.elim
    | refused => exact hlog.still fun _ => rfl
    | registered _ _ hnext => exact hnext.kept ▸ hlog.still fun _ => rfl
  | login username password =>
    cases heffect <;> exact hlog.still fun _ => rfl
  | authenticate token =>
    cases heffect <;> exact hlog.still fun _ => rfl
  | company id =>
    cases heffect <;> exact hlog.still fun _ => rfl
  | companyByName name =>
    cases heffect <;> exact hlog.still fun _ => rfl

theorem attributed_after (authority : Authority) (limits : Limits) (visits : List Visit)
    {log : List Answered} (h : l.Intact s) (hlog : Attributed (b.companyRows s) log) :
    l.Intact ((b.services authority limits).after visits s) ∧
      Attributed (b.companyRows ((b.services authority limits).after visits s))
        (log ++ (b.services authority limits).answered visits s) := by
  induction visits generalizing s log with
  | nil => exact ⟨h, by rwa [Services.answered, List.append_nil]⟩
  | cons v visits ih =>
    have hnext := (answer_effect h authority limits v.supply v.call.request).intact h
    have hrest := ih hnext (attributed_visit h authority limits hlog v)
    rwa [List.append_assoc] at hrest

/-- What a register keeps of its history: every row names who made and who last changed its company,
and so does whoever looks the company up. -/
structure KeepsHistory (b : Backend σ) (s : σ) (log : List Answered) : Prop where
  rows : Attributed (b.companyRows s) log
  read : ∀ id c, b.companies.byId id s = .ok c → ∃ creator editor,
    Tells (history id log) creator editor ∧ c.createdBy = .value creator ∧
      c.updatedBy = .ofNullable editor

theorem Store.Backend.Laws.keepsHistory (l : b.Laws) (authority : Authority) (limits : Limits)
    (visits : List Visit) :
    KeepsHistory b ((b.services authority limits).after visits b.start)
      ((b.services authority limits).answered visits b.start) := by
  have hstart : Attributed (b.companyRows b.start) [] := by
    rw [l.companyRows_start]
    exact .nil
  obtain ⟨hafter, hlog⟩ := attributed_after (l := l) authority limits visits .start hstart
  rw [List.nil_append] at hlog
  refine ⟨hlog, fun id c hfound => ?_⟩
  obtain ⟨r, hr, rfl, hread⟩ := (l.companyById_eq_ok_iff hafter.sound).1 hfound
  obtain ⟨kind, hkind⟩ := hafter.known r hr
  obtain rfl := Except.ok.inj ((Store.CompanyRow.read_eq hkind).symm.trans hread)
  exact ⟨_, _, hlog.present r hr, rfl, rfl⟩

/-- Whoever calls, in whatever order and with whatever records, a company names the actor of the call
that created it and the actor of the last call that updated it. -/
theorem keepsHistory_after (authority : Authority) (limits : Limits) (visits : List Visit) :
    KeepsHistory .memory
        ((Backend.memory.services authority limits).after visits Backend.memory.start)
        ((Backend.memory.services authority limits).answered visits Backend.memory.start) ∧
      KeepsHistory .database
        ((Backend.database.services authority limits).after visits Backend.database.start)
        ((Backend.database.services authority limits).answered visits Backend.database.start) :=
  ⟨Memory.laws.keepsHistory authority limits visits,
    Database.laws.keepsHistory authority limits visits⟩

def forgery : Visit where
  call := .createCompany ⟨2, by decide⟩
    { name := .value "Acme"
      employeeCount := .value 5
      registered := .value true
      kind := .value .nonProfit
      updatedBy := .value ⟨3, by decide⟩ }
  supply := ⟨⟨0, by decide, by decide⟩, ⟨1, by decide⟩, []⟩

/-- A company may name an editor that never touched it: the one that the record of its creation
supplied. -/
theorem editor_without_update :
    ¬ ∀ (authority : Authority) (limits : Limits) (visits : List Visit),
      ∀ row ∈ Backend.memory.companyRows
          ((Backend.memory.services authority limits).after visits Backend.memory.start),
        (∀ actor, .updated actor ∉ history row.id
          ((Backend.memory.services authority limits).answered visits Backend.memory.start)) →
        row.updatedBy = none := by
  intro h
  refine absurd (h ⟨"acme", ⟨"k"⟩, 900, by decide, by decide⟩ {} [forgery]
    ⟨⟨1, by decide⟩, "Acme", none, 5, true, "NonProfit", ⟨2, by decide⟩, some ⟨3, by decide⟩⟩
    (by decide) ?_) (by decide)
  intro actor hupdated
  rcases List.mem_singleton.1 hupdated with ⟨⟩

end TradeRegister

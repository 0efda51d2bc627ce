import TradeRegister.Proofs.Service.Outcomes
import TradeRegister.Proofs.Store.Damage

/-! # Several writers of one company

Partial updates of one company whose supplied attributes are pairwise disjoint lose nothing of each
other, in whatever order they are made. Which of them succeed depends on the other companies alone,
and all orders end in one row, but for the last editor.
-/

namespace TradeRegister

/-- No attribute is supplied by both updates, apart from the target and the editor. -/
structure Company.Apart (p q : Company) : Prop where
  name : p.name = .unset ∨ q.name = .unset
  description : p.description = .unset ∨ q.description = .unset
  employeeCount : p.employeeCount = .unset ∨ q.employeeCount = .unset
  registered : p.registered = .unset ∨ q.registered = .unset
  kind : p.kind = .unset ∨ q.kind = .unset

theorem Company.Apart.symm {p q : Company} (h : p.Apart q) : q.Apart p :=
  ⟨h.name.symm, h.description.symm, h.employeeCount.symm, h.registered.symm, h.kind.symm⟩

namespace Attribute

variable {α : Type} {x : Attribute α}

theorem Over.eq_getD {old next : α} (h : x.Over old next) : next = x.value?.getD old := by
  cases x with
  | unset => exact h
  | cleared => exact h.elim
  | value a => exact h

theorem OverNullable.eq_getD {old next : Option α} (h : x.OverNullable old next) :
    next = x.patch?.getD old := by
  cases x <;> exact h

theorem value?_eq_none_or {y : Attribute α} (h : x = .unset ∨ y = .unset) :
    x.value? = none ∨ y.value? = none := by
  rcases h with rfl | rfl
  · exact .inl rfl
  · exact .inr rfl

end Attribute

namespace Store

/-! ## What several updates leave of a row -/

/-- A column carries what the updates supply for it: all that is supplied is there at the end, and
without any the old content is. -/
structure Carries {β : Type} (supplied? : Company → Option β) (done : List Company) (old next : β) :
    Prop where
  supplied : ∀ p ∈ done, ∀ a, supplied? p = some a → next = a
  kept : (∀ p ∈ done, supplied? p = none) → next = old

namespace Carries

variable {β : Type} {supplied? : Company → Option β} {done : List Company} {old mid next : β}

theorem nil (old : β) : Carries supplied? [] old old :=
  ⟨fun _ hp => absurd hp List.not_mem_nil, fun _ => rfl⟩

theorem cons {p : Company} (hmid : mid = (supplied? p).getD old)
    (h : Carries supplied? done mid next)
    (hapart : ∀ q ∈ done, supplied? p = none ∨ supplied? q = none) :
    Carries supplied? (p :: done) old next where
  supplied := by
    intro q hq a ha
    rcases List.mem_cons.1 hq with rfl | hq
    · have hothers : ∀ q' ∈ done, supplied? q' = none := fun q' hq' =>
        (hapart q' hq').resolve_left (by simp [ha])
      rw [h.kept hothers, hmid, ha, Option.getD_some]
    · exact h.supplied q hq a ha
  kept := by
    intro hnone
    obtain ⟨hp, hdone⟩ := List.forall_mem_cons.1 hnone
    rw [h.kept hdone, hmid, hp, Option.getD_none]

theorem perm (h : Carries supplied? done old next) {done' : List Company} (hperm : done'.Perm done) :
    Carries supplied? done' old next :=
  ⟨fun p hp => h.supplied p (hperm.mem_iff.1 hp),
    fun hnone => h.kept fun p hp => hnone p (hperm.mem_iff.2 hp)⟩

theorem unique {next' : β} (h : Carries supplied? done old next)
    (h' : Carries supplied? done old next') : next' = next := by
  by_cases hsome : ∃ p ∈ done, ∃ a, supplied? p = some a
  · obtain ⟨p, hp, a, ha⟩ := hsome
    rw [h.supplied p hp a ha, h'.supplied p hp a ha]
  · have hnone : ∀ p ∈ done, supplied? p = none := fun p hp =>
      Option.eq_none_iff_forall_ne_some.2 fun a ha => hsome ⟨p, hp, a, ha⟩
    rw [h.kept hnone, h'.kept hnone]

end Carries

/-- `next` is `old` with everything that the updates supply. A cleared description is null. -/
structure Gathered (done : List Company) (old next : CompanyRow) : Prop where
  id : next.id = old.id
  name : Carries (·.name.value?) done old.name next.name
  description : Carries (·.description.patch?) done old.description next.description
  employeeCount : Carries (·.employeeCount.value?) done old.employeeCount next.employeeCount
  registered : Carries (·.registered.value?) done old.registered next.registered
  kind : Carries (·.kind.value?.map CompanyKind.name) done old.kind next.kind
  createdBy : next.createdBy = old.createdBy

def lastEditor (old : Option Uuid) (done : List Company) : Option Uuid :=
  match done.getLast? with
  | some p => p.updatedBy.value?
  | none => old

theorem lastEditor_cons (old : Option Uuid) (p : Company) (done : List Company) :
    lastEditor old (p :: done) = lastEditor p.updatedBy.value? done := by
  unfold lastEditor
  rw [List.getLast?_cons]
  cases done.getLast? <;> rfl

namespace Gathered

variable {done : List Company} {old mid next : CompanyRow}

theorem nil (old : CompanyRow) : Gathered [] old old :=
  ⟨rfl, .nil _, .nil _, .nil _, .nil _, .nil _, rfl⟩

theorem cons {p : Company} (hp : Patched p old mid) (h : Gathered done mid next)
    (hapart : ∀ q ∈ done, p.Apart q) : Gathered (p :: done) old next where
  id := h.id.trans hp.id
  name := h.name.cons hp.name.eq_getD fun q hq => Attribute.value?_eq_none_or (hapart q hq).name
  description := h.description.cons hp.description.eq_getD fun q hq => by
    simpa only [Attribute.patch?_eq_none_iff] using (hapart q hq).description
  employeeCount := h.employeeCount.cons hp.employeeCount.eq_getD fun q hq =>
    Attribute.value?_eq_none_or (hapart q hq).employeeCount
  registered := h.registered.cons hp.registered.eq_getD fun q hq =>
    Attribute.value?_eq_none_or (hapart q hq).registered
  kind := by
    refine h.kind.cons ?_ fun q hq => ?_
    · rw [← Attribute.value?_map]
      exact hp.kind.eq_getD
    · simpa only [Option.map_eq_none_iff] using Attribute.value?_eq_none_or (hapart q hq).kind
  createdBy := h.createdBy.trans hp.createdBy

theorem perm (h : Gathered done old next) {done' : List Company} (hperm : done'.Perm done) :
    Gathered done' old next :=
  ⟨h.id, h.name.perm hperm, h.description.perm hperm, h.employeeCount.perm hperm,
    h.registered.perm hperm, h.kind.perm hperm, h.createdBy⟩

/-- What the updates leave does not depend on their order, but for the last editor. -/
theorem eq_withEditor {next' : CompanyRow} (h : Gathered done old next)
    (h' : Gathered done old next') : next' = { next with updatedBy := next'.updatedBy } := by
  obtain ⟨id, name, description, employeeCount, registered, kind, createdBy, updatedBy⟩ := next'
  obtain rfl := h'.id.trans h.id.symm
  obtain rfl := h.name.unique h'.name
  obtain rfl := h.description.unique h'.description
  obtain rfl := h.employeeCount.unique h'.employeeCount
  obtain rfl := h.registered.unique h'.registered
  obtain rfl := h.kind.unique h'.kind
  obtain rfl := h'.createdBy.trans h.createdBy.symm
  rfl

end Gathered

/-! ## One company and the others -/

variable {σ : Type}

def Backend.otherCompanies (b : Backend σ) (id : Uuid) (s : σ) : List CompanyRow :=
  (b.companyRows s).filter fun r => r.id != id

def isUnopposed (others : List CompanyRow) (p : Company) : Bool :=
  others.all fun r => p.name != .value r.name

theorem isUnopposed_iff {others : List CompanyRow} {p : Company} :
    isUnopposed others p = true ↔ ∀ r ∈ others, p.name ≠ .value r.name := by
  simp [isUnopposed]

structure Backend.Laws.Shows {b : Backend σ} (l : b.Laws) (row : CompanyRow)
    (others : List CompanyRow) (s : σ) : Prop where
  intact : l.Intact s
  rows : (b.companyRows s).Perm (row :: others)

namespace Backend.Laws.Shows

variable {b : Backend σ} {l : b.Laws} {s : σ} {row : CompanyRow} {others : List CompanyRow}

theorem of_mem (h : l.Intact s) (hrow : row ∈ b.companyRows s) :
    l.Shows row (b.otherCompanies row.id s) s :=
  ⟨h, (l.companies h.sound).perm_cons_filter hrow⟩

theorem distinct (h : l.Shows row others s) :
    Distinct CompanyRow.id CompanyRow.name (row :: others) :=
  (l.companies h.intact.sound).perm h.rows.symm

theorem mem (h : l.Shows row others s) : row ∈ b.companyRows s :=
  h.rows.mem_iff.2 List.mem_cons_self

theorem mem_of_ne (h : l.Shows row others s) {r : CompanyRow} (hr : r ∈ b.companyRows s)
    (hid : r.id ≠ row.id) : r ∈ others :=
  (List.mem_cons.1 (h.rows.mem_iff.1 hr)).resolve_left fun heq => hid (heq ▸ rfl)

theorem id_ne (h : l.Shows row others s) {r : CompanyRow} (hr : r ∈ others) : r.id ≠ row.id :=
  ne_of_nodup_map_cons h.distinct.keys hr

theorem replace (h : l.Shows row others s) {next : CompanyRow} {s' : σ} (hs' : l.Intact s')
    (hrows : (b.companyRows s').Perm
      ((b.companyRows s).map fun r => if r.id = row.id then next else r)) :
    l.Shows next others s' where
  intact := hs'
  rows := by
    have hothers : others.map (fun r => if r.id = row.id then next else r) = others := by
      refine (List.map_congr_left ?_).trans (List.map_id _)
      intro r hr
      exact if_neg (h.id_ne hr)
    have hmap := h.rows.map fun r => if r.id = row.id then next else r
    rw [List.map_cons, if_pos rfl, hothers] at hmap
    exact hrows.trans hmap

end Backend.Laws.Shows
end Store

namespace Service

open Delivery (Mutation)
open Store (Backend Change CompanyRow CompanyRepository Database Gathered Memory Patched isUnopposed
  isUnopposed_iff lastEditor)

variable {σ : Type}

/-! ## Updates in a row -/

/-- What updates are answered when they are made one after the other, and the state after all. -/
def updateAll (repo : CompanyRepository σ) (limits : Limits) :
    List Company → σ → List (Except Fault Company) × σ
  | [], s => ([], s)
  | p :: patches, s =>
    let o := updateCompany repo limits p s
    let rest := updateAll repo limits patches o.state
    (o.result :: rest.1, rest.2)

/-- An update succeeds unless another company has the name that it supplies. -/
def AnsweredBy (others : List CompanyRow) (p : Company) (answer : Except Fault Company) : Prop :=
  if isUnopposed others p then ∃ c, answer = .ok c else answer = .error (.conflict "company")

/-- What a sequence of updates leads to: `next` is left of the company, and nothing else changed. -/
structure LeadsTo (b : Backend σ) (s : σ) (others : List CompanyRow) (patches : List Company)
    (out : List (Except Fault Company) × σ) (next : CompanyRow) : Prop where
  answers : List.Forall₂ (AnsweredBy others) patches out.1
  rows : (b.companyRows out.2).Perm (next :: others)
  users : b.userRows out.2 = b.userRows s
  found : ∃ kind, b.companies.byId next.id out.2 = .ok (next.company kind)

/-- In every order the same updates succeed, and what they leave is one row with all that they
supply, under the editor of the last of them. -/
def LosesNothing (b : Backend σ) (limits : Limits) (s : σ) (old : CompanyRow)
    (patches : List Company) : Prop :=
  let others := b.otherCompanies old.id s
  ∃ merged, Gathered (patches.filter (isUnopposed others)) old merged ∧
    ∀ order : List Company, order.Perm patches →
      LeadsTo b s others order (updateAll b.companies limits order s)
        { merged with
          updatedBy := lastEditor old.updatedBy (order.filter (isUnopposed others)) }

variable {b : Backend σ} {l : b.Laws} {s : σ} {old : CompanyRow} {others : List CompanyRow}
  {limits : Limits} {p : Company}

inductive Updated (l : b.Laws) (old : CompanyRow) (others : List CompanyRow) (p : Company) (s : σ) :
    Outcome σ Company → Prop
  | written {next : CompanyRow} {kind : CompanyKind} {s' : σ} {announced : List Mutation}
    (hfree : isUnopposed others p = true) (hpatched : Patched p old next)
    (hnext : l.Shows next others s') (husers : b.userRows s' = b.userRows s) :
    Updated l old others p s ⟨.ok (next.company kind), s', announced⟩
  | opposed (htaken : isUnopposed others p = false) :
    Updated l old others p s (.refused (.conflict "company") s)

theorem updated_updateCompany (h : l.Shows old others s) (hvalid : limits.checkPatch p = .ok old.id) :
    Updated l old others p s (updateCompany b.companies limits p s) := by
  have hid := (Limits.checkPatch_eq_ok_iff.1 hvalid).id
  have hout := updateCompany_outcome h.intact limits p
  generalize updateCompany b.companies limits p s = o at hout
  cases hout with
  | invalid hcheck => cases hcheck.symm.trans hvalid
  | missing hpasses hnone =>
    exact absurd (Attribute.value.inj (hid.symm.trans hpasses.id)) (hnone old h.mem)
  | @taken old' r hpasses hold hr hother hname =>
    obtain rfl := h.distinct.eq_of_key (h.rows.mem_iff.1 hold) List.mem_cons_self
      (Attribute.value.inj (hpasses.id.symm.trans hid))
    refine .opposed (Bool.eq_false_iff.2 fun hfree => ?_)
    exact isUnopposed_iff.1 hfree r (h.mem_of_ne hr hother) hname
  | @written old' next kind s' hpasses hold hpatched hkind hfree hnext =>
    obtain rfl := h.distinct.eq_of_key (h.rows.mem_iff.1 hold) List.mem_cons_self
      (Attribute.value.inj (hpasses.id.symm.trans hid))
    have hintact : l.Intact s' := .becomes (h.intact.known.replace ⟨kind, hkind⟩) hnext
    refine .written (isUnopposed_iff.2 fun r hr => ?_) hpatched (h.replace hintact hnext.rows)
      hnext.kept
    exact hfree r (h.rows.mem_iff.2 (List.mem_cons_of_mem _ hr)) (h.id_ne hr)

/-- Each update finds what the earlier ones left, and writes what none of them wrote. -/
theorem exists_gathered_updateAll (h : l.Shows old others s) {patches : List Company}
    (hvalid : ∀ p ∈ patches, limits.checkPatch p = .ok old.id)
    (hapart : patches.Pairwise Company.Apart) :
    ∃ next, Gathered (patches.filter (isUnopposed others)) old next ∧
      next.updatedBy = lastEditor old.updatedBy (patches.filter (isUnopposed others)) ∧
      LeadsTo b s others patches (updateAll b.companies limits patches s) next := by
  induction patches generalizing s old with
  | nil =>
    obtain ⟨kind, hkind⟩ := h.intact.known old h.mem
    refine ⟨old, .nil old, rfl, .nil, h.rows, rfl, kind, ?_⟩
    exact (l.companyById_eq_ok_iff h.intact.sound).2
      ⟨old, h.mem, rfl, Store.CompanyRow.read_eq hkind⟩
  | cons p patches ih =>
    obtain ⟨hp, hvalid⟩ := List.forall_mem_cons.1 hvalid
    obtain ⟨hpapart, hapart⟩ := List.pairwise_cons.1 hapart
    have hupdated := updated_updateCompany h hp
    rw [updateAll]
    generalize updateCompany b.companies limits p s = o at hupdated ⊢
    cases hupdated with
    | @written mid kind s' _ hfree hpatched hnext husers =>
      rw [← hpatched.id] at hvalid
      obtain ⟨next, hgathered, heditor, hleads⟩ := ih hnext hvalid hapart
      have hanswer : AnsweredBy others p (.ok (mid.company kind)) := by
        rw [AnsweredBy, if_pos hfree]
        exact ⟨_, rfl⟩
      rw [List.filter_cons_of_pos hfree]
      refine ⟨next, hgathered.cons hpatched fun q hq => hpapart q (List.mem_of_mem_filter hq), ?_,
        .cons hanswer hleads.answers, hleads.rows, hleads.users.trans husers, hleads.found⟩
      have hmid : mid.updatedBy = p.updatedBy.value? := by
        obtain ⟨actor, hactor, _⟩ := (Limits.checkPatch_eq_ok_iff.1 hp).editor
        have hover := hpatched.updatedBy.2
        rw [hactor] at hover ⊢
        exact hover
      rw [Store.lastEditor_cons, ← hmid]
      exact heditor
    | opposed htaken =>
      obtain ⟨next, hgathered, heditor, hleads⟩ := ih h hvalid hapart
      have hanswer : AnsweredBy others p (.error (.conflict "company")) := by
        rw [AnsweredBy, if_neg (by simp [htaken])]
      rw [List.filter_cons_of_neg (by simp [htaken])]
      exact ⟨next, hgathered, heditor, .cons hanswer hleads.answers, hleads.rows, hleads.users,
        hleads.found⟩

theorem losesNothing (h : l.Intact s) (hold : old ∈ b.companyRows s) {patches : List Company}
    (hvalid : ∀ p ∈ patches, limits.checkPatch p = .ok old.id)
    (hapart : patches.Pairwise Company.Apart) : LosesNothing b limits s old patches := by
  have hshows : l.Shows old (b.otherCompanies old.id s) s := .of_mem h hold
  obtain ⟨merged, hmerged, -, -⟩ := exists_gathered_updateAll hshows hvalid hapart
  refine ⟨merged, hmerged, fun order horder => ?_⟩
  have hvalid' : ∀ p ∈ order, limits.checkPatch p = .ok old.id :=
    fun p hp => hvalid p (horder.mem_iff.1 hp)
  have hapart' : order.Pairwise Company.Apart :=
    (horder.pairwise_iff fun {_ _} h => Company.Apart.symm h).2 hapart
  obtain ⟨next, hnext, heditor, hleads⟩ := exists_gathered_updateAll hshows hvalid' hapart'
  have hsame := hmerged.eq_withEditor (hnext.perm (horder.symm.filter _))
  rw [heditor] at hsame
  exact hsame ▸ hleads

/-- Whatever was asked of a store before, valid updates of one company that supply different
attributes lose nothing of each other. -/
theorem losesNothing_after (changes : List Change) (limits : Limits) {id : Uuid}
    {patches : List Company} (hvalid : ∀ p ∈ patches, limits.checkPatch p = .ok id)
    (hapart : patches.Pairwise Company.Apart) :
    (∀ old ∈ Backend.memory.companyRows (Backend.memory.after changes), old.id = id →
        LosesNothing .memory limits (Backend.memory.after changes) old patches) ∧
      ∀ old ∈ Backend.database.companyRows (Backend.database.after changes), old.id = id →
        LosesNothing .database limits (Backend.database.after changes) old patches := by
  constructor
  · rintro old hold rfl
    exact losesNothing (Store.Memory.laws.intact_after changes) hold hvalid hapart
  · rintro old hold rfl
    exact losesNothing (Store.Database.laws.intact_after changes) hold hvalid hapart

/-- Three users at work on one company: one wants the name of another company, one clears the
description, one corrects the number of employees and the legal form. -/
def threeWriters : List Company :=
  [{ Company.patch (.ofNat 33) (.ofNat 41) with name := .value "Beta" },
    { Company.patch (.ofNat 33) (.ofNat 42) with description := .cleared },
    { Company.patch (.ofNat 33) (.ofNat 43) with
      employeeCount := .value 7, kind := .value .cooperative }]

def twoCompanies : List Change :=
  [.createCompany (.ofNat 33)
      { name := .value "Acme", description := .value "Anvils", employeeCount := .value 5
        registered := .value true, kind := .value .nonProfit, createdBy := .value (.ofNat 41) },
    .createCompany (.ofNat 34)
      { name := .value "Beta", employeeCount := .value 1, registered := .value false
        kind := .value .corporation, createdBy := .value (.ofNat 42) }]

theorem losesNothing_after_twoCompanies :
    (∀ p ∈ threeWriters, Limits.checkPatch {} p = .ok (.ofNat 33)) ∧
      threeWriters.Pairwise Company.Apart ∧
      LosesNothing .database {} (Backend.database.after twoCompanies)
        ⟨.ofNat 33, "Acme", some "Anvils", 5, true, "NonProfit", .ofNat 41, none⟩ threeWriters := by
  have hvalid : ∀ p ∈ threeWriters, Limits.checkPatch {} p = .ok (.ofNat 33) := by decide +kernel
  have hapart : threeWriters.Pairwise Company.Apart := by
    simp only [threeWriters, List.pairwise_cons, List.mem_cons, List.not_mem_nil, or_false,
      forall_eq_or_imp, forall_eq, false_imp_iff, implies_true, List.Pairwise.nil, and_true]
    exact ⟨⟨⟨.inr rfl, .inl rfl, .inl rfl, .inl rfl, .inl rfl⟩,
      ⟨.inr rfl, .inl rfl, .inl rfl, .inl rfl, .inl rfl⟩⟩,
      ⟨.inl rfl, .inr rfl, .inl rfl, .inl rfl, .inl rfl⟩⟩
  exact ⟨hvalid, hapart, (losesNothing_after twoCompanies {} hvalid hapart).2 _ (by decide +kernel) rfl⟩

end Service
end TradeRegister

import TradeRegister.Proofs.Store.Reached

/-! # What an operation looks at and what it changes

An operation on companies is about the row under one identifier, its target, and may supply a name.
It looks at its target and at the rows of that name; it changes its target or nothing, and leaves it
under the name supplied or the name that was there. States which agree on the rows that an operation
looks at answer it alike, and their targets become alike.
-/

namespace TradeRegister.Store

variable {σ : Type}

namespace Operation

def target? : Operation → Option Uuid
  | .create fresh c => (assignId fresh c.id).toOption
  | .byId id => some id
  | .byName _ => none
  | .update patch => patch.id.value?
  | .delete id => some id

def name? : Operation → Option String
  | .create _ c => c.name.value?
  | .byId _ => none
  | .byName n => some n
  | .update patch => patch.name.value?
  | .delete _ => none

def Concerns (op : Operation) (r : CompanyRow) : Prop :=
  op.target? = some r.id ∨ op.name? = some r.name

/-- The operation supplies this name, or it is the current name of its target. -/
def Touches (op : Operation) (rows : List CompanyRow) (name : String) : Prop :=
  op.name? = some name ∨ ∃ r ∈ rows, op.target? = some r.id ∧ r.name = name

/-- Both tables hold the same of the rows that the operation looks at. -/
def SeesAlike (op : Operation) (rows rows₀ : List CompanyRow) : Prop :=
  ∀ r, op.Concerns r → (r ∈ rows ↔ r ∈ rows₀)

theorem SeesAlike.refl (op : Operation) (rows : List CompanyRow) : op.SeesAlike rows rows :=
  fun _ _ => Iff.rfl

end Operation

/-- The change of a table by one operation: none, one row that is put in under its identifier, or
one that is taken out. -/
inductive Edit
  | keep
  | put (row : CompanyRow)
  | drop (id : Uuid)

namespace Edit

def Makes (rows rows' : List CompanyRow) : Edit → Prop
  | .keep => ∀ r, r ∈ rows' ↔ r ∈ rows
  | .put row => ∀ r, r ∈ rows' ↔ r = row ∨ r ∈ rows ∧ r.id ≠ row.id
  | .drop id => ∀ r, r ∈ rows' ↔ r ∈ rows ∧ r.id ≠ id

/-- The operation may make this change. -/
def Within (op : Operation) (rows : List CompanyRow) : Edit → Prop
  | .keep => True
  | .put row => op.target? = some row.id ∧ op.Touches rows row.name
  | .drop id => op.target? = some id

variable {edit : Edit} {op : Operation} {rows rows' : List CompanyRow} {r : CompanyRow}

theorem Makes.mem_iff_of_ne (h : edit.Makes rows rows') (hwithin : edit.Within op rows)
    (hr : op.target? ≠ some r.id) : r ∈ rows' ↔ r ∈ rows := by
  cases edit with
  | keep => exact h r
  | put row =>
    have hne : r.id ≠ row.id := fun hid => hr (hid ▸ hwithin.1)
    have hother : r ≠ row := fun heq => hne (congrArg CompanyRow.id heq)
    rw [h r]
    simp [hne, hother]
  | drop id =>
    have hne : r.id ≠ id := fun hid => hr (hid ▸ hwithin)
    rw [h r]
    simp [hne]

theorem Makes.touches (h : edit.Makes rows rows') (hwithin : edit.Within op rows) (hr : r ∈ rows')
    (htarget : op.target? = some r.id) : op.Touches rows r.name := by
  cases edit with
  | keep => exact .inr ⟨r, (h r).1 hr, htarget, rfl⟩
  | put row =>
    rcases (h r).1 hr with rfl | ⟨hr, _⟩
    · exact hwithin.2
    · exact .inr ⟨r, hr, htarget, rfl⟩
  | drop id => exact .inr ⟨r, ((h r).1 hr).1, htarget, rfl⟩

theorem Makes.target_iff (h : edit.Makes rows rows') {rows₀ rows₀' : List CompanyRow}
    (h₀ : edit.Makes rows₀ rows₀') (hsame : op.SeesAlike rows rows₀)
    (htarget : op.target? = some r.id) : r ∈ rows' ↔ r ∈ rows₀' := by
  have hr := hsame r (.inl htarget)
  cases edit with
  | keep => rw [h r, h₀ r, hr]
  | put row => rw [h r, h₀ r, hr]
  | drop id => rw [h r, h₀ r, hr]

end Edit

/-! ## What may come of an operation -/

/-- What a partial update does to a row that is there. -/
inductive Overwriting (rows : List CompanyRow) (old : CompanyRow) (w : CompanyWrite) (s : σ)
    (Next : σ → List CompanyRow → Prop) : Except Fault Company × σ → Prop
  | taken {r : CompanyRow} (hr : r ∈ rows) (hother : r.id ≠ old.id)
    (hname : r.name = (w.overwrite old).name) :
    Overwriting rows old w s Next (.error (.conflict "company"), s)
  | written {s' : σ} (hfree : ∀ r ∈ rows, r.id ≠ old.id → r.name ≠ (w.overwrite old).name)
    (hnext : Next s' (rows.map fun r => if r.id = old.id then w.overwrite old else r)) :
    Overwriting rows old w s Next ((w.overwrite old).read, s')

theorem Amendment.missing_or_found {rows : List CompanyRow} {patch : Company} {s : σ}
    {Next : σ → List CompanyRow → Prop} {out : Except Fault Company × σ} {id : Uuid}
    {w : CompanyWrite} (h : Amendment rows patch s Next out)
    (hpatch : CompanyWrite.ofPatch patch = .ok (id, w)) :
    (out = (.error (.notFound "company"), s) ∧ ∀ r ∈ rows, r.id ≠ id) ∨
      ∃ old ∈ rows, old.id = id ∧ Overwriting rows old w s Next out := by
  have htarget {id' : Uuid} {w' : CompanyWrite}
      (hpatch' : CompanyWrite.ofPatch patch = .ok (id', w')) : id' = id ∧ w' = w :=
    Prod.mk.inj (Except.ok.inj (hpatch'.symm.trans hpatch))
  cases h with
  | refused hrefused _ => cases hrefused.symm.trans hpatch
  | missing hpatch' hnone =>
    obtain ⟨rfl, rfl⟩ := htarget hpatch'
    exact .inl ⟨rfl, hnone⟩
  | taken hpatch' hold hr hother hname =>
    obtain ⟨rfl, rfl⟩ := htarget hpatch'
    exact .inr ⟨_, hold, rfl, .taken hr hother hname⟩
  | written hpatch' hold hfree hnext =>
    obtain ⟨rfl, rfl⟩ := htarget hpatch'
    exact .inr ⟨_, hold, rfl, .written hfree hnext⟩

/-- A partial update that cannot be written is refused alike in states that agree on its target. -/
def Backend.Steady (b : Backend σ) (Sound : σ → Prop) : Prop :=
  ∀ {s s₀ patch fault}, Sound s → Sound s₀ → CompanyWrite.ofPatch patch = .error fault →
    (∀ id, patch.id = .value id →
      ((∃ r ∈ b.companyRows s, r.id = id) ↔ ∃ r ∈ b.companyRows s₀, r.id = id)) →
    b.companies.update patch s = ((b.companies.update patch s₀).1, s)

theorem Memory.steady : Backend.memory.Steady Sound := by
  intro m m₀ patch fault hm hm₀ hpatch htarget
  change m.updateCompany patch = ((m₀.updateCompany patch).1, m)
  unfold Memory.updateCompany
  cases hid : patch.id.require "id" with
  | error fault' => rfl
  | ok id =>
    have htarget := htarget id (Attribute.require_eq_ok_iff.1 hid)
    dsimp only
    cases hget : m.companies.get? id with
    | none =>
      have hnone := hm.companies.get?_eq_none_iff.1 hget
      have hnone₀ : ∀ r ∈ Backend.memory.companyRows m₀, r.id ≠ id := by
        intro r hr hsame
        obtain ⟨r', hr', hsame'⟩ := htarget.2 ⟨r, hr, hsame⟩
        exact hnone r' hr' hsame'
      rw [hm₀.companies.get?_eq_none_iff.2 hnone₀]
    | some row =>
      obtain ⟨hrow, hsame⟩ := hm.companies.get?_eq_some_iff.1 hget
      obtain ⟨row₀, hrow₀⟩ := htarget.1 ⟨row, hrow, hsame⟩
      rw [hm₀.companies.get?_eq_some_iff.2 hrow₀]
      simp only [CompanyRow.amend_eq, hpatch, Except.map]

theorem Database.steady : Backend.database.Steady Sound := by
  intro d d₀ patch fault _ _ hpatch _
  have hrefused (d : Database) : d.updateCompany patch = (.error fault, d) := by
    rw [Database.updateCompany, hpatch]
  exact (hrefused d).trans (Prod.ext (congrArg Prod.fst (hrefused d₀)).symm rfl)

/-! ## Operations in states that they see alike -/

def Backend.SameEdit (b : Backend σ) (op : Operation) (s s₀ s' s₀' : σ) : Prop :=
  ∃ edit : Edit, edit.Within op (b.companyRows s) ∧
    edit.Makes (b.companyRows s) (b.companyRows s') ∧
    edit.Makes (b.companyRows s₀) (b.companyRows s₀')

theorem Backend.SameEdit.refl (b : Backend σ) (op : Operation) (s s₀ : σ) :
    b.SameEdit op s s₀ s s₀ :=
  ⟨.keep, trivial, fun _ => Iff.rfl, fun _ => Iff.rfl⟩

namespace Edit

variable {Sound : σ → Prop} {rowsOf : σ → List CompanyRow} {kept : σ → List UserRow} {s s' : σ}

theorem makes_insert {row : CompanyRow} (hfree : ∀ r ∈ rowsOf s, r.id ≠ row.id)
    (h : Becomes Sound rowsOf kept s s' (row :: rowsOf s)) :
    (put row).Makes (rowsOf s) (rowsOf s') := by
  intro r
  rw [h.rows.mem_iff, List.mem_cons, and_iff_left_of_imp (hfree r)]

theorem makes_replace {old row : CompanyRow} (hold : old ∈ rowsOf s) (hid : row.id = old.id)
    (h : Becomes Sound rowsOf kept s s'
      ((rowsOf s).map fun r => if r.id = old.id then row else r)) :
    (put row).Makes (rowsOf s) (rowsOf s') := by
  intro r
  rw [h.rows.mem_iff, List.mem_map, hid]
  constructor
  · rintro ⟨r', hr', rfl⟩
    by_cases hsame : r'.id = old.id
    · rw [if_pos hsame]
      exact .inl rfl
    · rw [if_neg hsame]
      exact .inr ⟨hr', hsame⟩
  · rintro (rfl | ⟨hr, hother⟩)
    · exact ⟨old, hold, if_pos rfl⟩
    · exact ⟨r, hr, if_neg hother⟩

theorem makes_filter {id : Uuid}
    (h : Becomes Sound rowsOf kept s s' ((rowsOf s).filter fun r => r.id != id)) :
    (drop id).Makes (rowsOf s) (rowsOf s') := by
  intro r
  rw [h.rows.mem_iff, List.mem_filter, bne_iff_ne]

end Edit

theorem Operation.target?_create_eq_some_iff {fresh id : Uuid} {c : Company} :
    (create fresh c).target? = some id ↔ c.id = .value id ∨ c.id = .unset ∧ id = fresh := by
  rw [← assignId_eq_ok_iff, target?]
  cases assignId fresh c.id <;> simp [Except.toOption]

theorem CompanyRow.Records.target?_eq {c : Company} {fresh : Uuid} {row : CompanyRow}
    (h : row.Records c fresh) : (Operation.create fresh c).target? = some row.id :=
  Operation.target?_create_eq_some_iff.2 h.id

theorem CompanyRow.Records.name?_eq {c : Company} {fresh : Uuid} {row : CompanyRow}
    (h : row.Records c fresh) : (Operation.create fresh c).name? = some row.name :=
  Attribute.value?_eq_some_iff.2 h.name

namespace Backend.Laws

variable {b : Backend σ} (l : b.Laws) {s s₀ : σ}

theorem create_alike (hs : l.Sound s) (hs₀ : l.Sound s₀) {fresh : Uuid} {c : Company}
    (hsees : (Operation.create fresh c).SeesAlike (b.companyRows s) (b.companyRows s₀)) :
    (b.companies.create fresh c s).1 = (b.companies.create fresh c s₀).1 ∧
      b.SameEdit (.create fresh c) s s₀ (b.companies.create fresh c s).2
        (b.companies.create fresh c s₀).2 := by
  have hlaw := l.createCompany hs fresh c
  have hlaw₀ := l.createCompany hs₀ fresh c
  cases hasked : CompanyRow.ofNew fresh c with
  | error fault =>
    rw [hlaw.eq_of_error hasked, hlaw₀.eq_of_error hasked]
    exact ⟨rfl, .refl b _ s s₀⟩
  | ok row =>
    have hrow := CompanyRow.ofNew_eq_ok_iff.1 hasked
    have hconcerns {r : CompanyRow} (hr : r.id = row.id ∨ r.name = row.name) :
        (Operation.create fresh c).Concerns r := by
      rcases hr with hid | hname
      · exact .inl (hid ▸ hrow.target?_eq)
      · exact .inr (hname ▸ hrow.name?_eq)
    rcases hlaw.taken_or_stored hasked with ⟨hout, r, hr, hsame⟩ | ⟨hout, hfree, hnext⟩
    · rcases hlaw₀.taken_or_stored hasked with ⟨hout₀, _⟩ | ⟨_, hfree₀, _⟩
      · rw [hout, hout₀]
        exact ⟨rfl, .refl b _ s s₀⟩
      · have hr₀ := hfree₀ r ((hsees r (hconcerns hsame)).1 hr)
        exact absurd hsame (not_or.2 hr₀)
    · rcases hlaw₀.taken_or_stored hasked with ⟨_, r, hr, hsame⟩ | ⟨hout₀, hfree₀, hnext₀⟩
      · have hr := hfree r ((hsees r (hconcerns hsame)).2 hr)
        exact absurd hsame (not_or.2 hr)
      · refine ⟨hout.trans hout₀.symm, .put row, ⟨hrow.target?_eq, .inl hrow.name?_eq⟩, ?_, ?_⟩
        · exact Edit.makes_insert (fun r hr => (hfree r hr).1) hnext
        · exact Edit.makes_insert (fun r hr => (hfree₀ r hr).1) hnext₀

/-- Rows that an update looks at stand in its way in both states or in neither. -/
theorem overwriting_alike (hs : l.Sound s) (hs₀ : l.Sound s₀) {patch : Company}
    (hsees : (Operation.update patch).SeesAlike (b.companyRows s) (b.companyRows s₀))
    {old : CompanyRow} {w : CompanyWrite} (hpatch : CompanyWrite.ofPatch patch = .ok (old.id, w))
    (hold : old ∈ b.companyRows s) (hold₀ : old ∈ b.companyRows s₀)
    {out out₀ : Except Fault Company × σ}
    (hout : Overwriting (b.companyRows s) old w s (Becomes l.Sound b.companyRows b.userRows s) out)
    (hout₀ : Overwriting (b.companyRows s₀) old w s₀
      (Becomes l.Sound b.companyRows b.userRows s₀) out₀) :
    out.1 = out₀.1 ∧ b.SameEdit (.update patch) s s₀ out.2 out₀.2 := by
  have hpatched := patched_overwrite hpatch old
  have hid : patch.id = .value old.id := (CompanyWrite.ofPatch_eq_ok_iff.1 hpatch).1
  cases hout with
  | @taken r hr hother hsame =>
    have hname := (hpatched.name_eq_iff (l.companies hs) hold hr hother).1 hsame
    have hr₀ := (hsees r (.inr (Attribute.value?_eq_some_iff.2 hname))).1 hr
    cases hout₀ with
    | taken _ _ _ => exact ⟨rfl, .refl b _ s s₀⟩
    | written hfree _ => exact absurd hsame (hfree r hr₀ hother)
  | written hfree hnext =>
    cases hout₀ with
    | @taken r hr hother hsame =>
      have hname := (hpatched.name_eq_iff (l.companies hs₀) hold₀ hr hother).1 hsame
      have hr := (hsees r (.inr (Attribute.value?_eq_some_iff.2 hname))).2 hr
      exact absurd hsame (hfree r hr hother)
    | written _ hnext₀ =>
      have htarget : (Operation.update patch).target? = some (w.overwrite old).id :=
        Attribute.value?_eq_some_iff.2 (hpatched.id ▸ hid)
      have htouches :
          (Operation.update patch).Touches (b.companyRows s) (w.overwrite old).name := by
        rcases Attribute.over_iff.1 hpatched.name with ⟨_, hsame⟩ | hvalue
        · exact .inr ⟨old, hold, Attribute.value?_eq_some_iff.2 hid, hsame.symm⟩
        · exact .inl (Attribute.value?_eq_some_iff.2 hvalue)
      exact ⟨rfl, .put (w.overwrite old), ⟨htarget, htouches⟩,
        Edit.makes_replace hold hpatched.id hnext, Edit.makes_replace hold₀ hpatched.id hnext₀⟩

theorem update_alike (hsteady : b.Steady l.Sound) (hs : l.Sound s) (hs₀ : l.Sound s₀)
    {patch : Company}
    (hsees : (Operation.update patch).SeesAlike (b.companyRows s) (b.companyRows s₀)) :
    (b.companies.update patch s).1 = (b.companies.update patch s₀).1 ∧
      b.SameEdit (.update patch) s s₀ (b.companies.update patch s).2
        (b.companies.update patch s₀).2 := by
  have htarget {r : CompanyRow} (hid : patch.id = .value r.id) :
      r ∈ b.companyRows s ↔ r ∈ b.companyRows s₀ :=
    hsees r (.inl (Attribute.value?_eq_some_iff.2 hid))
  cases hpatch : CompanyWrite.ofPatch patch with
  | error fault =>
    have hfound : ∀ id, patch.id = .value id →
        ((∃ r ∈ b.companyRows s, r.id = id) ↔ ∃ r ∈ b.companyRows s₀, r.id = id) := by
      intro id hid
      constructor
      · rintro ⟨r, hr, rfl⟩
        exact ⟨r, (htarget hid).1 hr, rfl⟩
      · rintro ⟨r, hr, rfl⟩
        exact ⟨r, (htarget hid).2 hr, rfl⟩
    have hkept : (b.companies.update patch s₀).2 = s₀ :=
      congrArg Prod.snd (hsteady hs₀ hs₀ hpatch fun _ _ => Iff.rfl)
    rw [hsteady hs hs₀ hpatch hfound, hkept]
    exact ⟨rfl, .refl b _ s s₀⟩
  | ok target =>
    obtain ⟨id, w⟩ := target
    have hid : patch.id = .value id := (CompanyWrite.ofPatch_eq_ok_iff.1 hpatch).1
    rcases (l.updateCompany hs patch).missing_or_found hpatch with
      ⟨hout, hnone⟩ | ⟨old, hold, rfl, hout⟩
    · rcases (l.updateCompany hs₀ patch).missing_or_found hpatch with
        ⟨hout₀, _⟩ | ⟨old₀, hold₀, rfl, _⟩
      · rw [hout, hout₀]
        exact ⟨rfl, .refl b _ s s₀⟩
      · exact absurd rfl (hnone old₀ ((htarget hid).2 hold₀))
    · have hold₀ := (htarget hid).1 hold
      rcases (l.updateCompany hs₀ patch).missing_or_found hpatch with
        ⟨_, hnone⟩ | ⟨old₀, hmem₀, hkey, hout₀⟩
      · exact absurd rfl (hnone old hold₀)
      · obtain rfl := (l.companies hs₀).eq_of_key hmem₀ hold₀ hkey
        exact l.overwriting_alike hs hs₀ hsees hpatch hold hold₀ hout hout₀

theorem delete_alike (hs : l.Sound s) (hs₀ : l.Sound s₀) {id : Uuid}
    (hsees : (Operation.delete id).SeesAlike (b.companyRows s) (b.companyRows s₀)) :
    (b.companies.delete id s).1 = (b.companies.delete id s₀).1 ∧
      b.SameEdit (.delete id) s s₀ (b.companies.delete id s).2 (b.companies.delete id s₀).2 := by
  have hlaw := l.deleteCompany hs id
  have hlaw₀ := l.deleteCompany hs₀ id
  generalize b.companies.delete id s = out at hlaw
  generalize b.companies.delete id s₀ = out₀ at hlaw₀
  cases hlaw with
  | missing hnone =>
    cases hlaw₀ with
    | missing _ => exact ⟨rfl, .refl b _ s s₀⟩
    | @removed old _ hold hid _ =>
      exact absurd hid (hnone old ((hsees old (.inl (hid ▸ rfl))).2 hold))
  | @removed old _ hold hid hnext =>
    cases hlaw₀ with
    | missing hnone => exact absurd hid (hnone old ((hsees old (.inl (hid ▸ rfl))).1 hold))
    | removed _ _ hnext₀ =>
      exact ⟨rfl, .drop id, rfl, Edit.makes_filter hnext, Edit.makes_filter hnext₀⟩

/-- States that agree on the rows that an operation looks at answer it alike and make the same
change. -/
theorem perform_alike (hsteady : b.Steady l.Sound) (hs : l.Sound s) (hs₀ : l.Sound s₀)
    {op : Operation} (hsees : op.SeesAlike (b.companyRows s) (b.companyRows s₀)) :
    (b.companies.perform s op).1 = (b.companies.perform s₀ op).1 ∧
      b.SameEdit op s s₀ (b.companies.perform s op).2 (b.companies.perform s₀ op).2 := by
  cases op with
  | create fresh c =>
    obtain ⟨hanswer, hedit⟩ := l.create_alike hs hs₀ hsees
    exact ⟨congrArg (Except.map some) hanswer, hedit⟩
  | byId id =>
    have hanswer : b.companies.byId id s = b.companies.byId id s₀ := by
      rw [l.companyById hs, l.companyById hs₀]
      apply congrArg
      exact find?_eq_of_mem_iff (l.companies hs₀).keys (l.companies hs).keys
        fun r hr => hsees r (.inl (congrArg some hr.symm))
    exact ⟨congrArg (Except.map some) hanswer, .refl b _ s s₀⟩
  | byName name =>
    have hanswer : b.companies.byName name s = b.companies.byName name s₀ := by
      rw [l.companyByName hs, l.companyByName hs₀]
      apply congrArg
      exact find?_eq_of_mem_iff (l.companies hs₀).names (l.companies hs).names
        fun r hr => hsees r (.inr (congrArg some hr.symm))
    exact ⟨congrArg (Except.map some) hanswer, .refl b _ s s₀⟩
  | update patch =>
    obtain ⟨hanswer, hedit⟩ := l.update_alike hsteady hs hs₀ hsees
    exact ⟨congrArg (Except.map some) hanswer, hedit⟩
  | delete id =>
    obtain ⟨hanswer, hedit⟩ := l.delete_alike hs hs₀ hsees
    exact ⟨congrArg (Except.map fun _ => none) hanswer, hedit⟩

theorem sound_perform (hs : l.Sound s) (op : Operation) :
    l.Sound (b.companies.perform s op).2 := by
  cases op with
  | create fresh c =>
    have hlaw := l.createCompany hs fresh c
    rw [CompanyRepository.perform]
    generalize b.companies.create fresh c s = out at hlaw
    cases hlaw with
    | stored _ _ hnext => exact hnext.sound
    | _ => exact hs
  | byId id => exact hs
  | byName name => exact hs
  | update patch =>
    have hlaw := l.updateCompany hs patch
    rw [CompanyRepository.perform]
    generalize b.companies.update patch s = out at hlaw
    cases hlaw with
    | written _ _ _ hnext => exact hnext.sound
    | _ => exact hs
  | delete id =>
    have hlaw := l.deleteCompany hs id
    rw [CompanyRepository.perform]
    generalize b.companies.delete id s = out at hlaw
    cases hlaw with
    | missing _ => exact hs
    | removed _ _ hnext => exact hnext.sound

theorem userRows_perform (hs : l.Sound s) (op : Operation) :
    b.userRows (b.companies.perform s op).2 = b.userRows s := by
  cases op with
  | create fresh c => exact (l.createCompany hs fresh c).kept_eq
  | byId id => rfl
  | byName name => rfl
  | update patch => exact (l.updateCompany hs patch).kept_eq
  | delete id => exact (l.deleteCompany hs id).kept_eq

section Rows

variable (hsteady : b.Steady l.Sound) {op : Operation} {r : CompanyRow}

include hsteady

theorem mem_perform_of_ne (hs : l.Sound s) (hr : op.target? ≠ some r.id) :
    r ∈ b.companyRows (b.companies.perform s op).2 ↔ r ∈ b.companyRows s := by
  obtain ⟨_, edit, hwithin, hmakes, _⟩ := l.perform_alike hsteady hs hs (.refl op _)
  exact hmakes.mem_iff_of_ne hwithin hr

theorem touches_of_mem_perform (hs : l.Sound s)
    (hr : r ∈ b.companyRows (b.companies.perform s op).2) (htarget : op.target? = some r.id) :
    op.Touches (b.companyRows s) r.name := by
  obtain ⟨_, edit, hwithin, hmakes, _⟩ := l.perform_alike hsteady hs hs (.refl op _)
  exact hmakes.touches hwithin hr htarget

/-- What the operation makes of its target shows in the rows that it looks at. -/
theorem mem_perform_iff (hs : l.Sound s) (hs₀ : l.Sound s₀)
    (hsees : op.SeesAlike (b.companyRows s) (b.companyRows s₀)) (htarget : op.target? = some r.id) :
    r ∈ b.companyRows (b.companies.perform s op).2 ↔
      r ∈ b.companyRows (b.companies.perform s₀ op).2 := by
  obtain ⟨_, edit, _, hmakes, hmakes₀⟩ := l.perform_alike hsteady hs hs₀ hsees
  exact hmakes.target_iff hmakes₀ hsees htarget

end Rows
end Backend.Laws

end TradeRegister.Store

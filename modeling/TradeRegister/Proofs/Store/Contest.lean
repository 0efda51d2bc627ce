import TradeRegister.Proofs.Store.Arena
import TradeRegister.Proofs.Store.Locality

/-! # Contests for a name

Both tables of both stores are arenas. Among callers who create companies of one name that nobody
has, in any order and with any operations on other companies in between, exactly one succeeds; what
remains of the contest is its row beside what the operations in between would have left alone. The
same holds of accounts.
-/

namespace TradeRegister.Store

variable {σ : Type}

/-- A new record neither brings nor is assigned this identifier, and has another name. -/
structure SparedByNew (givenId : Attribute Uuid) (fresh : Uuid) (givenName : Attribute String)
    (id : Uuid) (name : String) : Prop where
  otherName : givenName ≠ .value name
  otherId : givenId ≠ .value id
  otherFresh : givenId = .unset → fresh ≠ id

theorem SparedByNew.ne {givenId : Attribute Uuid} {fresh : Uuid} {givenName : Attribute String}
    {id newId : Uuid} {name newName : String} (h : SparedByNew givenId fresh givenName id name)
    (hid : givenId = .value newId ∨ givenId = .unset ∧ newId = fresh)
    (hname : givenName = .value newName) : newId ≠ id ∧ newName ≠ name := by
  constructor
  · rintro rfl
    rcases hid with hgiven | ⟨hunset, rfl⟩
    · exact h.otherId hgiven
    · exact h.otherFresh hunset rfl
  · rintro rfl
    exact h.otherName hname

/-! ## Companies -/

/-- The operation has nothing to do with a company of this identifier or this name. -/
def Operation.Spares (op : Operation) (id : Uuid) (name : String) : Prop :=
  match op with
  | .create fresh c => SparedByNew c.id fresh c.name id name
  | .byId target => target ≠ id
  | .byName n => n ≠ name
  | .update patch => patch.id ≠ .value id ∧ patch.name ≠ .value name
  | .delete target => target ≠ id

/-- A contender comes with an identifier to assign. -/
def Backend.companyArena (b : Backend σ) :
    Arena σ CompanyRow UserRow Company (Uuid × Company) Operation (Except Fault (Option Company)) where
  entity := .company
  rows := b.companyRows
  kept := b.userRows
  create := fun k => b.companies.create k.1 k.2
  Records := fun k row => row.Records k.2 k.1
  perform := b.companies.perform
  Spares := Operation.Spares

namespace Operation.Spares

variable {op : Operation} {id : Uuid} {name : String}

theorem target?_ne (h : op.Spares id name) : op.target? ≠ some id := by
  cases op with
  | create fresh c =>
    intro htarget
    rcases target?_create_eq_some_iff.1 htarget with hgiven | ⟨hunset, hfresh⟩
    · exact h.otherId hgiven
    · exact h.otherFresh hunset hfresh.symm
  | byId target => exact fun htarget => h (Option.some.inj htarget)
  | byName n => rintro ⟨⟩
  | update patch => exact fun htarget => h.1 (Attribute.value?_eq_some_iff.1 htarget)
  | delete target => exact fun htarget => h (Option.some.inj htarget)

theorem name?_ne (h : op.Spares id name) : op.name? ≠ some name := by
  cases op with
  | create fresh c => exact fun hname => h.otherName (Attribute.value?_eq_some_iff.1 hname)
  | byId target => rintro ⟨⟩
  | byName n => exact fun hname => h (Option.some.inj hname)
  | update patch => exact fun hname => h.2 (Attribute.value?_eq_some_iff.1 hname)
  | delete target => rintro ⟨⟩

end Operation.Spares

namespace Backend.Laws

variable {b : Backend σ} (l : b.Laws) {s s₀ : σ} {row : CompanyRow}

theorem free_company (hsteady : b.Steady l.Sound) (hs : l.Sound s) {op : Operation} {id : Uuid}
    {name : String} (hspares : op.Spares id name)
    (hfree : ∀ r ∈ b.companyRows s, r.id ≠ id ∧ r.name ≠ name) :
    ∀ r ∈ b.companyRows (b.companies.perform s op).2, r.id ≠ id ∧ r.name ≠ name := by
  intro r hr
  by_cases htarget : op.target? = some r.id
  · constructor
    · exact fun hid => hspares.target?_ne (hid ▸ htarget)
    · rintro rfl
      rcases l.touches_of_mem_perform hsteady hs hr htarget with hname | ⟨old, hold, _, hname⟩
      · exact hspares.name?_ne hname
      · exact (hfree old hold).2 hname
  · exact hfree r ((l.mem_perform_of_ne hsteady hs htarget).1 hr)

/-- The row that stands aside is one that the operation does not look at. -/
theorem beside_company (hsteady : b.Steady l.Sound)
    (h : b.companyArena.Beside l.Sound row s s₀) {op : Operation}
    (hspares : op.Spares row.id row.name) :
    (b.companies.perform s op).1 = (b.companies.perform s₀ op).1 ∧
      b.companyArena.Beside l.Sound row (b.companies.perform s op).2
        (b.companies.perform s₀ op).2 := by
  have hmem {r : CompanyRow} : r ∈ b.companyRows s ↔ r = row ∨ r ∈ b.companyRows s₀ := h.mem_iff
  have hsees : op.SeesAlike (b.companyRows s) (b.companyRows s₀) := by
    intro r hconcerns
    have hother : r ≠ row := by
      rintro rfl
      exact hconcerns.elim hspares.target?_ne hspares.name?_ne
    rw [hmem, or_iff_right hother]
  refine ⟨(l.perform_alike hsteady h.sound h.sound₀ hsees).1, l.sound_perform h.sound op,
    l.sound_perform h.sound₀ op, ?_, ?_⟩
  · have hrow : row ∉ b.companyRows (b.companies.perform s₀ op).2 := by
      rw [l.mem_perform_of_ne hsteady h.sound₀ hspares.target?_ne]
      exact (List.nodup_cons.1 (h.rows.nodup_iff.1 (l.companies h.sound).nodup)).1
    have hnodup := (l.companies (l.sound_perform h.sound op)).nodup
    have hnodup₀ := (l.companies (l.sound_perform h.sound₀ op)).nodup
    apply (List.perm_ext_iff_of_nodup hnodup (List.nodup_cons.2 ⟨hrow, hnodup₀⟩)).2
    intro r
    rw [List.mem_cons]
    by_cases htarget : op.target? = some r.id
    · have hother : r ≠ row := by
        rintro rfl
        exact hspares.target?_ne htarget
      rw [or_iff_right hother]
      exact l.mem_perform_iff hsteady h.sound h.sound₀ hsees htarget
    · rw [l.mem_perform_of_ne hsteady h.sound htarget,
        l.mem_perform_of_ne hsteady h.sound₀ htarget, hmem]
  · exact (l.userRows_perform h.sound op).trans
      (h.kept.trans (l.userRows_perform h.sound₀ op).symm)

theorem lawful_companyArena (hsteady : b.Steady l.Sound) : b.companyArena.Lawful l.Sound where
  created := by
    intro s k row hs hrecords
    have hlaw := l.createCompany hs k.1 k.2
    rwa [CompanyRow.ofNew_eq_ok_iff.2 hrecords] at hlaw
  readable := by
    intro k row hrecords
    obtain ⟨kind, hread⟩ := CompanyRow.Records.read_eq hrecords
    exact ⟨_, hread⟩
  sound := l.sound_perform
  free := fun hs hspares hfree => l.free_company hsteady hs hspares hfree
  beside := fun h hspares => l.beside_company hsteady h hspares

end Backend.Laws

/-! ## Accounts -/

inductive UserOperation
  | create (fresh : Uuid) (u : User)
  | byId (id : Uuid)
  | byUsername (username : String)

def UserRepository.perform (repo : UserRepository σ) (s : σ) :
    UserOperation → Except Fault User × σ
  | .create fresh u => repo.create fresh u s
  | .byId id => (repo.byId id s, s)
  | .byUsername username => (repo.byUsername username s, s)

/-- The operation has nothing to do with an account of this identifier or this name. -/
def UserOperation.Spares (op : UserOperation) (id : Uuid) (username : String) : Prop :=
  match op with
  | .create fresh u => SparedByNew u.id fresh u.username id username
  | .byId target => target ≠ id
  | .byUsername n => n ≠ username

def Backend.userArena (b : Backend σ) :
    Arena σ UserRow CompanyRow User (Uuid × User) UserOperation (Except Fault User) where
  entity := .user
  rows := b.userRows
  kept := b.companyRows
  create := fun k => b.users.create k.1 k.2
  Records := fun k row => row.Records k.2 k.1
  perform := b.users.perform
  Spares := UserOperation.Spares

namespace Backend.Laws

variable {b : Backend σ} (l : b.Laws)

theorem beside_user {s s₀ : σ} {row : UserRow} (h : b.userArena.Beside l.Sound row s s₀)
    {op : UserOperation} (hspares : op.Spares row.id row.username) :
    (b.users.perform s op).1 = (b.users.perform s₀ op).1 ∧
      b.userArena.Beside l.Sound row (b.users.perform s op).2 (b.users.perform s₀ op).2 := by
  cases op with
  | create fresh u =>
    refine h.creation ?_ (l.createUser h.sound fresh u) (l.createUser h.sound₀ fresh u)
    intro new hnew
    have hrecords := UserRow.ofNew_eq_ok_iff.1 hnew
    obtain ⟨hid, hname⟩ := hspares.ne hrecords.id hrecords.username
    exact ⟨hid.symm, hname.symm⟩
  | byId id =>
    refine ⟨?_, h⟩
    change b.users.byId id s = b.users.byId id s₀
    rw [l.userById h.sound, l.userById h.sound₀]
    exact congrArg _ (h.find?_eq (l.users h.sound).keys (Ne.symm hspares))
  | byUsername username =>
    refine ⟨?_, h⟩
    change b.users.byUsername username s = b.users.byUsername username s₀
    rw [l.userByUsername h.sound, l.userByUsername h.sound₀]
    exact congrArg _ (h.find?_eq (l.users h.sound).names (Ne.symm hspares))

theorem lawful_userArena : b.userArena.Lawful l.Sound where
  created := by
    intro s k row hs hrecords
    have hlaw := l.createUser hs k.1 k.2
    rwa [UserRow.ofNew_eq_ok_iff.2 hrecords] at hlaw
  readable := fun {_ row} _ => ⟨row.read, rfl⟩
  sound := by
    intro s hs op
    cases op with
    | create fresh u => exact Arena.sound_creation (a := b.userArena) hs (l.createUser hs fresh u)
    | byId id => exact hs
    | byUsername username => exact hs
  free := by
    intro s op id username hs hspares hfree
    cases op with
    | create fresh u =>
      refine Arena.free_creation hfree ?_ (l.createUser hs fresh u)
      intro new hnew
      have hrecords := UserRow.ofNew_eq_ok_iff.1 hnew
      exact SparedByNew.ne hspares hrecords.id hrecords.username
    | byId target => exact hfree
    | byUsername n => exact hfree
  beside := fun h hspares => l.beside_user h hspares

end Backend.Laws

/-! ## Both stores -/

/-- Whatever was asked of a store before, every contest for the name of a company and every contest
for the name of an account has exactly one winner. -/
theorem oneWinner_after (changes : List Change) :
    (Backend.memory.companyArena.OneWinner (Backend.memory.after changes) ∧
      Backend.memory.userArena.OneWinner (Backend.memory.after changes)) ∧
    (Backend.database.companyArena.OneWinner (Backend.database.after changes) ∧
      Backend.database.userArena.OneWinner (Backend.database.after changes)) := by
  have hmemory := (Memory.laws.intact_after changes).sound
  have hdatabase := (Database.laws.intact_after changes).sound
  exact ⟨⟨(Memory.laws.lawful_companyArena Memory.steady).oneWinner hmemory,
      Memory.laws.lawful_userArena.oneWinner hmemory⟩,
    (Database.laws.lawful_companyArena Database.steady).oneWinner hdatabase,
      Database.laws.lawful_userArena.oneWinner hdatabase⟩

def plainCompany (name : String) : Company where
  name := .value name
  employeeCount := .value 5
  registered := .value true
  kind := .value .nonProfit
  createdBy := .value (.ofNat 19)

/-- Two callers ask for the name Acme; before and between them, another company is created and
renamed. -/
def twoForAcme : List (Move (Uuid × Company) Operation) :=
  [.other (.create (.ofNat 17) (plainCompany "Beta")),
    .contend (.ofNat 18, plainCompany "Acme"),
    .other (.update { id := .value (.ofNat 17), name := .value "Gamma" }),
    .contend (.ofNat 20, plainCompany "Acme")]

theorem mayWin_twoForAcme {fresh : Uuid} (hfresh : fresh ≠ .ofNat 17) :
    Backend.database.companyArena.MayWin (Backend.database.after []) "Acme" twoForAcme
      (fresh, plainCompany "Acme")
      ⟨fresh, "Acme", none, 5, true, "NonProfit", .ofNat 19, none⟩ where
  records :=
    ⟨.inr ⟨rfl, rfl⟩, rfl, rfl, rfl, rfl, ⟨.nonProfit, rfl, rfl⟩, rfl, by simp [plainCompany], rfl⟩
  hasName := rfl
  free := fun _ hr => absurd hr List.not_mem_nil
  spared := by
    intro op hop
    simp only [twoForAcme, List.mem_cons, Move.other.injEq, reduceCtorEq, List.not_mem_nil, or_false,
      false_or] at hop
    rcases hop with rfl | rfl
    · exact ⟨by simp [plainCompany], by simp [plainCompany], fun _ => hfresh.symm⟩
    · exact ⟨fun hid => hfresh (Attribute.value.inj hid).symm, by simp⟩

theorem isContest_twoForAcme :
    Backend.database.companyArena.IsContest (Backend.database.after []) "Acme" twoForAcme := by
  intro k hk
  simp only [twoForAcme, List.mem_cons, Move.contend.injEq, reduceCtorEq, List.not_mem_nil, or_false,
    false_or] at hk
  rcases hk with rfl | rfl
  · exact ⟨_, mayWin_twoForAcme (by decide)⟩
  · exact ⟨_, mayWin_twoForAcme (by decide)⟩

theorem oneWinner_after_twoForAcme :
    Backend.database.companyArena.IsContest (Backend.database.after []) "Acme" twoForAcme ∧
      ∃ row, Backend.database.companyArena.EndsWith (Backend.database.after []) twoForAcme row 1 := by
  obtain ⟨row, -, hend⟩ := (oneWinner_after []).2.1 "Acme" _ isContest_twoForAcme _ _ rfl
  exact ⟨isContest_twoForAcme, row, hend⟩

example : (Backend.memory.companyArena.play twoForAcme Backend.memory.start).answers.map Except.isOk =
    [true, false] := by decide +kernel

end TradeRegister.Store

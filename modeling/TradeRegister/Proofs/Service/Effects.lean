import TradeRegister.Proofs.Service.Outcomes
import TradeRegister.Proofs.Service.Run

/-! # What a step does to the rows

A question and a refusal leave the tables as they are. Every other request changes exactly one row,
and one relation says which; whatever holds of all reached states follows from it.
-/

namespace TradeRegister

variable {σ : Type}

/-- The services over a store. -/
def Store.Backend.services (b : Store.Backend σ) (authority : Token.Authority)
    (limits : Service.Limits) : Service.Services σ :=
  ⟨b.companies, b.users, authority, limits⟩

namespace Service

open Store (Backend Becomes CompanyRow Patched UserRow)
open Token (Authority)

/-- A request that nothing changes by. -/
def Request.IsQuestion : Request → Prop
  | .companyById _ => True
  | .companyByName _ => True
  | .login _ _ => True
  | .authenticate _ => True
  | .userById _ => True
  | _ => False

variable {b : Backend σ}

/-- Everything that a request may lead to. -/
inductive Effect (l : b.Laws) (authority : Authority) (limits : Limits) (supply : Supply) (s : σ) :
    Request → Outcome σ Response → Prop
  | asked {r : Request} {result : Except Fault Response} (hquestion : r.IsQuestion) :
    Effect l authority limits supply s r (.answer result s)
  | refused {r : Request} {fault : Fault} :
    Effect l authority limits supply s r (.refused fault s)
  | created {c : Company} {row : CompanyRow} {kind : CompanyKind} {s' : σ}
    (hrow : row.Records c supply.id) (hkind : row.kind = kind.name)
    (hfree : ∀ r ∈ b.companyRows s, r.id ≠ row.id ∧ r.name ≠ row.name)
    (hnext : Becomes l.Sound b.companyRows b.userRows s s' (row :: b.companyRows s)) :
    Effect l authority limits supply s (.createCompany c)
      ⟨.ok (.company (row.company kind)), s', [.of .create row.id]⟩
  | updated {patch : Company} {old next : CompanyRow} {kind : CompanyKind} {s' : σ}
    (hpasses : limits.Passes patch old.id) (hold : old ∈ b.companyRows s)
    (hpatched : Patched patch old next) (hkind : next.kind = kind.name)
    (hnext : Becomes l.Sound b.companyRows b.userRows s s'
      ((b.companyRows s).map fun r => if r.id = old.id then next else r)) :
    Effect l authority limits supply s (.updateCompany patch)
      ⟨.ok (.company (next.company kind)), s', [.of .update old.id]⟩
  | deleted {row : CompanyRow} {s' : σ} (hrow : row ∈ b.companyRows s)
    (hnext : Becomes l.Sound b.companyRows b.userRows s s'
      ((b.companyRows s).filter fun r => r.id != row.id)) :
    Effect l authority limits supply s (.deleteCompany row.id)
      ⟨.ok .deleted, s', [.of .delete row.id]⟩
  | registered {username password hash : String} {s' : σ}
    (haccount : accountFor supply.salt username password = .ok (.unregistered username hash))
    (hfree : ∀ r ∈ b.userRows s, r.id ≠ supply.id ∧ r.username ≠ username)
    (hnext : Becomes l.Sound b.userRows b.companyRows s s'
      (⟨supply.id, username, hash⟩ :: b.userRows s)) :
    Effect l authority limits supply s (.register username password)
      ⟨.ok (.session (sessionFor authority supply.now supply.id)), s', [.of .signup supply.id]⟩

variable {l : b.Laws} {authority : Authority} {limits : Limits} {supply : Supply} {s : σ}

theorem answer_createCompany (c : Company) :
    (b.services authority limits).answer supply s (.createCompany c) =
      (createCompany b.companies limits supply.id c s).map .company := rfl

theorem answer_companyById (id : Uuid) :
    (b.services authority limits).answer supply s (.companyById id) =
      .answer ((b.companies.byId id s).map .company) s := rfl

theorem answer_companyByName (name : String) :
    (b.services authority limits).answer supply s (.companyByName name) =
      .answer ((b.companies.byName name s).map .company) s := rfl

theorem answer_updateCompany (patch : Company) :
    (b.services authority limits).answer supply s (.updateCompany patch) =
      (updateCompany b.companies limits patch s).map .company := rfl

theorem answer_deleteCompany (id : Uuid) :
    (b.services authority limits).answer supply s (.deleteCompany id) =
      (deleteCompany b.companies id s).map fun _ => .deleted := rfl

theorem answer_register (username password : String) :
    (b.services authority limits).answer supply s (.register username password) =
      (register b.users authority supply.now supply.salt supply.id username password s).map
        .session := rfl

theorem answer_login (username password : String) :
    (b.services authority limits).answer supply s (.login username password) =
      .answer ((login b.users authority supply.now username password s).map .session) s := rfl

theorem answer_authenticate (token : String) :
    (b.services authority limits).answer supply s (.authenticate token) =
      .answer ((authenticate authority supply.now token).map .identity) s := rfl

theorem answer_effect (h : l.Intact s) (authority : Authority) (limits : Limits) (supply : Supply)
    (r : Request) :
    Effect l authority limits supply s r ((b.services authority limits).answer supply s r) := by
  cases r with
  | createCompany c =>
    have hout := createCompany_outcome h limits supply.id c
    rw [answer_createCompany]
    generalize createCompany b.companies limits supply.id c s = o at hout
    cases hout with
    | invalid _ => exact .refused
    | taken _ _ _ _ => exact .refused
    | stored _ hrow hkind hfree hnext => exact .created hrow hkind hfree hnext
  | updateCompany patch =>
    have hout := updateCompany_outcome h limits patch
    rw [answer_updateCompany]
    generalize updateCompany b.companies limits patch s = o at hout
    cases hout with
    | invalid _ => exact .refused
    | missing _ _ => exact .refused
    | taken _ _ _ _ _ => exact .refused
    | written hpasses hold hpatched hkind _ hnext =>
      exact .updated hpasses hold hpatched hkind hnext
  | deleteCompany id =>
    have hout := deleteCompany_outcome h id
    rw [answer_deleteCompany]
    generalize deleteCompany b.companies id s = o at hout
    cases hout with
    | missing _ => exact .refused
    | removed hrow hid hnext =>
      obtain rfl := hid
      exact .deleted hrow hnext
  | register username password =>
    have hout := register_outcome h authority supply.now supply.salt supply.id username password
    rw [answer_register]
    generalize register b.users authority supply.now supply.salt supply.id username password s = o
      at hout
    cases hout with
    | invalid _ => exact .refused
    | taken _ _ _ => exact .refused
    | stored haccount hfree hnext => exact .registered haccount hfree hnext
  | companyById id => exact .asked trivial
  | companyByName name => exact .asked trivial
  | login username password => exact .asked trivial
  | authenticate token => exact .asked trivial
  | userById id => exact .asked trivial

namespace Effect

variable {r : Request} {o : Outcome σ Response}

/-- A request that fails changes nothing and announces nothing. -/
theorem unchanged (h : Effect l authority limits supply s r o) {fault : Fault}
    (hfault : o.result = .error fault) : o = .refused fault s := by
  cases h with
  | asked _ =>
    obtain rfl := hfault
    rfl
  | refused =>
    obtain rfl := Except.error.inj hfault
    rfl
  | _ => cases hfault

theorem intact (h : Effect l authority limits supply s r o) (hs : l.Intact s) :
    l.Intact o.state := by
  cases h with
  | asked _ => exact hs
  | refused => exact hs
  | created hrow _ _ hnext => exact .becomes (hs.known.cons hrow) hnext
  | updated _ _ _ hkind hnext => exact .becomes (hs.known.replace ⟨_, hkind⟩) hnext
  | deleted _ hnext => exact .becomes (hs.known.filter _) hnext
  | registered _ _ hnext => exact ⟨hnext.sound, hnext.kept ▸ hs.known⟩

/-- Accounts enter by registration only, and stay. -/
theorem userRows_eq (h : Effect l authority limits supply s r o)
    (hr : ∀ username password, r ≠ .register username password) :
    b.userRows o.state = b.userRows s := by
  cases h with
  | asked _ => rfl
  | refused => rfl
  | created _ _ _ hnext => exact hnext.kept
  | updated _ _ _ _ hnext => exact hnext.kept
  | deleted _ hnext => exact hnext.kept
  | registered _ _ _ => exact absurd rfl (hr _ _)

end Effect

/-! ## Runs -/

/-- The scene after all steps. -/
def Services.run (d : Services σ) (steps : List Step) (x : Scene σ) : Scene σ :=
  steps.foldl (fun x s => (d.step x s).2) x

/-- A request that only looks, or is refused, leaves the scene as it is. -/
theorem Services.step_of_answer {d : Services σ} {x : Scene σ} {r : Request} {id : Uuid} {salt : Bytes}
    {result : Except Fault Response}
    (h : d.answer ⟨x.now, id, salt⟩ x.store r = .answer result x.store) :
    d.step x (.request r id salt) = (.response result [], x) := by
  rw [step, h]
  rfl

theorem Services.sight_step_request (d : Services σ) (x : Scene σ) (r : Request) (id : Uuid)
    (salt : Bytes) : (d.step x (.request r id salt)).1 =
      .response (d.answer ⟨x.now, id, salt⟩ x.store r).result
        (d.answer ⟨x.now, id, salt⟩ x.store r).announced := rfl

theorem Services.store_step_request (d : Services σ) (x : Scene σ) (r : Request) (id : Uuid)
    (salt : Bytes) : (d.step x (.request r id salt)).2.store =
      (d.answer ⟨x.now, id, salt⟩ x.store r).state := rfl

theorem Services.run_append (d : Services σ) (steps steps' : List Step) (x : Scene σ) :
    d.run (steps ++ steps') x = d.run steps' (d.run steps x) := List.foldl_append

theorem intact_step {x : Scene σ} (h : l.Intact x.store) (authority : Authority) (limits : Limits)
    (s : Step) : l.Intact ((b.services authority limits).step x s).2.store := by
  cases s with
  | request r id salt => exact (answer_effect h authority limits ⟨x.now, id, salt⟩ r).intact h
  | seed u id => exact h.createUser id u
  | setClock t => exact h
  | advanceClock seconds nanos => exact h

theorem intact_run {x : Scene σ} (h : l.Intact x.store) (authority : Authority) (limits : Limits)
    (steps : List Step) : l.Intact ((b.services authority limits).run steps x).store := by
  induction steps generalizing x with
  | nil => exact h
  | cons s steps ih => exact ih (intact_step h authority limits s)

/-! ## Where rows come from -/

/-- Where a company in the next scene comes from. -/
inductive Stems (rows : List CompanyRow) (row : CompanyRow) : Step → Sight → Prop
  | kept {s : Step} {sight : Sight} (hrow : row ∈ rows) : Stems rows row s sight
  | created {c : Company} {fresh : Uuid} {salt : Bytes} {kind : CompanyKind}
    {announced : List Delivery.Mutation} (hrow : row.Records c fresh) :
    Stems rows row (.request (.createCompany c) fresh salt)
      (.response (.ok (.company (row.company kind))) announced)
  | patched {patch : Company} {old : CompanyRow} {fresh : Uuid} {salt : Bytes} {kind : CompanyKind}
    {announced : List Delivery.Mutation} (hold : old ∈ rows) (hpatched : Patched patch old row) :
    Stems rows row (.request (.updateCompany patch) fresh salt)
      (.response (.ok (.company (row.company kind))) announced)

theorem stems_step {x : Scene σ} (h : l.Intact x.store) (authority : Authority) (limits : Limits)
    (s : Step) {row : CompanyRow}
    (hrow : row ∈ b.companyRows ((b.services authority limits).step x s).2.store) :
    Stems (b.companyRows x.store) row s ((b.services authority limits).step x s).1 := by
  cases s with
  | request r id salt =>
    have heffect := answer_effect h authority limits ⟨x.now, id, salt⟩ r
    unfold Services.step at hrow ⊢
    dsimp only at hrow ⊢
    generalize (b.services authority limits).answer ⟨x.now, id, salt⟩ x.store r = o at heffect hrow ⊢
    cases heffect with
    | asked _ => exact .kept hrow
    | refused => exact .kept hrow
    | created hnew _ _ hnext =>
      rcases List.mem_cons.1 (hnext.rows.mem_iff.1 hrow) with rfl | hkept
      · exact .created hnew
      · exact .kept hkept
    | updated _ hold hpatched _ hnext =>
      obtain ⟨r, hr, rfl⟩ := List.mem_map.1 (hnext.rows.mem_iff.1 hrow)
      split
      · exact .patched hold hpatched
      · exact .kept hr
    | deleted _ hnext => exact .kept (List.mem_of_mem_filter (hnext.rows.mem_iff.1 hrow))
    | registered _ _ hnext => exact .kept (hnext.kept ▸ hrow)
  | seed u id => exact .kept (l.companyRows_createUser h.sound id u ▸ hrow)
  | setClock t => exact .kept hrow
  | advanceClock seconds nanos => exact .kept hrow

end Service
end TradeRegister

import TradeRegister.Delivery.Dispatcher
import TradeRegister.Proofs.Service.Alike

/-! # Runs of the services

A run is a sequence of requests, of accounts put into the store directly, and of moves of the clock.
Over a store in memory and over a database that start without rows, a run shows the same results
and dispatches the same mutations step by step, and after each step both hold the same rows.
-/

namespace TradeRegister.Service

open Store (Agree Database Memory)
open Delivery (Dispatcher Mutation)
open Token (Authority)

variable {σ : Type}

inductive Step
  /-- With the identifier and the salt that it may use. -/
  | request (r : Request) (id : Uuid) (salt : Bytes)
  | seed (u : User) (id : Uuid)
  | setClock (t : Instant)
  /-- Forward, or backward by negative amounts. -/
  | advanceClock (seconds nanos : Int)

structure Scene (σ : Type) where
  store : σ
  now : Instant
  dispatcher : Dispatcher

/-- What a step shows. A clock that would leave its range shows nothing and stays. -/
inductive Sight
  | response (result : Except Fault Response) (announced : List Mutation)
  | seeded (result : Except Fault User)
  | clock (t : Option Instant)

/-- No fault is shown that keeps back what a storage engine said. -/
def Sight.IsTold : Sight → Prop
  | .response result _ => Refuses Fault.IsTold result
  | .seeded result => Refuses Fault.IsTold result
  | .clock _ => True

namespace Services

def step (d : Services σ) (x : Scene σ) : Step → Sight × Scene σ
  | .request r id salt =>
    let o := d.answer ⟨x.now, id, salt⟩ x.store r
    (.response o.result o.announced,
      { x with store := o.state, dispatcher := x.dispatcher.dispatchAll o.announced })
  | .seed u id =>
    let (result, store) := d.users.create id u x.store
    (.seeded result, { x with store })
  | .setClock t => (.clock (some t), { x with now := t })
  | .advanceClock seconds nanos =>
    let t := x.now.advance? seconds nanos
    (.clock t, { x with now := t.getD x.now })

def trace (d : Services σ) : List Step → Scene σ → List (Sight × Scene σ)
  | [], _ => []
  | s :: steps, x =>
    let y := d.step x s
    y :: d.trace steps y.2

end Services

/-- An open database whose tables hold the rows in memory, each under the same key. -/
structure SameRows (m : Memory) (d : Database) : Prop where
  companies : ∃ rows, d.companyRows = .ok rows ∧
    m.companies.entries.Perm (rows.map fun r => (r.id, r))
  users : ∃ rows, d.userRows = .ok rows ∧ m.users.entries.Perm (rows.map fun r => (r.id, r))

theorem sameRows_of_agree {m : Memory} {d : Database} (h : Agree m d) : SameRows m d := by
  obtain ⟨companies, hcompanies, _, hc⟩ := h.companyRows
  obtain ⟨users, husers, _, hu⟩ := h.userRows
  exact ⟨⟨companies, hcompanies, hc.entries_perm⟩, ⟨users, husers, hu.entries_perm⟩⟩

structure SameScene (R : Memory → Database → Prop) (x : Scene Memory) (y : Scene Database) :
    Prop where
  store : R x.store y.store
  now : x.now = y.now
  dispatcher : x.dispatcher = y.dispatcher

theorem SameScene.sameRows {x : Scene Memory} {y : Scene Database} (h : SameScene Agree x y) :
    SameScene SameRows x y :=
  ⟨sameRows_of_agree h.store, h.now, h.dispatcher⟩

theorem step_alike {x : Scene Memory} {y : Scene Database} (h : SameScene Agree x y)
    (authority : Authority) (limits : Limits) (s : Step) :
    ((memoryServices authority limits).step x s).1 =
        ((databaseServices authority limits).step y s).1 ∧
      SameScene Agree ((memoryServices authority limits).step x s).2
        ((databaseServices authority limits).step y s).2 := by
  obtain ⟨m, now, dispatcher⟩ := x
  obtain ⟨d, _, _⟩ := y
  obtain ⟨hagree, rfl, rfl⟩ := h
  cases s with
  | request r id salt =>
    obtain ⟨hresult, hannounced, hnext⟩ := answer_alike hagree authority limits ⟨now, id, salt⟩ r
    refine ⟨congrArg₂ Sight.response hresult hannounced, hnext, rfl, ?_⟩
    exact congrArg dispatcher.dispatchAll hannounced
  | seed u id =>
    obtain ⟨hresult, hnext⟩ := hagree.createUser id u
    exact ⟨congrArg Sight.seeded hresult, hnext, rfl, rfl⟩
  | setClock t => exact ⟨rfl, hagree, rfl, rfl⟩
  | advanceClock seconds nanos => exact ⟨rfl, hagree, rfl, rfl⟩

theorem isTold_step (authority : Authority) (limits : Limits) (x : Scene Memory) (s : Step) :
    ((memoryServices authority limits).step x s).1.IsTold := by
  cases s with
  | request r id salt => exact refuses_answer authority limits ⟨x.now, id, salt⟩ x.store r
  | seed u id => exact x.store.refuses_createUser id u
  | setClock t => trivial
  | advanceClock seconds nanos => trivial

/-- Both steps show the same down to the texts, and lead to scenes with the same rows. -/
structure SameStep (p : Sight × Scene Memory) (q : Sight × Scene Database) : Prop where
  sight : p.1 = q.1
  isTold : p.1.IsTold
  scene : SameScene SameRows p.2 q.2

theorem sameStep_trace {x : Scene Memory} {y : Scene Database} (h : SameScene Agree x y)
    (authority : Authority) (limits : Limits) (steps : List Step) :
    List.Forall₂ SameStep ((memoryServices authority limits).trace steps x)
      ((databaseServices authority limits).trace steps y) := by
  induction steps generalizing x y with
  | nil => exact .nil
  | cons s steps ih =>
    obtain ⟨hsight, hnext⟩ := step_alike h authority limits s
    exact .cons ⟨hsight, isTold_step authority limits x s, hnext.sameRows⟩ (ih hnext)

/-- Nobody can tell from the services which store is behind them. -/
theorem sameStep_run (authority : Authority) (limits : Limits) (now : Instant)
    (dispatcher : Dispatcher) (steps : List Step) :
    List.Forall₂ SameStep
      ((memoryServices authority limits).trace steps ⟨{}, now, dispatcher⟩)
      ((databaseServices authority limits).trace steps ⟨.fresh, now, dispatcher⟩) := by
  have hstart : SameScene Agree ⟨{}, now, dispatcher⟩ ⟨.fresh, now, dispatcher⟩ :=
    ⟨.start, rfl, rfl⟩
  exact sameStep_trace hstart authority limits steps

end TradeRegister.Service

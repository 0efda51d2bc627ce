import TradeRegister.Proofs.Delivery.Bus
import TradeRegister.Proofs.Service.Effects
import TradeRegister.Proofs.Uuid

/-! # Announcements

Over either store, a subscriber that reads after every step is told of each mutation that succeeded,
once, and of nothing else. What becomes of the announcements makes no difference to the services:
whatever the sink does, and whenever the dispatcher is stopped, they answer the same and store the
same.
-/

namespace TradeRegister.Service

open Delivery (Bus Dispatcher Mutation MutationKind Notice Received Sink)
open Delivery.Bus (Attendance)
open Store (Backend Database Memory)
open Token (Authority)

variable {σ τ : Type}

/-! ## What a subscriber is told -/

structure Announces (topic event : String) (id : Uuid) (n : Notice) : Prop where
  topic : n.topic = topic
  key : id.IsUsualText n.key
  payload : n.payload = Bytes.ofString ("\x7b\"event\":\"" ++ event ++ "\"\x7d")

/-- What a subscriber is told of a step: one notice of a mutation that succeeded, under the
identifier of what was created, updated, deleted or signed up, and nothing of anything else. -/
inductive Told (topic : String) : Step → Sight → List Received → Prop
  | created {c created : Company} {id fresh : Uuid} {salt : Bytes} {announced : List Mutation}
    {n : Notice} (hid : created.id = .value id) (hnotice : Announces topic "CREATE" id n) :
    Told topic (.request (.createCompany c) fresh salt)
      (.response (.ok (.company created)) announced) [.notice n]
  | updated {patch updated : Company} {id fresh : Uuid} {salt : Bytes} {announced : List Mutation}
    {n : Notice} (hpatch : patch.id = .value id) (hid : updated.id = .value id)
    (hnotice : Announces topic "UPDATE" id n) :
    Told topic (.request (.updateCompany patch) fresh salt)
      (.response (.ok (.company updated)) announced) [.notice n]
  | deleted {id fresh : Uuid} {salt : Bytes} {announced : List Mutation} {n : Notice}
    (hnotice : Announces topic "DELETE" id n) :
    Told topic (.request (.deleteCompany id) fresh salt) (.response (.ok .deleted) announced)
      [.notice n]
  | registered {username password : String} {session : Session} {fresh : Uuid} {salt : Bytes}
    {announced : List Mutation} {n : Notice}
    (hnotice : Announces topic "SIGNUP" session.userId n) :
    Told topic (.request (.register username password) fresh salt)
      (.response (.ok (.session session)) announced) [.notice n]
  | asked {r : Request} {fresh : Uuid} {salt : Bytes} {result : Except Fault Response}
    {announced : List Mutation} (hquestion : r.IsQuestion) :
    Told topic (.request r fresh salt) (.response result announced) []
  | refused {r : Request} {fresh : Uuid} {salt : Bytes} {fault : Fault}
    {announced : List Mutation} :
    Told topic (.request r fresh salt) (.response (.error fault) announced) []
  | seeded {u : User} {id : Uuid} {result : Except Fault User} :
    Told topic (.seed u id) (.seeded result) []
  | setClock {t : Instant} {now : Option Instant} : Told topic (.setClock t) (.clock now) []
  | advancedClock {seconds nanos : Int} {now : Option Instant} :
    Told topic (.advanceClock seconds nanos) (.clock now) []

def Sight.announced : Sight → List Mutation
  | .response _ announced => announced
  | _ => []

theorem announces_notice (topic : String) (kind : MutationKind) (id : Uuid) :
    Announces topic kind.name id ((Mutation.of kind id).notice topic) :=
  ⟨rfl, id.isUsualText_text, Mutation.payload_eq _⟩

variable {b : Backend σ} {l : b.Laws} {x y : Scene σ}

theorem told_step (h : l.Intact x.store) (authority : Authority) (limits : Limits) (topic : String)
    (s : Step) :
    Told topic s ((b.services authority limits).step x s).1
      (((b.services authority limits).step x s).1.announced.map fun m =>
        Received.notice (m.notice topic)) := by
  cases s with
  | request r id salt =>
    have heffect := answer_effect h authority limits ⟨x.now, id, salt⟩ r
    rw [Services.sight_step_request]
    generalize (b.services authority limits).answer ⟨x.now, id, salt⟩ x.store r = o at heffect
    cases heffect with
    | asked hquestion => exact .asked hquestion
    | refused => exact .refused
    | created _ _ _ _ => exact .created rfl (announces_notice topic .create _)
    | updated hpasses _ hpatched _ _ =>
      exact .updated hpasses.id (congrArg _ hpatched.id) (announces_notice topic .update _)
    | deleted _ _ => exact .deleted (announces_notice topic .delete _)
    | registered _ _ _ => exact .registered (announces_notice topic .signup _)
  | seed u id => exact .seeded
  | setClock t => exact .setClock
  | advanceClock seconds nanos => exact .advancedClock

theorem Told.length_le {topic : String} {s : Step} {sight : Sight} {received : List Received}
    (h : Told topic s sight received) : received.length ≤ 1 := by
  cases h <;> simp

/-! ## A subscriber that reads after every step -/

/-- A step, and what other subscribers do before it. -/
structure Round where
  others : List Attendance
  step : Step

structure Watched (σ : Type) where
  sight : Sight
  store : σ
  received : List Received

/-- A step is made, what it announces is delivered to the bus, and subscriber `i` reads it all. -/
def Services.round (d : Services σ) (i : Nat) (r : Round) (x : Scene σ) (bus : Bus) :
    Watched σ × Scene σ × Bus :=
  let (sight, x) := d.step x r.step
  let (dispatcher, bus) := x.dispatcher.settle Bus.publish (bus.attendAll r.others)
  let (received, bus) := bus.receiveAll i
  (⟨sight, x.store, received⟩, { x with dispatcher }, bus)

def Services.watch (d : Services σ) (i : Nat) : List Round → Scene σ → Bus → List (Watched σ)
  | [], _, _ => []
  | r :: rounds, x, bus =>
    let (shown, x, bus) := d.round i r x bus
    shown :: d.watch i rounds x bus

/-- Nothing is under way: the dispatcher is at work and has nothing to deliver, and subscriber `i`
has read everything. -/
structure Settled (topic : String) (i : Nat) (dispatcher : Dispatcher) (bus : Bus) : Prop where
  topic : dispatcher.topic = topic
  isStopped : dispatcher.isStopped = false
  waiting : dispatcher.waiting = []
  reads : bus.Reads i bus.sent

theorem Settled.deliver {topic : String} {i : Nat} {dispatcher : Dispatcher} {bus : Bus}
    (h : Settled topic i dispatcher bus) {others : List Attendance}
    (hothers : ∀ x ∈ others, x.reader? ≠ some i) {announced : List Mutation}
    (hannounced : announced.length ≤ 1) :
    let delivered := (dispatcher.dispatchAll announced).settle Bus.publish (bus.attendAll others)
    (delivered.2.receiveAll i).1 = announced.map (fun m => Received.notice (m.notice topic)) ∧
      Settled topic i delivered.1 (delivered.2.receiveAll i).2 := by
  have hreads := h.reads.attendAll hothers
  rw [← bus.sent_attendAll others] at hreads
  have hroom : ((bus.attendAll others).unread (bus.attendAll others).sent).length +
      announced.length ≤ (bus.attendAll others).slots := by
    rw [hreads.unread_sent]
    exact Nat.le_trans (by simpa using hannounced) hreads.slots_pos
  obtain ⟨hdelivered, hunread⟩ := Dispatcher.deliver_publish hreads topic hroom
  rw [hreads.unread_sent, List.nil_append] at hunread
  simp only [Dispatcher.dispatchAll_of_isStopped_eq_false h.isStopped, Dispatcher.settle, h.waiting,
    List.nil_append, h.topic, hdelivered.receiveAll_eq, hunread, List.map_map]
  refine ⟨rfl, rfl, h.isStopped, rfl, ?_⟩
  exact hdelivered.moveTo hdelivered.le_sent (Nat.le_refl _)

theorem Services.dispatcher_step (d : Services σ) (x : Scene σ) (s : Step) :
    (d.step x s).2.dispatcher = x.dispatcher.dispatchAll (d.step x s).1.announced := by
  cases s <;> rfl

theorem settled_round (h : l.Intact x.store) (authority : Authority) (limits : Limits)
    {topic : String} {i : Nat} {bus : Bus} (hsettled : Settled topic i x.dispatcher bus) {r : Round}
    (hothers : ∀ a ∈ r.others, a.reader? ≠ some i) :
    let next := (b.services authority limits).round i r x bus
    Told topic r.step next.1.sight next.1.received ∧ l.Intact next.2.1.store ∧
      Settled topic i next.2.1.dispatcher next.2.2 := by
  have htold := told_step h authority limits topic r.step
  have hlength := htold.length_le
  rw [List.length_map] at hlength
  obtain ⟨hreceived, hnext⟩ := hsettled.deliver hothers hlength
  have hdispatcher := (b.services authority limits).dispatcher_step x r.step
  rw [← hdispatcher] at hreceived hnext
  rw [← hreceived] at htold
  exact ⟨htold, intact_step h authority limits r.step, hnext⟩

theorem told_watch (h : l.Intact x.store) (authority : Authority) (limits : Limits) {topic : String}
    {i : Nat} {bus : Bus} (hsettled : Settled topic i x.dispatcher bus) {rounds : List Round}
    (hothers : ∀ r ∈ rounds, ∀ a ∈ r.others, a.reader? ≠ some i) :
    List.Forall₂ (fun r w => Told topic r.step w.sight w.received) rounds
      ((b.services authority limits).watch i rounds x bus) := by
  induction rounds generalizing x bus with
  | nil => exact .nil
  | cons r rounds ih =>
    obtain ⟨hfirst, hrest⟩ := List.forall_mem_cons.1 hothers
    obtain ⟨htold, hintact, hnext⟩ := settled_round h authority limits hsettled hfirst
    exact .cons htold (ih hintact hnext hrest)

/-! ## Whatever becomes of the announcements -/

/-- What happens around the services: one of their steps, or something about delivery only. -/
inductive Turn (τ : Type)
  | serve (s : Step)
  /-- Everything that waits reaches the sink. -/
  | settle
  /-- The dispatcher is stopped, while the first `n` deliveries that wait reach the sink. -/
  | shutdown (n : Nat)
  /-- Whatever else may happen to the deliveries and to the sink. -/
  | meanwhile (f : Dispatcher → τ → Dispatcher × τ)

def Turn.step? : Turn τ → Option Step
  | .serve s => some s
  | _ => none

def Services.serveAll (d : Services σ) (sink : Sink τ) :
    List (Turn τ) → Scene σ → τ → List (Sight × σ)
  | [], _, _ => []
  | .serve s :: turns, x, t =>
    let (sight, x) := d.step x s
    (sight, x.store) :: d.serveAll sink turns x t
  | .settle :: turns, x, t =>
    let (dispatcher, t) := x.dispatcher.settle sink t
    d.serveAll sink turns { x with dispatcher } t
  | .shutdown n :: turns, x, t =>
    let (dispatcher, t) := x.dispatcher.shutdown sink n t
    d.serveAll sink turns { x with dispatcher } t
  | .meanwhile f :: turns, x, t =>
    let (dispatcher, t) := f x.dispatcher t
    d.serveAll sink turns { x with dispatcher } t

/-- What every step shows, and the store after it, when nothing is ever delivered. -/
def Services.shown (d : Services σ) (steps : List Step) (x : Scene σ) : List (Sight × σ) :=
  (d.trace steps x).map fun y => (y.1, y.2.store)

structure SameServices (x y : Scene σ) : Prop where
  store : x.store = y.store
  now : x.now = y.now

theorem SameServices.step (h : SameServices x y) (d : Services σ) (s : Step) :
    (d.step x s).1 = (d.step y s).1 ∧ SameServices (d.step x s).2 (d.step y s).2 := by
  obtain ⟨store, now, dispatcher⟩ := x
  obtain ⟨_, _, dispatcher'⟩ := y
  obtain ⟨rfl, rfl⟩ := h
  cases s with
  | request r id salt => exact ⟨rfl, rfl, rfl⟩
  | seed u id => exact ⟨rfl, rfl, rfl⟩
  | setClock t => exact ⟨rfl, rfl, rfl⟩
  | advanceClock seconds nanos => exact ⟨rfl, rfl, rfl⟩

theorem SameServices.withDispatcher (h : SameServices x y) (dispatcher : Dispatcher) :
    SameServices { x with dispatcher } y :=
  ⟨h.store, h.now⟩

theorem SameServices.serveAll_eq (h : SameServices x y) (d : Services σ) (sink : Sink τ)
    (turns : List (Turn τ)) (t : τ) :
    d.serveAll sink turns x t = d.shown (turns.filterMap Turn.step?) y := by
  induction turns generalizing x y t with
  | nil => rfl
  | cons turn turns ih =>
    cases turn with
    | serve s =>
      obtain ⟨hsight, hnext⟩ := h.step d s
      exact congrArg₂ List.cons (Prod.ext hsight hnext.store) (ih hnext t)
    | settle => exact ih (h.withDispatcher _) _
    | shutdown n => exact ih (h.withDispatcher _) _
    | meanwhile f => exact ih (h.withDispatcher _) _

theorem SameServices.watch_eq (h : SameServices x y) (d : Services σ) (i : Nat) (rounds : List Round)
    (bus : Bus) :
    ((d.watch i rounds x bus).map fun w => (w.sight, w.store)) =
      d.shown (rounds.map Round.step) y := by
  induction rounds generalizing x y bus with
  | nil => rfl
  | cons r rounds ih =>
    obtain ⟨hsight, hnext⟩ := h.step d r.step
    exact congrArg₂ List.cons (Prod.ext hsight hnext.store) (ih (hnext.withDispatcher _) _)

/-! ## Both stores -/

/-- Subscriber `i` is told of the mutations that succeed, and the services answer and store the same
in every run that makes the same steps, with any sink, from any state of the dispatcher. -/
structure Mirrors (d : Services σ) (topic : String) (start : σ) (now : Instant) (i : Nat) (bus : Bus)
    (rounds : List Round) : Prop where
  told : List.Forall₂ (fun r w => Told topic r.step w.sight w.received) rounds
    (d.watch i rounds ⟨start, now, { topic }⟩ bus)
  undisturbed : ∀ {τ : Type} (sink : Sink τ) (t : τ) (dispatcher : Dispatcher)
    (turns : List (Turn τ)), turns.filterMap Turn.step? = rounds.map Round.step →
      d.serveAll sink turns ⟨start, now, dispatcher⟩ t =
        (d.watch i rounds ⟨start, now, { topic }⟩ bus).map fun w => (w.sight, w.store)

theorem mirrors {start : σ} (h : l.Intact start) (authority : Authority) (limits : Limits)
    (topic : String) (now : Instant) {i : Nat} {bus : Bus} (hreads : bus.Reads i bus.sent)
    {rounds : List Round} (hothers : ∀ r ∈ rounds, ∀ a ∈ r.others, a.reader? ≠ some i) :
    Mirrors (b.services authority limits) topic start now i bus rounds where
  told := told_watch (x := ⟨start, now, { topic }⟩) h authority limits ⟨rfl, rfl, rfl, hreads⟩
    hothers
  undisturbed sink t dispatcher turns hsteps := by
    have hsame : SameServices ⟨start, now, dispatcher⟩ ⟨start, now, { topic }⟩ := ⟨rfl, rfl⟩
    have hself : SameServices (⟨start, now, { topic }⟩ : Scene σ) ⟨start, now, { topic }⟩ :=
      ⟨rfl, rfl⟩
    rw [hsame.serveAll_eq, hself.watch_eq, hsteps]

/-- Over either store, from the start, announcements mirror the mutations that succeed and influence
nothing. The subscriber is there before the first step; others may come and go. -/
theorem mirrors_run (authority : Authority) (limits : Limits) (topic : String) (now : Instant)
    {allocates : Nat → Bool} {capacity : Nat} {bus : Bus}
    (hbus : Bus.ofCapacity? allocates capacity = some bus) {rounds : List Round}
    (hothers : ∀ r ∈ rounds, ∀ a ∈ r.others, a.reader? ≠ some bus.subscribe.1) :
    Mirrors (Backend.memory.services authority limits) topic Backend.memory.start now bus.subscribe.1
        bus.subscribe.2 rounds ∧
      Mirrors (Backend.database.services authority limits) topic Backend.database.start now
        bus.subscribe.1 bus.subscribe.2 rounds := by
  have hmemory : Memory.laws.Intact Backend.memory.start := .start
  have hdatabase : Database.laws.Intact Backend.database.start := .start
  have hreads := Bus.reads_subscribe hbus
  exact ⟨mirrors hmemory authority limits topic now hreads hothers,
    mirrors hdatabase authority limits topic now hreads hothers⟩

/-- A company is created, cannot be created again and is deleted. Somebody else subscribes, reads
one notice and leaves. -/
def shortLife : List Round :=
  let acme : Company :=
    { name := .value "Acme", employeeCount := .value 5, registered := .value true,
      kind := .value .nonProfit, createdBy := .value ⟨19, by decide⟩ }
  [⟨[.subscribe], .request (.createCompany acme) ⟨17, by decide⟩ []⟩,
    ⟨[], .request (.createCompany acme) ⟨18, by decide⟩ []⟩,
    ⟨[.receive 1, .unsubscribe 1], .request (.deleteCompany ⟨17, by decide⟩) ⟨18, by decide⟩ []⟩]

theorem mirrors_run_shortLife :
    Bus.ofCapacity? (· ≤ 4096) 1 = some { slots := 1 } ∧
      (∀ r ∈ shortLife, ∀ a ∈ r.others, a.reader? ≠ some 0) ∧
      Mirrors (Backend.database.services ⟨"acme", ⟨"k"⟩, 900, by decide, by decide⟩ {}) "registry"
        Backend.database.start ⟨0, by decide, by decide⟩ 0 { slots := 1, readers := [some 0] }
        shortLife := by
  have hbus : Bus.ofCapacity? (· ≤ 4096) 1 = some { slots := 1 } := by decide +kernel
  have hothers : ∀ r ∈ shortLife, ∀ a ∈ r.others, a.reader? ≠ some 0 := by decide
  exact ⟨hbus, hothers, (mirrors_run ⟨"acme", ⟨"k"⟩, 900, by decide, by decide⟩ {} "registry"
    ⟨0, by decide, by decide⟩ hbus hothers).2⟩

end TradeRegister.Service

import Mathlib.Data.List.Perm.Subperm
import TradeRegister.Delivery.Dispatcher

/-! # The course of deliveries

A mutation that was dispatched waits until it reaches the sink, and reaches it once, whichever of the
waiting deliveries run first; it is pending until the sink has answered, at once or later. Nothing is
lost before the dispatcher is stopped. What waits then reaches the sink or gives up, as the runtime
has it, and once nothing is pending the sink is left alone for good. Waiting for the deliveries
closes the tracker of the tasks, and opens it again in the end. Each step is made as a whole; what
falls into a drain or a shutdown comes between its call and its return.
-/

namespace TradeRegister.Delivery

variable {σ : Type}

structure SinkCall where
  notice : Notice
  /-- The sink has not answered it so far. -/
  isOpen : Bool
deriving DecidableEq

abbrev Deliveries := List SinkCall

namespace Sink

/-- The sink with a record of its calls. -/
def recorded (sink : Sink σ) : Sink (σ × Deliveries) := fun n s =>
  let (reply, next) := sink n s.1
  (reply, next, s.2 ++ [⟨n, reply = .silent⟩])

/-- Every call is answered at once. -/
def Answers (sink : Sink σ) : Prop := ∀ n s, (sink n s).1 ≠ .silent

def NeverAnswers (sink : Sink σ) : Prop := ∀ n s, (sink n s).1 = .silent

/-- The sink can have been called like this, before any late answer. -/
def Made (sink : Sink σ) (calls : Deliveries) : Prop :=
  ∀ c ∈ calls, ∃ s, c.isOpen = decide ((sink c.notice s).1 = .silent)

/-- The open calls are among those that the sink leaves open. -/
def LeftOpen (sink : Sink σ) (calls : Deliveries) : Prop :=
  ∀ c ∈ calls, c.isOpen = true → ∃ s, (sink c.notice s).1 = .silent

end Sink

/-! ## Open calls -/

def openCalls (calls : Deliveries) : Nat := calls.countP SinkCall.isOpen

/-- Call `k` is answered. -/
def answerCall (k : Nat) (calls : Deliveries) : Deliveries :=
  calls.modify k fun c => { c with isOpen := false }

theorem openCalls_append (calls calls' : Deliveries) :
    openCalls (calls ++ calls') = openCalls calls + openCalls calls' := List.countP_append

theorem map_notice_answerCall (k : Nat) (calls : Deliveries) :
    (answerCall k calls).map SinkCall.notice = calls.map SinkCall.notice := by
  induction calls generalizing k with
  | nil => cases k <;> rfl
  | cons c calls ih =>
    cases k with
    | zero => rfl
    | succ k => exact congrArg (c.notice :: ·) (ih k)

theorem openCalls_answerCall {k : Nat} {calls : Deliveries} {c : SinkCall} (hk : calls[k]? = some c)
    (hc : c.isOpen = true) : openCalls (answerCall k calls) + 1 = openCalls calls := by
  induction calls generalizing k with
  | nil => cases hk
  | cons first calls ih =>
    cases k with
    | zero =>
      obtain rfl : first = c := Option.some.inj hk
      simp [answerCall, openCalls, hc]
    | succ k =>
      have hrest := ih (k := k) hk
      simp only [openCalls, answerCall] at hrest ⊢
      rw [List.modify_succ_cons, List.countP_cons, List.countP_cons]
      omega

/-- Whatever is answered, no call becomes open. -/
theorem mem_of_mem_answerCall {k : Nat} {calls : Deliveries} {c : SinkCall}
    (hc : c ∈ answerCall k calls) (hopen : c.isOpen = true) : c ∈ calls := by
  obtain ⟨i, hi⟩ := List.mem_iff_getElem?.1 hc
  rw [answerCall, List.getElem?_modify] at hi
  obtain ⟨old, hold, rfl⟩ := Option.map_eq_some_iff.1 hi
  split at hopen
  · cases hopen
  · next hne =>
    rw [if_neg hne]
    exact List.mem_of_getElem? hold

namespace Sink

variable {sink : Sink σ} {calls calls' : Deliveries}

theorem Made.leftOpen (h : sink.Made calls) : sink.LeftOpen calls := by
  intro c hc hopen
  obtain ⟨s, hs⟩ := h c hc
  exact ⟨s, of_decide_eq_true (hs ▸ hopen)⟩

theorem LeftOpen.append (h : sink.LeftOpen calls) (h' : sink.LeftOpen calls') :
    sink.LeftOpen (calls ++ calls') :=
  List.forall_mem_append.2 ⟨h, h'⟩

theorem LeftOpen.openCalls_of_answers (h : sink.LeftOpen calls) (hsink : sink.Answers) :
    openCalls calls = 0 := by
  refine List.countP_eq_zero.2 fun c hc hopen => ?_
  obtain ⟨s, hs⟩ := h c hc hopen
  exact hsink c.notice s hs

theorem Made.isOpen_of_neverAnswers (h : sink.Made calls) (hsink : sink.NeverAnswers) :
    ∀ c ∈ calls, c.isOpen = true := by
  intro c hc
  obtain ⟨s, hs⟩ := h c hc
  rw [hs, decide_eq_true (hsink c.notice s)]

end Sink

/-- Each mutation is delivered once, in the given order. -/
theorem Dispatcher.exists_deliver_recorded (sink : Sink σ) (topic : String) (ms : List Mutation)
    (r : σ × Deliveries) : ∃ calls, (deliver sink.recorded topic ms r).2.2 = r.2 ++ calls ∧
      calls.map SinkCall.notice = ms.map (Mutation.notice topic) ∧ sink.Made calls ∧
      (deliver sink.recorded topic ms r).1 = openCalls calls := by
  induction ms generalizing r with
  | nil => exact ⟨[], by simp [deliver], rfl, fun _ hc => absurd hc List.not_mem_nil, rfl⟩
  | cons m ms ih =>
    obtain ⟨calls, hcalls, hnotices, hmade, hmissing⟩ := ih (sink.recorded (m.notice topic) r).2
    refine ⟨⟨m.notice topic, (sink (m.notice topic) r.1).1 = .silent⟩ :: calls, ?_, ?_, ?_, ?_⟩
    · rw [deliver]
      simpa [Sink.recorded] using hcalls
    · rw [List.map_cons, List.map_cons, hnotices]
    · exact List.forall_mem_cons.2 ⟨⟨r.1, rfl⟩, hmade⟩
    · rw [deliver]
      by_cases hsilent : (sink (m.notice topic) r.1).1 = .silent
      · simpa [Sink.recorded, openCalls, hsilent] using hmissing
      · simpa [Sink.recorded, openCalls, hsilent] using hmissing

/-! ## Steps -/

/-- What is done with a dispatcher, by those who use it and by the runtime that its tasks run on. -/
inductive Step
  | dispatch (m : Mutation)
  | settle
  | drain
  /-- A shutdown, during which the first `n` waiting deliveries reach the sink. -/
  | shutdown (n : Nat)
  /-- The runtime takes the waiting deliveries in another order. -/
  | reorder (order : List Mutation)
  /-- The runtime lets the first `n` waiting deliveries run. -/
  | work (n : Nat)
  /-- The sink answers call `k`, which it had left open. -/
  | answer (k : Nat)
  /-- A drain is called, and waits. -/
  | beginDrain
  /-- A drain that has waited enough opens the tracker. -/
  | reopen
  /-- A shutdown is called, and waits. -/
  | beginShutdown
  /-- After that, the first `n` waiting deliveries and `k` open ones give up. -/
  | giveUp (n k : Nat)
deriving DecidableEq

namespace Step

def dispatched? : Step → Option Mutation
  | .dispatch m => some m
  | _ => none

def stops : Step → Bool
  | .shutdown _ | .beginShutdown => true
  | _ => false

end Step

/-- A dispatcher with the tracker of its tasks and its sink. -/
structure World (σ : Type) where
  dispatcher : Dispatcher
  /-- Somebody waits for the deliveries. -/
  isClosed : Bool
  record : σ × Deliveries

namespace World

def calls (w : World σ) : Deliveries := w.record.2

/-- What the sink was called with. -/
def called (w : World σ) : List Notice := w.calls.map SinkCall.notice

def pending (w : World σ) : Nat := w.dispatcher.pending

def start (topic : String) (s : σ) : World σ := ⟨{ topic }, false, (s, [])⟩

/-- An answer to a call that is open, and whose delivery has not given up. -/
def answer (w : World σ) (k : Nat) : World σ :=
  if 0 < w.dispatcher.unanswered ∧ w.calls[k]?.any SinkCall.isOpen then
    { w with
      dispatcher := { w.dispatcher with unanswered := w.dispatcher.unanswered - 1 }
      record := (w.record.1, answerCall k w.calls) }
  else w

def step (sink : Sink σ) (w : World σ) : Step → World σ
  | .dispatch m => { w with dispatcher := w.dispatcher.dispatch m }
  | .settle =>
    let (d, r) := w.dispatcher.settle sink.recorded w.record
    { w with dispatcher := d, record := r }
  | .drain =>
    match w.dispatcher.drain? sink.recorded w.record with
    | some (d, r) => ⟨d, false, r⟩
    | none =>
      let (d, r) := w.dispatcher.settle sink.recorded w.record
      ⟨d, true, r⟩
  | .shutdown n =>
    let (d, r) := w.dispatcher.shutdown sink.recorded n w.record
    ⟨d, true, r⟩
  | .reorder order =>
    if order.isPerm w.dispatcher.waiting then
      { w with dispatcher := { w.dispatcher with waiting := order } }
    else w
  | .work n =>
    let (d, r) := w.dispatcher.work sink.recorded n w.record
    { w with dispatcher := d, record := r }
  | .answer k => w.answer k
  | .beginDrain => { w with isClosed := true }
  | .reopen => { w with isClosed := false }
  | .beginShutdown => { w with dispatcher := w.dispatcher.cancel, isClosed := true }
  | .giveUp n k =>
    if w.dispatcher.isStopped then { w with dispatcher := w.dispatcher.giveUp n k } else w

variable {sink : Sink σ} {w : World σ}

theorem step_settle : w.step sink .settle = w.step sink (.work w.dispatcher.waiting.length) := by
  rw [step, step, Dispatcher.settle_eq_work]

/-- To drain is to close the tracker, to let everything run, and to open the tracker again unless
something is left. -/
theorem step_drain :
    w.step sink .drain = if ((w.step sink .beginDrain).step sink .settle).pending = 0 then
        ((w.step sink .beginDrain).step sink .settle).step sink .reopen
      else (w.step sink .beginDrain).step sink .settle := by
  simp only [step, pending, Dispatcher.drain?, Dispatcher.pending, Dispatcher.settle,
    List.length_nil, Nat.zero_add]
  split <;> simp_all

/-- What a step does to the deliveries. Those of a stopped dispatcher may run before they give up. -/
inductive Acts (sink : Sink σ) (w : World σ) : Step → Dispatcher → σ × Deliveries → Prop
  | dispatched (m : Mutation) : Acts sink w (.dispatch m) (w.dispatcher.dispatch m) w.record
  | ordered {order : List Mutation} (horder : order.Perm w.dispatcher.waiting) :
    Acts sink w (.reorder order) { w.dispatcher with waiting := order } w.record
  | answered {k : Nat} {c : SinkCall} (hk : w.calls[k]? = some c) (hopen : c.isOpen = true)
    (hpos : 0 < w.dispatcher.unanswered) :
    Acts sink w (.answer k) { w.dispatcher with unanswered := w.dispatcher.unanswered - 1 }
      (w.record.1, answerCall k w.calls)
  | ran {x : Step} (hx : x.dispatched? = none) (hstops : x.stops = false) (n : Nat) :
    Acts sink w x (w.dispatcher.work sink.recorded n w.record).1
      (w.dispatcher.work sink.recorded n w.record).2
  | gaveUp {x : Step} (hx : x.dispatched? = none)
    (hstops : x.stops = false → w.dispatcher.isStopped = true) (n m k : Nat) :
    Acts sink w x ((w.dispatcher.cancel.work sink.recorded n w.record).1.giveUp m k)
      (w.dispatcher.cancel.work sink.recorded n w.record).2

theorem acts_step (sink : Sink σ) (w : World σ) (x : Step) :
    Acts sink w x (w.step sink x).dispatcher (w.step sink x).record := by
  cases x with
  | dispatch m => exact .dispatched m
  | settle => exact step_settle ▸ .ran rfl rfl _
  | drain =>
    rw [step_drain, step_settle]
    split <;> exact .ran rfl rfl _
  | shutdown n => exact .gaveUp rfl Bool.noConfusion n _ _
  | reorder order =>
    rw [step]
    split
    · next horder => exact .ordered (List.isPerm_iff.1 horder)
    · exact .ran rfl rfl 0
  | work n => exact .ran rfl rfl n
  | answer k =>
    rw [step, answer]
    split
    · next h =>
      obtain ⟨c, hk, hopen⟩ := (Option.any_eq_true _ _).1 h.2
      exact .answered hk hopen h.1
    · exact .ran rfl rfl 0
  | beginDrain => exact .ran rfl rfl 0
  | reopen => exact .ran rfl rfl 0
  | beginShutdown => exact .gaveUp rfl Bool.noConfusion 0 0 0
  | giveUp n k =>
    rw [step]
    split
    · next hstopped =>
      have hcancel : w.dispatcher.cancel = w.dispatcher := by
        rw [Dispatcher.cancel, ← hstopped]
      have hacts : Acts sink w (.giveUp n k) _ _ := .gaveUp rfl (fun _ => hstopped) 0 n k
      rwa [hcancel] at hacts
    · exact .ran rfl rfl 0

theorem topic_step (sink : Sink σ) (w : World σ) (x : Step) :
    (w.step sink x).dispatcher.topic = w.dispatcher.topic := by
  have hacts := acts_step sink w x
  generalize (w.step sink x).dispatcher = d, (w.step sink x).record = r at hacts
  cases hacts with
  | dispatched m =>
    unfold Dispatcher.dispatch
    split <;> rfl
  | ordered _ => rfl
  | answered _ _ _ => rfl
  | ran _ _ n => rfl
  | gaveUp _ _ n m k => rfl

theorem isStopped_step (sink : Sink σ) (w : World σ) (x : Step) :
    (w.step sink x).dispatcher.isStopped = (w.dispatcher.isStopped || x.stops) := by
  have hacts := acts_step sink w x
  generalize (w.step sink x).dispatcher = d, (w.step sink x).record = r at hacts
  cases hacts with
  | dispatched m =>
    refine Eq.trans ?_ (Bool.or_false _).symm
    unfold Dispatcher.dispatch
    split <;> rfl
  | ordered _ => exact (Bool.or_false _).symm
  | answered _ _ _ => exact (Bool.or_false _).symm
  | ran _ hstops n =>
    rw [hstops]
    exact (Bool.or_false _).symm
  | gaveUp _ hstops n m k =>
    have hor : (w.dispatcher.isStopped || x.stops) = true := by
      cases hx : x.stops with
      | true => exact Bool.or_true _
      | false => rw [hstops hx, Bool.true_or]
    exact hor.symm

end World

/-! ## Accounts of deliveries -/

/-- What has reached the sink or waits was accepted, once each; until the dispatcher is stopped, so has
everything that was accepted. -/
structure Accounted (sink : Sink σ) (topic : String) (ms : List Mutation) (d : Dispatcher)
    (calls : Deliveries) : Prop where
  topic_eq : d.topic = topic
  leftOpen : sink.LeftOpen calls
  unanswered_le : d.unanswered ≤ openCalls calls
  within : (calls.map SinkCall.notice ++ d.waiting.map (Mutation.notice topic)).Subperm
    (ms.map (Mutation.notice topic))
  unanswered : d.isStopped = false → d.unanswered = openCalls calls
  balance : d.isStopped = false →
    (calls.map SinkCall.notice ++ d.waiting.map (Mutation.notice topic)).Perm
      (ms.map (Mutation.notice topic))

namespace Accounted

variable {sink : Sink σ} {topic : String} {ms : List Mutation} {d : Dispatcher} {r : σ × Deliveries}

theorem start (sink : Sink σ) (topic : String) (s : σ) :
    Accounted sink topic [] (World.start topic s).dispatcher (World.start topic s).calls :=
  ⟨rfl, fun _ hc => absurd hc List.not_mem_nil, Nat.le_refl _, .refl _, fun _ => rfl,
    fun _ => .refl _⟩

theorem dispatch (h : Accounted sink topic ms d r.2) (m : Mutation) :
    Accounted sink topic (ms ++ if d.isStopped then [] else [m]) (d.dispatch m) r.2 := by
  cases hstopped : d.isStopped with
  | true =>
    rw [Dispatcher.dispatch_of_isStopped hstopped, if_pos rfl, List.append_nil]
    exact h
  | false =>
    have hdispatch : d.dispatch m = { d with waiting := d.waiting ++ [m] } := by
      rw [Dispatcher.dispatch, hstopped]
      rfl
    have hbalance : (r.2.map SinkCall.notice ++
        (d.waiting ++ [m]).map (Mutation.notice topic)).Perm
          ((ms ++ [m]).map (Mutation.notice topic)) := by
      rw [List.map_append, List.map_append, ← List.append_assoc]
      exact (h.balance hstopped).append_right _
    rw [hdispatch, if_neg Bool.false_ne_true]
    exact ⟨h.topic_eq, h.leftOpen, h.unanswered_le, hbalance.subperm, h.unanswered,
      fun _ => hbalance⟩

theorem reorder (h : Accounted sink topic ms d r.2) {order : List Mutation}
    (horder : order.Perm d.waiting) : Accounted sink topic ms { d with waiting := order } r.2 := by
  have hsame := (horder.map (Mutation.notice topic)).append_left (r.2.map SinkCall.notice)
  exact ⟨h.topic_eq, h.leftOpen, h.unanswered_le, hsame.subperm.trans h.within, h.unanswered,
    fun hstopped => hsame.trans (h.balance hstopped)⟩

theorem answer (h : Accounted sink topic ms d r.2) {k : Nat} {c : SinkCall} (hk : r.2[k]? = some c)
    (hopen : c.isOpen = true) :
    Accounted sink topic ms { d with unanswered := d.unanswered - 1 } (answerCall k r.2) := by
  have hcalls := openCalls_answerCall hk hopen
  have hle := h.unanswered_le
  refine ⟨h.topic_eq, fun c hc hopen => h.leftOpen c (mem_of_mem_answerCall hc hopen) hopen, ?_, ?_,
    ?_, ?_⟩
  · dsimp only
    omega
  · rw [map_notice_answerCall]
    exact h.within
  · intro hstopped
    have hall := h.unanswered hstopped
    dsimp only
    omega
  · intro hstopped
    rw [map_notice_answerCall]
    exact h.balance hstopped

theorem work (h : Accounted sink topic ms d r.2) (n : Nat) :
    Accounted sink topic ms (d.work sink.recorded n r).1 (d.work sink.recorded n r).2.2 := by
  obtain ⟨calls, hcalls, hnotices, hmade, hmissing⟩ :=
    Dispatcher.exists_deliver_recorded sink d.topic (d.waiting.take n) r
  rw [h.topic_eq] at hnotices
  have hrecorded : (d.work sink.recorded n r).2.2 = r.2 ++ calls := hcalls
  have hunanswered : (d.work sink.recorded n r).1.unanswered = d.unanswered + openCalls calls :=
    congrArg (d.unanswered + ·) hmissing
  have hmoved : (r.2 ++ calls).map SinkCall.notice ++
      (d.work sink.recorded n r).1.waiting.map (Mutation.notice topic) =
        r.2.map SinkCall.notice ++ d.waiting.map (Mutation.notice topic) := by
    have hwaiting : (d.work sink.recorded n r).1.waiting = d.waiting.drop n := rfl
    rw [List.map_append, hnotices, hwaiting, List.append_assoc, ← List.map_append,
      List.take_append_drop]
  rw [hrecorded]
  refine ⟨h.topic_eq, h.leftOpen.append hmade.leftOpen, ?_, hmoved ▸ h.within, ?_, ?_⟩
  · rw [openCalls_append, hunanswered]
    exact Nat.add_le_add_right h.unanswered_le _
  · intro hstopped
    rw [openCalls_append, hunanswered, h.unanswered hstopped]
  · intro hstopped
    exact hmoved ▸ h.balance hstopped

theorem cancel (h : Accounted sink topic ms d r.2) : Accounted sink topic ms d.cancel r.2 :=
  ⟨h.topic_eq, h.leftOpen, h.unanswered_le, h.within, Bool.noConfusion, Bool.noConfusion⟩

theorem giveUp (h : Accounted sink topic ms d r.2) (hstopped : d.isStopped = true) (n k : Nat) :
    Accounted sink topic ms (d.giveUp n k) r.2 := by
  have hrunning : (d.giveUp n k).isStopped ≠ false := by simp [Dispatcher.giveUp, hstopped]
  have hwaiting : ((d.waiting.drop n).map (Mutation.notice topic)).Sublist
      (d.waiting.map (Mutation.notice topic)) := (List.drop_sublist n _).map _
  exact ⟨h.topic_eq, h.leftOpen, Nat.le_trans (Nat.sub_le _ _) h.unanswered_le,
    (hwaiting.append_left _).subperm.trans h.within, fun h => absurd h hrunning,
    fun h => absurd h hrunning⟩

/-- A step adds what it dispatches to the account, unless the dispatcher is stopped. -/
theorem step {w : World σ} (h : Accounted sink topic ms w.dispatcher w.calls) (x : Step) :
    Accounted sink topic
      (ms ++ if w.dispatcher.isStopped then [] else x.dispatched?.toList)
      (w.step sink x).dispatcher (w.step sink x).calls := by
  have hnone (hx : x.dispatched? = none) :
      (ms ++ if w.dispatcher.isStopped then [] else x.dispatched?.toList) = ms := by
    rw [hx, Option.toList_none, ite_self, List.append_nil]
  have hacts := World.acts_step sink w x
  unfold World.calls
  generalize (w.step sink x).dispatcher = d, (w.step sink x).record = r at hacts
  cases hacts with
  | dispatched m => exact h.dispatch m
  | ordered horder =>
    rw [hnone rfl]
    exact h.reorder horder
  | answered hk hopen _ =>
    rw [hnone rfl]
    exact h.answer hk hopen
  | ran hx _ n =>
    rw [hnone hx]
    exact h.work n
  | gaveUp hx _ n m k =>
    rw [hnone hx]
    exact (h.cancel.work n).giveUp rfl m k

theorem unanswered_of_answers {calls : Deliveries} (h : Accounted sink topic ms d calls)
    (hsink : sink.Answers) : d.unanswered = 0 :=
  Nat.le_zero.1 (h.leftOpen.openCalls_of_answers hsink ▸ h.unanswered_le)

end Accounted

/-! ## A dispatcher at rest -/

/-- It is stopped and nothing is pending, which is what a shutdown waits for. -/
structure AtRest (d : Dispatcher) : Prop where
  isStopped : d.isStopped = true
  pending : d.pending = 0

namespace AtRest

variable {sink : Sink σ} {d : Dispatcher}

theorem waiting (h : AtRest d) : d.waiting = [] :=
  List.eq_nil_of_length_eq_zero (Nat.eq_zero_of_add_eq_zero_right h.pending)

theorem unanswered (h : AtRest d) : d.unanswered = 0 := Nat.eq_zero_of_add_eq_zero_left h.pending

theorem cancel (h : AtRest d) : d.cancel = d := by rw [Dispatcher.cancel, ← h.isStopped]

theorem work (h : AtRest d) (n : Nat) (r : σ × Deliveries) :
    d.work sink.recorded n r = (d, r) := by
  have hwaiting := h.waiting
  obtain ⟨topic, waiting, unanswered, isStopped⟩ := d
  obtain rfl : waiting = [] := hwaiting
  simp only [Dispatcher.work, List.take_nil, List.drop_nil, Dispatcher.deliver, Nat.add_zero]

/-- No step disturbs the rest: nothing becomes pending and the sink is not called. -/
theorem step {w : World σ} (h : AtRest w.dispatcher) (sink : Sink σ) (x : Step) :
    AtRest (w.step sink x).dispatcher ∧ (w.step sink x).record = w.record := by
  have hacts := World.acts_step sink w x
  generalize (w.step sink x).dispatcher = d, (w.step sink x).record = r at hacts
  cases hacts with
  | dispatched m =>
    rw [Dispatcher.dispatch_of_isStopped h.isStopped]
    exact ⟨h, rfl⟩
  | ordered horder =>
    obtain rfl := (h.waiting ▸ horder).eq_nil
    exact ⟨⟨h.isStopped, (Nat.zero_add _).trans h.unanswered⟩, rfl⟩
  | answered _ _ hpos => exact absurd h.unanswered (Nat.ne_of_gt hpos)
  | ran _ _ n =>
    rw [h.work]
    exact ⟨h, rfl⟩
  | gaveUp _ _ n m k =>
    rw [h.cancel, h.work]
    refine ⟨⟨h.isStopped, ?_⟩, rfl⟩
    rw [Dispatcher.giveUp, Dispatcher.pending, h.waiting, h.unanswered, List.drop_nil, Nat.zero_sub]
    rfl

end AtRest

/-! ## Runs -/

abbrev Course := List Step

namespace Course

def dispatched (steps : Course) : List Mutation := steps.filterMap Step.dispatched?

/-- Nobody stops the dispatcher. -/
def IsRunning (steps : Course) : Prop := ∀ x ∈ steps, x.stops = false

/-- No call is answered later. -/
def NoAnswers (steps : Course) : Prop := ∀ k, .answer k ∉ steps

theorem dispatched_cons (x : Step) (steps : Course) :
    dispatched (x :: steps) = x.dispatched?.toList ++ dispatched steps := by
  cases h : x.dispatched? <;> simp [dispatched, h]

end Course

namespace World

open Course (dispatched IsRunning NoAnswers)

def run (sink : Sink σ) (w : World σ) (steps : Course) : World σ := steps.foldl (step sink) w

/-- What is dispatched before the dispatcher is stopped. -/
def accepted (sink : Sink σ) (w : World σ) : Course → List Mutation
  | [] => []
  | x :: steps =>
    (if w.dispatcher.isStopped then [] else x.dispatched?.toList) ++
      accepted sink (w.step sink x) steps

variable {sink : Sink σ} {topic : String} {ms : List Mutation} {w : World σ}

theorem run_append (sink : Sink σ) (w : World σ) (steps steps' : Course) :
    w.run sink (steps ++ steps') = (w.run sink steps).run sink steps' := List.foldl_append

theorem isStopped_run (sink : Sink σ) (w : World σ) (steps : Course) :
    (w.run sink steps).dispatcher.isStopped = (w.dispatcher.isStopped || steps.any Step.stops) := by
  induction steps generalizing w with
  | nil => exact (Bool.or_false _).symm
  | cons x steps ih =>
    rw [run, List.foldl_cons, ← run, ih, isStopped_step, List.any_cons, Bool.or_assoc]

theorem accounted_run (h : Accounted sink topic ms w.dispatcher w.calls) (steps : Course) :
    Accounted sink topic (ms ++ accepted sink w steps) (w.run sink steps).dispatcher
      (w.run sink steps).calls := by
  induction steps generalizing w ms with
  | nil => rwa [accepted, List.append_nil]
  | cons x steps ih =>
    rw [accepted, ← List.append_assoc]
    exact ih (h.step x)

theorem accepted_of_isStopped (h : w.dispatcher.isStopped = true) (steps : Course) :
    accepted sink w steps = [] := by
  induction steps generalizing w with
  | nil => rfl
  | cons x steps ih =>
    have hnext : (w.step sink x).dispatcher.isStopped = true := by
      rw [isStopped_step, h, Bool.true_or]
    rw [accepted, if_pos h, ih hnext, List.append_nil]

theorem accepted_sublist (sink : Sink σ) (w : World σ) (steps : Course) :
    (accepted sink w steps).Sublist (dispatched steps) := by
  induction steps generalizing w with
  | nil => exact .refl _
  | cons x steps ih =>
    rw [accepted, Course.dispatched_cons]
    split
    · exact (List.nil_sublist _).append (ih _)
    · exact (List.Sublist.refl _).append (ih _)

theorem accepted_of_isRunning (h : w.dispatcher.isStopped = false) {steps : Course}
    (hsteps : IsRunning steps) : accepted sink w steps = dispatched steps := by
  induction steps generalizing w with
  | nil => rfl
  | cons x steps ih =>
    obtain ⟨hx, hrest⟩ := List.forall_mem_cons.1 hsteps
    have hnext : (w.step sink x).dispatcher.isStopped = false := by
      rw [isStopped_step, h, hx, Bool.false_or]
    rw [accepted, h, if_neg Bool.false_ne_true, ih hnext hrest, Course.dispatched_cons]

theorem accepted_append (sink : Sink σ) (w : World σ) (steps more : Course) :
    accepted sink w (steps ++ more) =
      accepted sink w steps ++ accepted sink (w.run sink steps) more := by
  induction steps generalizing w with
  | nil => rfl
  | cons x steps ih =>
    rw [List.cons_append, accepted, accepted, ih, List.append_assoc]
    rfl

theorem atRest_run (h : AtRest w.dispatcher) (steps : Course) :
    AtRest (w.run sink steps).dispatcher ∧ (w.run sink steps).record = w.record := by
  induction steps generalizing w with
  | nil => exact ⟨h, rfl⟩
  | cons x steps ih =>
    obtain ⟨hnext, hrecord⟩ := h.step sink x
    obtain ⟨hrest, hsame⟩ := ih hnext
    exact ⟨hrest, hsame.trans hrecord⟩

/-- With a sink that never answers, calls stay open. -/
theorem isOpen_run (hsink : sink.NeverAnswers) {steps : Course} (hsteps : NoAnswers steps)
    (h : ∀ c ∈ w.calls, c.isOpen = true) : ∀ c ∈ (w.run sink steps).calls, c.isOpen = true := by
  induction steps generalizing w with
  | nil => exact h
  | cons x steps ih =>
    have hworked (d : Dispatcher) (n : Nat) :
        ∀ c ∈ (d.work sink.recorded n w.record).2.2, c.isOpen = true := by
      obtain ⟨calls, hcalls, _, hmade, _⟩ :=
        Dispatcher.exists_deliver_recorded sink d.topic (d.waiting.take n) w.record
      have hrecorded : (d.work sink.recorded n w.record).2.2 = w.calls ++ calls := hcalls
      rw [hrecorded]
      exact List.forall_mem_append.2 ⟨h, hmade.isOpen_of_neverAnswers hsink⟩
    refine ih (fun k hk => hsteps k (List.mem_cons_of_mem _ hk)) ?_
    have hacts := acts_step sink w x
    unfold calls
    generalize (w.step sink x).dispatcher = d, (w.step sink x).record = r at hacts
    cases hacts with
    | dispatched m => exact h
    | ordered _ => exact h
    | answered _ _ _ => exact absurd List.mem_cons_self (hsteps _)
    | ran _ _ n => exact hworked _ n
    | gaveUp _ _ n m k => exact hworked _ n

/-! ## From the start -/

def after (sink : Sink σ) (topic : String) (s : σ) (steps : Course) : World σ :=
  (start topic s).run sink steps

variable (sink : Sink σ) (topic : String) (s : σ) {steps : Course}

theorem after_concat (steps : Course) (x : Step) :
    after sink topic s (steps ++ [x]) = (after sink topic s steps).step sink x :=
  run_append sink _ steps [x]

theorem isStopped_after (hsteps : IsRunning steps) :
    (after sink topic s steps).dispatcher.isStopped = false := by
  rw [after, isStopped_run, List.any_eq_false.2 fun x hx => (hsteps x hx).symm ▸ Bool.false_ne_true]
  rfl

theorem accounted_after (steps : Course) :
    Accounted sink topic (accepted sink (start topic s) steps)
      (after sink topic s steps).dispatcher (after sink topic s steps).calls :=
  accounted_run (.start sink topic s) steps

theorem balance_after (hsteps : IsRunning steps) :
    ((after sink topic s steps).called ++
        (after sink topic s steps).dispatcher.waiting.map (Mutation.notice topic)).Perm
      ((dispatched steps).map (Mutation.notice topic)) := by
  have hbalance := (accounted_after sink topic s steps).balance (isStopped_after sink topic s hsteps)
  rwa [accepted_of_isRunning rfl hsteps] at hbalance

theorem pending_after (hsteps : IsRunning steps) :
    (after sink topic s steps).pending = (after sink topic s steps).dispatcher.waiting.length +
      openCalls (after sink topic s steps).calls :=
  congrArg (_ + ·)
    ((accounted_after sink topic s steps).unanswered (isStopped_after sink topic s hsteps))

/-- Whatever else happens, the sink is called at most once for each mutation. -/
theorem called_after (steps : Course) :
    (after sink topic s steps).called.Subperm
      ((accepted sink (start topic s) steps).map (Mutation.notice topic)) :=
  (List.sublist_append_left _ _).subperm.trans (accounted_after sink topic s steps).within

theorem pending_after_of_answers (hsink : sink.Answers) (steps : Course) :
    openCalls (after sink topic s steps).calls = 0 ∧ (after sink topic s steps).pending =
      (after sink topic s steps).dispatcher.waiting.length := by
  have haccount := accounted_after sink topic s steps
  refine ⟨haccount.leftOpen.openCalls_of_answers hsink, ?_⟩
  rw [pending, Dispatcher.pending, haccount.unanswered_of_answers hsink, Nat.add_zero]

theorem waiting_step {x : Step} (hx : x = .settle ∨ x = .drain) (w : World σ) :
    (w.step sink x).dispatcher.waiting = [] := by
  rcases hx with rfl | rfl
  · rfl
  · rw [step_drain]
    split <;> rfl

/-- Once everything was let run, everything that was dispatched has reached the sink. -/
theorem called_wait (hsteps : IsRunning steps) {x : Step} (hx : x = .settle ∨ x = .drain) :
    (after sink topic s (steps ++ [x])).called.Perm
      ((dispatched steps).map (Mutation.notice topic)) := by
  have hrunning : IsRunning (steps ++ [x]) := by
    refine List.forall_mem_append.2 ⟨hsteps, List.forall_mem_singleton.2 ?_⟩
    rcases hx with rfl | rfl <;> rfl
  have hdispatched : dispatched (steps ++ [x]) = dispatched steps := by
    rcases hx with rfl | rfl <;> simp [dispatched, Step.dispatched?]
  have hbalance := balance_after sink topic s hrunning
  rw [after_concat, waiting_step sink hx, hdispatched] at hbalance
  rw [after_concat]
  simpa only [List.map_nil, List.append_nil] using hbalance

/-- A drain returns, and leaves the tracker open, exactly if nothing is left. -/
theorem isClosed_drain (w : World σ) :
    (w.step sink .drain).isClosed = false ↔ (w.step sink .drain).pending = 0 := by
  rw [step_drain]
  split
  · next hnone => exact iff_of_true rfl hnone
  · next hsome => exact iff_of_false Bool.noConfusion hsome

theorem waiting_dispatch (hsteps : IsRunning steps) (m : Mutation) :
    (after sink topic s (steps ++ [.dispatch m])).dispatcher.waiting =
      (after sink topic s steps).dispatcher.waiting ++ [m] := by
  rw [after_concat, step, Dispatcher.dispatch, isStopped_after sink topic s hsteps]
  rfl

theorem atRest_shutdown (n : Nat) (w : World σ) :
    AtRest (w.step sink (.shutdown n)).dispatcher := by
  refine ⟨rfl, ?_⟩
  simp [step, Dispatcher.shutdown, Dispatcher.giveUp, Dispatcher.pending]

/-- During a shutdown some of what waits reaches the sink. -/
theorem called_shutdown (n : Nat) {w : World σ} (htopic : w.dispatcher.topic = topic) :
    ∃ made, (w.step sink (.shutdown n)).calls = w.calls ++ made ∧
      made.map SinkCall.notice = (w.dispatcher.waiting.take n).map (Mutation.notice topic) := by
  obtain ⟨made, hcalls, hnotices, _⟩ := Dispatcher.exists_deliver_recorded sink w.dispatcher.topic
    (w.dispatcher.waiting.take n) w.record
  exact ⟨made, hcalls, htopic ▸ hnotices⟩

/-- What is dispatched from the call of a shutdown on never reaches the sink. -/
theorem called_stop {x : Step} (hx : x.stops = true) (steps more : Course) :
    (after sink topic s (steps ++ x :: more)).called.Subperm
      ((dispatched steps).map (Mutation.notice topic)) := by
  have hstopped : ((after sink topic s steps).step sink x).dispatcher.isStopped = true := by
    rw [isStopped_step, hx, Bool.or_true]
  have hnone : x.dispatched? = none := by cases x <;> first | rfl | cases hx
  have haccepted : accepted sink (start topic s) (steps ++ x :: more) =
      accepted sink (start topic s) steps := by
    rw [accepted_append, accepted, hnone, Option.toList_none, ite_self]
    exact (congrArg _ (accepted_of_isStopped hstopped more)).trans (List.append_nil _)
  have hcalled := called_after sink topic s (steps ++ x :: more)
  rw [haccepted] at hcalled
  exact hcalled.trans ((accepted_sublist sink _ _).map _).subperm

/-- Nothing that was delivered to a sink that never answers is done before a shutdown. -/
theorem pending_after_of_neverAnswers (hsink : sink.NeverAnswers) (hsteps : IsRunning steps)
    (hnone : NoAnswers steps) :
    (after sink topic s steps).dispatcher.unanswered = (after sink topic s steps).calls.length ∧
      (after sink topic s steps).pending = (dispatched steps).length := by
  have hopen : openCalls (after sink topic s steps).calls = (after sink topic s steps).calls.length :=
    List.countP_eq_length.2 (isOpen_run hsink hnone fun _ hc => absurd hc List.not_mem_nil)
  have hlength := (balance_after sink topic s hsteps).length_eq
  rw [called, List.length_append, List.length_map, List.length_map, List.length_map] at hlength
  refine ⟨?_, ?_⟩
  · rw [← hopen]
    exact (accounted_after sink topic s steps).unanswered (isStopped_after sink topic s hsteps)
  · rw [pending_after sink topic s hsteps, hopen, Nat.add_comm, hlength]

end World

end TradeRegister.Delivery

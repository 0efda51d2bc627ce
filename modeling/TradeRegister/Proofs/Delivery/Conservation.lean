import TradeRegister.Proofs.Delivery.Course

/-! # What becomes of dispatched mutations

A dispatcher can be cloned, and a clone is no second dispatcher: it leads to the same tracker and the
same cancellation. So it is the course of all steps together, whichever of the clones they are issued
on, that decides what is delivered.
-/

namespace TradeRegister.Delivery

variable {σ : Type}

/-! ## Clones -/

/-- A dispatcher as somebody holds it: where its tracker and its cancellation are kept. -/
structure Handle where
  topic : String
  tracker : Nat
  token : Nat
deriving DecidableEq

structure Tracker where
  waiting : List Mutation := []
  unanswered : Nat := 0
  isClosed : Bool := false
deriving DecidableEq

/-- A dispatcher with its clones, and all that they lead to. -/
structure DispatcherClones (σ : Type) where
  original : Handle
  clones : List Handle
  trackers : Nat → Tracker
  isCancelled : Nat → Bool
  record : σ × Deliveries

/-- What is done with the clones, by their numbers. -/
inductive Act
  | clone (i : Nat)
  | step (i : Nat) (x : Step)
deriving DecidableEq

namespace Act

def step? : Act → Option Step
  | .clone _ => none
  | .step _ x => some x

def steps (acts : List Act) : Course := acts.filterMap step?

end Act

namespace DispatcherClones

def start (topic : String) (s : σ) : DispatcherClones σ :=
  ⟨⟨topic, 0, 0⟩, [], fun _ => {}, fun _ => false, (s, [])⟩

/-- Number 0 is the original, the clones follow in the order of their making, and all other numbers
are the original again. -/
def handle (f : DispatcherClones σ) (i : Nat) : Handle := (f.original :: f.clones).getD i f.original

def seen (f : DispatcherClones σ) (i : Nat) : World σ where
  dispatcher :=
    { topic := (f.handle i).topic
      waiting := (f.trackers (f.handle i).tracker).waiting
      unanswered := (f.trackers (f.handle i).tracker).unanswered
      isStopped := f.isCancelled (f.handle i).token }
  isClosed := (f.trackers (f.handle i).tracker).isClosed
  record := f.record

/-- Keeps what a step made of the dispatcher where clone `i` leads to. -/
def keep (f : DispatcherClones σ) (i : Nat) (w : World σ) : DispatcherClones σ :=
  { f with
    trackers := Function.update f.trackers (f.handle i).tracker
      ⟨w.dispatcher.waiting, w.dispatcher.unanswered, w.isClosed⟩
    isCancelled := Function.update f.isCancelled (f.handle i).token w.dispatcher.isStopped
    record := w.record }

def act (sink : Sink σ) (f : DispatcherClones σ) : Act → DispatcherClones σ
  | .clone i => { f with clones := f.clones ++ [f.handle i] }
  | .step i x => f.keep i ((f.seen i).step sink x)

def run (sink : Sink σ) (f : DispatcherClones σ) (acts : List Act) : DispatcherClones σ :=
  acts.foldl (act sink) f

/-- All clones lead to the same. -/
def IsShared (f : DispatcherClones σ) : Prop := ∀ h ∈ f.clones, h = f.original

variable {sink : Sink σ} {f : DispatcherClones σ}

theorem IsShared.handle_eq (h : f.IsShared) (i : Nat) : f.handle i = f.original := by
  rw [handle, List.getD_eq_getElem?_getD]
  cases hi : (f.original :: f.clones)[i]? with
  | none => rfl
  | some clone =>
    rcases List.mem_cons.1 (List.mem_of_getElem? hi) with rfl | hclone
    · rfl
    · exact h clone hclone

theorem IsShared.act (h : f.IsShared) (a : Act) : (f.act sink a).IsShared := by
  cases a with
  | clone i =>
    intro clone hclone
    rcases List.mem_append.1 hclone with hold | hnew
    · exact h clone hold
    · exact (List.mem_singleton.1 hnew).trans (h.handle_eq i)
  | step i x => exact h

theorem IsShared.seen_eq (h : f.IsShared) (i j : Nat) : f.seen i = f.seen j := by
  rw [seen, seen, h.handle_eq i, h.handle_eq j]

theorem IsShared.seen_keep (h : f.IsShared) (i j : Nat) {w : World σ}
    (htopic : w.dispatcher.topic = f.original.topic) : (f.keep i w).seen j = w := by
  have hj : (f.keep i w).handle j = f.original := h.handle_eq j
  rw [seen, hj]
  simp only [keep, h.handle_eq i, Function.update_self, ← htopic]

/-- What is done with one clone, every clone sees. -/
theorem IsShared.seen_act (h : f.IsShared) (a : Act) (j : Nat) :
    (f.act sink a).seen j = (f.seen j).run sink (Act.steps [a]) := by
  cases a with
  | clone i =>
    have hj : (f.act sink (.clone i)).handle j = f.original := (h.act (.clone i)).handle_eq j
    rw [seen, hj, ← h.handle_eq j]
    rfl
  | step i x =>
    have htopic : ((f.seen i).step sink x).dispatcher.topic = f.original.topic := by
      rw [World.topic_step, seen, h.handle_eq i]
    rw [h.seen_eq j i]
    exact h.seen_keep i j htopic

/-- The clones see what the steps of all of them together lead to. -/
theorem IsShared.seen_run (h : f.IsShared) (acts : List Act) (j : Nat) :
    (f.run sink acts).seen j = (f.seen j).run sink (Act.steps acts) := by
  induction acts generalizing f with
  | nil => rfl
  | cons a acts ih =>
    have hsteps : Act.steps (a :: acts) = Act.steps [a] ++ Act.steps acts :=
      List.filterMap_append (l := [a])
    rw [hsteps, World.run_append, ← h.seen_act a j]
    exact ih (h.act a)

end DispatcherClones

/-! ## Conservation -/

namespace Act

def dispatched (acts : List Act) : List Mutation := (steps acts).dispatched

def IsRunning (acts : List Act) : Prop := (steps acts).IsRunning

def NoAnswers (acts : List Act) : Prop := (steps acts).NoAnswers

theorem steps_concat (acts : List Act) (i : Nat) (x : Step) :
    steps (acts ++ [.step i x]) = steps acts ++ [x] := by
  simp [steps, step?]

theorem steps_append (acts more : List Act) : steps (acts ++ more) = steps acts ++ steps more :=
  List.filterMap_append

theorem steps_append_cons (acts more : List Act) (i : Nat) (x : Step) :
    steps (acts ++ .step i x :: more) = steps acts ++ x :: steps more := by
  simp [steps, step?]

end Act

def MutationKind.body : MutationKind → String
  | .create => "\x7b\"event\":\"CREATE\"\x7d"
  | .update => "\x7b\"event\":\"UPDATE\"\x7d"
  | .delete => "\x7b\"event\":\"DELETE\"\x7d"
  | .signup => "\x7b\"event\":\"SIGNUP\"\x7d"

/-- The notice that the sink is to get of a mutation, word for word. -/
def owed (topic : String) (m : Mutation) : Notice := ⟨topic, m.key, Bytes.ofString m.kind.body⟩

theorem notice_eq_owed (topic : String) : Mutation.notice topic = owed topic := by
  funext m
  have hpayload : m.payload = Bytes.ofString m.kind.body := by
    rw [Mutation.payload_eq]
    cases m.kind <;> decide
  rw [Mutation.notice, owed, hpayload]

/-- What clone `j` sees in the end, and what the sink was called with until then. -/
def seenAfter (sink : Sink σ) (topic : String) (s : σ) (j : Nat) (acts : List Act) : World σ :=
  ((DispatcherClones.start topic s).run sink acts).seen j

theorem seenAfter_eq (sink : Sink σ) (topic : String) (s : σ) (j : Nat) (acts : List Act) :
    seenAfter sink topic s j acts = World.after sink topic s (Act.steps acts) := by
  have hshared : (DispatcherClones.start topic s).IsShared := fun _ h => absurd h List.not_mem_nil
  rw [seenAfter, hshared.seen_run, hshared.seen_eq j 0]
  rfl

/-- What becomes of the mutations that are dispatched, by what is `seen` after acts. -/
structure Conserves (sink : Sink σ) (topic : String) (seen : List Act → World σ)
    (acts : List Act) : Prop where
  /-- The sink is called at most once for each mutation. -/
  atMostOnce : (seen acts).called.Subperm ((Act.dispatched acts).map (owed topic))
  /-- Before the dispatcher is stopped, whatever does not wait has reached the sink. -/
  balance : Act.IsRunning acts →
    ((seen acts).called ++ (seen acts).dispatcher.waiting.map (owed topic)).Perm
      ((Act.dispatched acts).map (owed topic))
  /-- Until then what waits and what the sink has left open is pending. -/
  pending : Act.IsRunning acts →
    (seen acts).pending = (seen acts).dispatcher.waiting.length + openCalls (seen acts).calls
  /-- A sink that answers at once leaves nothing open. -/
  answered : sink.Answers → openCalls (seen acts).calls = 0 ∧
    (seen acts).pending = (seen acts).dispatcher.waiting.length
  /-- With such a sink nothing is pending after a settlement or a drain. -/
  settled : sink.Answers → ∀ i x, x = .settle ∨ x = .drain →
    (seen (acts ++ [.step i x])).pending = 0
  /-- Everything dispatched before has then reached the sink exactly once. -/
  delivered : Act.IsRunning acts → ∀ i x, x = .settle ∨ x = .drain →
    (seen (acts ++ [.step i x])).called.Perm ((Act.dispatched acts).map (owed topic))
  /-- A drain returns, and leaves the tracker open, exactly if nothing is pending. -/
  returned : ∀ i, (seen (acts ++ [.step i .drain])).isClosed = false ↔
    (seen (acts ++ [.step i .drain])).pending = 0
  /-- Whenever nothing is pending, everything has been delivered and answered, at once or later. -/
  complete : Act.IsRunning acts → (seen acts).pending = 0 → openCalls (seen acts).calls = 0 ∧
    (seen acts).called.Perm ((Act.dispatched acts).map (owed topic))
  /-- Until the dispatcher is stopped, what is dispatched waits for its delivery. -/
  accepted : Act.IsRunning acts → ∀ i m,
    (seen (acts ++ [.step i (.dispatch m)])).dispatcher.waiting =
      (seen acts).dispatcher.waiting ++ [m]
  /-- A shutdown returns with nothing pending. Meanwhile the sink gets nothing but what waited before,
  as much of it as the runtime has it. -/
  stopped : ∀ i n, (seen (acts ++ [.step i (.shutdown n)])).dispatcher.isStopped = true ∧
    (seen (acts ++ [.step i (.shutdown n)])).pending = 0 ∧
      ∃ made, (seen (acts ++ [.step i (.shutdown n)])).calls = (seen acts).calls ++ made ∧
        made.map SinkCall.notice = ((seen acts).dispatcher.waiting.take n).map (owed topic)
  /-- Once it has returned, nothing is pending and the sink is left alone, whatever follows. -/
  ended : (seen acts).dispatcher.isStopped = true → (seen acts).pending = 0 → ∀ more,
    (seen (acts ++ more)).pending = 0 ∧ (seen (acts ++ more)).calls = (seen acts).calls
  /-- From its call on, whatever is dispatched is dropped. -/
  dropped : ∀ i x more, x.stops = true → (seen (acts ++ .step i x :: more)).called.Subperm
    ((Act.dispatched acts).map (owed topic))
  /-- With a sink that never answers, every delivery that has started stays pending until then. -/
  unanswered : sink.NeverAnswers → Act.NoAnswers acts → Act.IsRunning acts →
    (seen acts).dispatcher.unanswered = (seen acts).calls.length ∧
      (seen acts).pending = (Act.dispatched acts).length

/-- Nothing that is dispatched gets lost, is delivered twice, or comes back after the end, whatever
the sink, the order in which the deliveries run, and the clones that the steps are issued on. -/
theorem conserves_after (sink : Sink σ) (topic : String) (s : σ) (acts : List Act) (j : Nat) :
    Conserves sink topic (seenAfter sink topic s j) acts where
  atMostOnce := by
    rw [seenAfter_eq, ← notice_eq_owed]
    exact (World.called_after sink topic s _).trans
      ((World.accepted_sublist sink _ _).map _).subperm
  balance := by
    intro hacts
    rw [seenAfter_eq, ← notice_eq_owed]
    exact World.balance_after sink topic s hacts
  pending := by
    intro hacts
    rw [seenAfter_eq]
    exact World.pending_after sink topic s hacts
  answered := by
    intro hsink
    rw [seenAfter_eq]
    exact World.pending_after_of_answers sink topic s hsink _
  settled := by
    intro hsink i x hx
    rw [seenAfter_eq, Act.steps_concat,
      (World.pending_after_of_answers sink topic s hsink _).2, World.after_concat,
      World.waiting_step sink hx, List.length_nil]
  delivered := by
    intro hacts i x hx
    rw [seenAfter_eq, Act.steps_concat, ← notice_eq_owed]
    exact World.called_wait sink topic s hacts hx
  returned := by
    intro i
    rw [seenAfter_eq, Act.steps_concat, World.after_concat]
    exact World.isClosed_drain sink _
  complete := by
    intro hacts hnone
    rw [seenAfter_eq] at hnone ⊢
    rw [World.pending_after sink topic s hacts] at hnone
    have hwaiting : (World.after sink topic s (Act.steps acts)).dispatcher.waiting = [] :=
      List.eq_nil_of_length_eq_zero (Nat.eq_zero_of_add_eq_zero_right hnone)
    have hbalance := World.balance_after sink topic s hacts
    rw [hwaiting, List.map_nil, List.append_nil, notice_eq_owed] at hbalance
    exact ⟨Nat.eq_zero_of_add_eq_zero_left hnone, hbalance⟩
  accepted := by
    intro hacts i m
    rw [seenAfter_eq, seenAfter_eq, Act.steps_concat]
    exact World.waiting_dispatch sink topic s hacts m
  stopped := by
    intro i n
    rw [seenAfter_eq, seenAfter_eq, Act.steps_concat, World.after_concat, ← notice_eq_owed]
    have hrest := World.atRest_shutdown sink n (World.after sink topic s (Act.steps acts))
    exact ⟨hrest.isStopped, hrest.pending,
      World.called_shutdown sink topic n (World.accounted_after sink topic s _).topic_eq⟩
  ended := by
    intro hstopped hnone more
    rw [seenAfter_eq] at hstopped hnone
    rw [seenAfter_eq, seenAfter_eq, Act.steps_append]
    obtain ⟨hrest, hrecord⟩ := World.atRest_run ⟨hstopped, hnone⟩ (Act.steps more)
    rw [World.after, World.run_append]
    exact ⟨hrest.pending, congrArg Prod.snd hrecord⟩
  dropped := by
    intro i x more hx
    rw [seenAfter_eq, Act.steps_append_cons, ← notice_eq_owed]
    exact World.called_stop sink topic s hx _ _
  unanswered := by
    intro hsink hnone hacts
    rw [seenAfter_eq]
    exact World.pending_after_of_neverAnswers sink topic s hsink hacts hnone

/-- What the original dispatches is delivered when a clone settles. Of what waits when a clone stops
them both the first reaches the sink, and all that follows is dropped. -/
example :
    let acts : List Act := [.clone 0, .step 0 (.dispatch ⟨.create, "a"⟩), .step 1 .settle,
      .step 0 (.dispatch ⟨.update, "a"⟩), .step 0 (.dispatch ⟨.update, "b"⟩),
      .step 1 (.shutdown 1), .step 0 (.dispatch ⟨.delete, "a"⟩), .step 0 .drain]
    (seenAfter Sink.discard "t" () 0 acts).called =
      [owed "t" ⟨.create, "a"⟩, owed "t" ⟨.update, "a"⟩] := by decide +kernel

end TradeRegister.Delivery

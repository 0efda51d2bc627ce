import TradeRegister.Delivery.Sink

/-! # Dispatcher

Hands mutations to a sink, in the order of their dispatch and without anyone waiting for it. What
the sink answers has no effect; a delivery that it leaves open stays pending. A stopped dispatcher
drops what it is given, and its deliveries give up. One that still waits may reach the sink before:
it finds both that it can go on and that it is to give up, and the runtime decides what it sees
first.
-/

namespace TradeRegister.Delivery

structure Dispatcher where
  topic : String
  /-- Deliveries that have not reached the sink. -/
  waiting : List Mutation := []
  /-- Deliveries that the sink has left open. -/
  unanswered : Nat := 0
  isStopped : Bool := false
deriving DecidableEq

namespace Dispatcher

variable {σ : Type}

def pending (d : Dispatcher) : Nat := d.waiting.length + d.unanswered

def dispatch (d : Dispatcher) (m : Mutation) : Dispatcher :=
  if d.isStopped then d else { d with waiting := d.waiting ++ [m] }

def dispatchAll (d : Dispatcher) (ms : List Mutation) : Dispatcher := ms.foldl dispatch d

/-- Hands each mutation to the sink; the number of those it left open, and its new state. -/
def deliver (sink : Sink σ) (topic : String) : List Mutation → σ → Nat × σ
  | [], s => (0, s)
  | m :: ms, s =>
    let (reply, s) := sink (m.notice topic) s
    let (missing, s) := deliver sink topic ms s
    (if reply = .silent then missing + 1 else missing, s)

def work (sink : Sink σ) (n : Nat) (d : Dispatcher) (s : σ) : Dispatcher × σ :=
  let (missing, s) := deliver sink d.topic (d.waiting.take n) s
  ({ d with waiting := d.waiting.drop n, unanswered := d.unanswered + missing }, s)

def settle (sink : Sink σ) (d : Dispatcher) (s : σ) : Dispatcher × σ :=
  let (missing, s) := deliver sink d.topic d.waiting s
  ({ d with waiting := [], unanswered := d.unanswered + missing }, s)

/-- Waits until nothing is pending, which never happens if the sink leaves a delivery open. -/
def drain? (sink : Sink σ) (d : Dispatcher) (s : σ) : Option (Dispatcher × σ) :=
  let (d, s) := d.settle sink s
  if d.unanswered = 0 then some (d, s) else none

/-- Drops whatever is dispatched from now on, and lets the deliveries give up. -/
def cancel (d : Dispatcher) : Dispatcher := { d with isStopped := true }

/-- The first `n` waiting deliveries and `k` open ones give up. -/
def giveUp (n k : Nat) (d : Dispatcher) : Dispatcher :=
  { d with waiting := d.waiting.drop n, unanswered := d.unanswered - k }

/-- Stops, and waits until nothing is pending. Of the waiting deliveries the first `n` reach the sink,
all others give up. -/
def shutdown (sink : Sink σ) (n : Nat) (d : Dispatcher) (s : σ) : Dispatcher × σ :=
  let (d, s) := d.cancel.work sink n s
  (d.giveUp d.waiting.length d.unanswered, s)

theorem settle_eq_work (sink : Sink σ) (d : Dispatcher) (s : σ) :
    d.settle sink s = d.work sink d.waiting.length s := by
  simp [settle, work]

theorem dispatch_of_isStopped {d : Dispatcher} (h : d.isStopped = true) (m : Mutation) :
    d.dispatch m = d := by
  simp [dispatch, h]

end Dispatcher
end TradeRegister.Delivery

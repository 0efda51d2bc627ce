import TradeRegister.Delivery.Bus
import TradeRegister.Delivery.Dispatcher

/-! # What a subscriber receives

A subscriber is given every notice that was published since it subscribed, once and in order, as
long as no more of them wait for it than the bus has slots. Other subscribers make no difference.
-/

namespace TradeRegister.Delivery

namespace Bus

/-- What subscribers do at the bus. -/
inductive Attendance
  | subscribe
  | unsubscribe (i : Nat)
  | receive (i : Nat)

/-- The subscriber who does it, if it is one already. -/
def Attendance.reader? : Attendance → Option Nat
  | .subscribe => none
  | .unsubscribe i => some i
  | .receive i => some i

def attend (b : Bus) : Attendance → Bus
  | .subscribe => b.subscribe.2
  | .unsubscribe i => b.unsubscribe i
  | .receive i => ((b.receive? i).map Prod.snd).getD b

def attendAll (b : Bus) (xs : List Attendance) : Bus := xs.foldl attend b

/-- Subscriber `i` reads next at position `next`, and has missed nothing. -/
structure Reads (b : Bus) (i next : Nat) : Prop where
  slots_pos : 0 < b.slots
  kept_le : b.kept.length ≤ b.sent
  oldest_le : b.oldest ≤ next
  le_sent : next ≤ b.sent
  reader : b.readers[i]? = some (some next)

/-- The notices that wait for a subscriber at position `next`. -/
def unread (b : Bus) (next : Nat) : List Notice := b.kept.drop (next - b.oldest)

theorem receive?_eq_none_or (b : Bus) (i : Nat) :
    b.receive? i = none ∨ ∃ r position, b.receive? i = some (r, b.moveTo i position) := by
  unfold receive?
  split
  · exact .inl rfl
  · split
    · exact .inr ⟨_, _, rfl⟩
    · split
      · exact .inr ⟨_, _, rfl⟩
      · exact .inl rfl

/-- Attendance changes nothing but who reads where. -/
theorem attend_eq (b : Bus) (x : Attendance) :
    b.attend x = { b with readers := (b.attend x).readers } := by
  cases x with
  | subscribe => rfl
  | unsubscribe i => rfl
  | receive i =>
    rcases b.receive?_eq_none_or i with hnone | ⟨r, position, hsome⟩
    · rw [attend, hnone]
      rfl
    · rw [attend, hsome]
      rfl

theorem readers_attend_of_ne (b : Bus) {x : Attendance} {i : Nat} (hx : x.reader? ≠ some i)
    (hi : i < b.readers.length) : (b.attend x).readers[i]? = b.readers[i]? := by
  cases x with
  | subscribe => exact List.getElem?_append_left hi
  | unsubscribe j => exact List.getElem?_set_ne fun hj => hx (congrArg some hj)
  | receive j =>
    have hj : j ≠ i := fun hj => hx (congrArg some hj)
    rcases b.receive?_eq_none_or j with hnone | ⟨r, position, hsome⟩
    · rw [attend, hnone]
      rfl
    · rw [attend, hsome]
      exact b.readers_moveTo_of_ne hj position

theorem sent_attend (b : Bus) (x : Attendance) : (b.attend x).sent = b.sent := by
  rw [b.attend_eq x]

theorem sent_attendAll (b : Bus) (xs : List Attendance) : (b.attendAll xs).sent = b.sent :=
  List.foldlRecOn xs attend (motive := fun c => c.sent = b.sent) rfl fun c hc x _ =>
    (c.sent_attend x).trans hc

theorem moveTo_moveTo (b : Bus) (i position position' : Nat) :
    (b.moveTo i position).moveTo i position' = b.moveTo i position' := by
  simp [moveTo]

namespace Reads

variable {b : Bus} {i next : Nat}

theorem getD (h : b.Reads i next) : b.readers.getD i none = some next := by
  rw [List.getD_eq_getElem?_getD, h.reader]
  rfl

theorem hasSubscribers (h : b.Reads i next) : b.hasSubscribers = true :=
  List.any_eq_true.2 ⟨some next, List.mem_of_getElem? h.reader, rfl⟩

theorem length_unread (h : b.Reads i next) : (b.unread next).length = b.sent - next := by
  have := h.kept_le
  have := h.oldest_le
  have := h.le_sent
  unfold oldest at *
  rw [unread, List.length_drop, oldest]
  omega

theorem unread_sent (h : b.Reads i next) : b.unread b.sent = [] := by
  have := h.kept_le
  rw [unread, oldest, List.drop_eq_nil_iff]
  omega

theorem eq_sent_of_unread (h : b.Reads i next) (hunread : b.unread next = []) : next = b.sent := by
  have := h.length_unread
  have := h.le_sent
  rw [hunread, List.length_nil] at *
  omega

/-- What waits behind the first notice waits for whoever has received it. -/
theorem unread_succ (h : b.Reads i next) {n : Notice} {ns : List Notice}
    (hunread : b.unread next = n :: ns) : b.unread (next + 1) = ns := by
  rw [unread, Nat.sub_add_comm h.oldest_le, ← List.tail_drop, ← unread, hunread, List.tail_cons]

/-! ## Publishing -/

theorem publish_eq (h : b.Reads i next) (n : Notice) :
    publish n b = (.accepted, { b with sent := b.sent + 1, kept := b.keep n }) := by
  rw [publish, if_pos h.hasSubscribers]

theorem publish (h : b.Reads i next) (hroom : (b.unread next).length < b.slots) (n : Notice) :
    (Bus.publish n b).2.Reads i next := by
  rw [h.length_unread] at hroom
  have := h.slots_pos
  have := h.kept_le
  have := h.oldest_le
  have hlength := b.keep_length n
  rw [h.publish_eq]
  refine ⟨h.slots_pos, ?_, ?_, Nat.le_succ_of_le h.le_sent, h.reader⟩
  · dsimp only
    omega
  · unfold oldest at *
    dsimp only
    omega

theorem unread_publish (h : b.Reads i next) (hroom : (b.unread next).length < b.slots)
    (n : Notice) : (Bus.publish n b).2.unread next = b.unread next ++ [n] := by
  rw [h.length_unread] at hroom
  have := h.slots_pos
  have := h.kept_le
  have holdest := h.oldest_le
  have hsent := h.le_sent
  have hlength := b.keep_length n
  unfold oldest at holdest
  rw [h.publish_eq, unread, unread, oldest, oldest]
  dsimp only
  rw [hlength, keep, List.drop_drop]
  have hdrop : b.kept.length + 1 - b.slots +
      (next - (b.sent + 1 - min (b.kept.length + 1) b.slots)) =
        next - (b.sent - b.kept.length) := by
    omega
  rw [hdrop, List.drop_append_of_le_length (by omega)]

/-! ## Receiving -/

theorem moveTo (h : b.Reads i next) {position : Nat} (hnext : next ≤ position)
    (hsent : position ≤ b.sent) : (b.moveTo i position).Reads i position := by
  refine ⟨h.slots_pos, h.kept_le, Nat.le_trans h.oldest_le hnext, hsent, ?_⟩
  obtain ⟨hlength, _⟩ := List.getElem?_eq_some_iff.1 h.reader
  simp [Bus.moveTo, hlength]

theorem moveTo_self (h : b.Reads i next) : b.moveTo i next = b := by
  have hset : b.readers.set i (some next) = b.readers := by
    apply List.ext_getElem?
    intro j
    by_cases hj : i = j
    · subst hj
      obtain ⟨hlength, hreader⟩ := List.getElem?_eq_some_iff.1 h.reader
      simp [hlength, hreader]
    · rw [List.getElem?_set_ne hj]
  rw [Bus.moveTo, hset]

theorem receive?_eq (h : b.Reads i next) :
    b.receive? i = (b.unread next).head?.map fun n => (.notice n, b.moveTo i (next + 1)) := by
  rw [receive?, h.getD]
  dsimp only
  rw [if_neg (Nat.not_lt.2 h.oldest_le), unread, List.head?_drop]
  cases b.kept[next - b.oldest]? <;> rfl

theorem receiveUpTo_of_unread_eq_nil (h : b.Reads i next) (hunread : b.unread next = [])
    (limit : Nat) : b.receiveUpTo i limit = ([], b.moveTo i b.sent) := by
  obtain rfl := h.eq_sent_of_unread hunread
  rw [h.moveTo_self]
  cases limit with
  | zero => rfl
  | succ limit => rw [receiveUpTo, h.receive?_eq, hunread]; rfl

/-- Receiving gives everything that waits. -/
theorem receiveUpTo_eq (h : b.Reads i next) {limit : Nat}
    (hlimit : (b.unread next).length ≤ limit) :
    b.receiveUpTo i limit = ((b.unread next).map .notice, b.moveTo i b.sent) := by
  induction limit generalizing b next with
  | zero =>
    have hunread := List.eq_nil_of_length_eq_zero (Nat.le_zero.1 hlimit)
    rw [h.receiveUpTo_of_unread_eq_nil hunread, hunread, List.map_nil]
  | succ limit ih =>
    cases hunread : b.unread next with
    | nil => rw [h.receiveUpTo_of_unread_eq_nil hunread, List.map_nil]
    | cons n ns =>
      have hlength := h.length_unread
      rw [hunread, List.length_cons] at hlength hlimit
      have hmoved : (b.moveTo i (next + 1)).Reads i (next + 1) :=
        h.moveTo (Nat.le_succ _) (by omega)
      have hrest : (b.moveTo i (next + 1)).unread (next + 1) = ns := h.unread_succ hunread
      have hreceived := ih hmoved (by rw [hrest]; omega)
      rw [hrest, moveTo_moveTo] at hreceived
      rw [receiveUpTo, h.receive?_eq, hunread]
      simp only [List.head?_cons, Option.map_some, hreceived, List.map_cons]
      rfl

theorem receiveAll_eq (h : b.Reads i next) :
    b.receiveAll i = ((b.unread next).map .notice, b.moveTo i b.sent) := by
  refine h.receiveUpTo_eq ?_
  rw [unread, List.length_drop]
  omega

/-! ## Other subscribers -/

theorem withReaders (h : b.Reads i next) {readers : List (Option Nat)}
    (hreader : readers[i]? = b.readers[i]?) : { b with readers }.Reads i next :=
  ⟨h.slots_pos, h.kept_le, h.oldest_le, h.le_sent, hreader.trans h.reader⟩

theorem attend (h : b.Reads i next) {x : Attendance} (hx : x.reader? ≠ some i) :
    (b.attend x).Reads i next := by
  obtain ⟨hi, _⟩ := List.getElem?_eq_some_iff.1 h.reader
  rw [b.attend_eq x]
  exact h.withReaders (b.readers_attend_of_ne hx hi)

theorem attendAll (h : b.Reads i next) {xs : List Attendance}
    (hxs : ∀ x ∈ xs, x.reader? ≠ some i) : (b.attendAll xs).Reads i next :=
  List.foldlRecOn xs Bus.attend (motive := fun c => c.Reads i next) h fun _ hc x hx =>
    hc.attend (hxs x hx)

end Reads

theorem reads_subscribe {allocates : Nat → Bool} {capacity : Nat} {b : Bus}
    (h : ofCapacity? allocates capacity = some b) :
    b.subscribe.2.Reads b.subscribe.1 b.subscribe.2.sent := by
  rw [ofCapacity?] at h
  split at h
  · cases h
    refine ⟨?_, Nat.le_refl _, Nat.le_refl _, Nat.le_refl _, rfl⟩
    exact slotsFor_pos capacity
  · cases h

end Bus

namespace Dispatcher

open Bus (publish)

variable {b : Bus} {i next : Nat}

/-- Mutations that are delivered wait behind what the subscriber has not read yet. -/
theorem deliver_publish (h : b.Reads i next) (topic : String) {ms : List Mutation}
    (hroom : (b.unread next).length + ms.length ≤ b.slots) :
    (deliver publish topic ms b).2.Reads i next ∧
      (deliver publish topic ms b).2.unread next =
        b.unread next ++ ms.map (Mutation.notice topic) := by
  induction ms generalizing b with
  | nil => exact ⟨h, (List.append_nil _).symm⟩
  | cons m ms ih =>
    rw [List.length_cons] at hroom
    have hpublished := h.publish (by omega) (m.notice topic)
    have hunread := h.unread_publish (by omega) (m.notice topic)
    have hrest : ((publish (m.notice topic) b).2.unread next).length + ms.length ≤
        (publish (m.notice topic) b).2.slots := by
      rw [hunread, List.length_append, List.length_singleton, h.publish_eq]
      dsimp only
      omega
    obtain ⟨hreads, hall⟩ := ih hpublished hrest
    refine ⟨hreads, ?_⟩
    rw [deliver, hall, hunread, List.map_cons, List.append_assoc, List.singleton_append]

theorem dispatchAll_of_isStopped_eq_false {d : Dispatcher} (h : d.isStopped = false)
    (ms : List Mutation) : d.dispatchAll ms = { d with waiting := d.waiting ++ ms } := by
  induction ms generalizing d with
  | nil => simp [dispatchAll]
  | cons m ms ih =>
    have hdispatch : d.dispatch m = { d with waiting := d.waiting ++ [m] } := by simp [dispatch, h]
    have hrest := @ih { d with waiting := d.waiting ++ [m] } h
    rw [dispatchAll, List.foldl_cons, hdispatch, ← dispatchAll, hrest, List.append_assoc,
      List.singleton_append]

end Dispatcher
end TradeRegister.Delivery

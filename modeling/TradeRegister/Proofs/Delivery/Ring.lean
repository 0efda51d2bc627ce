import TradeRegister.Proofs.Delivery.Bus
import TradeRegister.Proofs.Delivery.Mailbox

/-! # One ring for all subscribers

All subscribers read from one ring, each at its own position. The ring keeps the latest notices, so
what it still has for a subscriber is what that subscriber's mailbox would have: whatever happens at
the bus, both give the same answers.
-/

namespace TradeRegister.Delivery.Bus

/-! ## Histories of a bus -/

inductive Action
  | attend (x : Attendance)
  | publish (n : Notice)

/-- What an action is to subscriber `i`, if it concerns it. -/
def Action.turn? (i : Nat) : Action → Option Mailbox.Turn
  | .publish n => some (.publish n)
  | .attend (.receive j) => if j = i then some .receive else none
  | .attend (.unsubscribe j) => if j = i then some .leave else none
  | .attend .subscribe => none

abbrev History := List Action

def History.turns (i : Nat) (xs : History) : List Mailbox.Turn := xs.filterMap (Action.turn? i)

def act (b : Bus) : Action → Bus
  | .attend x => b.attend x
  | .publish n => (publish n b).2

def after (b : Bus) (xs : History) : Bus := xs.foldl act b

/-- What an action shows to subscriber `i`. -/
def answers (b : Bus) (i : Nat) : Action → List (Option Received)
  | .attend (.receive j) => if j = i then [(b.receive? i).map Prod.fst] else []
  | _ => []

def heard (i : Nat) : History → Bus → List (Option Received)
  | [], _ => []
  | x :: xs, b => b.answers i x ++ heard i xs (b.act x)

def told (i : Nat) (xs : History) (b : Bus) : List Received := (heard i xs b).reduceOption

/-- The notices that are published, and not refused. -/
def published : History → Bus → List Notice
  | [], _ => []
  | .publish n :: xs, b =>
    if (publish n b).1 = .accepted then n :: published xs (b.act (.publish n))
    else published xs (b.act (.publish n))
  | .attend x :: xs, b => published xs (b.attend x)

/-- What subscriber `i` receives if it reads on until nothing is left. -/
def leftFor (i : Nat) (b : Bus) : List Received := (b.receiveAll i).1

/-! ## A ring -/

structure IsRing (b : Bus) : Prop where
  slots_pos : 0 < b.slots
  length_kept : b.kept.length = min b.sent b.slots

namespace IsRing

variable {b : Bus}

theorem oldest_eq (h : b.IsRing) : b.oldest = b.sent - b.slots := by
  have := h.length_kept
  rw [oldest]
  omega

theorem publish (h : b.IsRing) (n : Notice) : (Bus.publish n b).2.IsRing := by
  rw [Bus.publish]
  split
  · refine ⟨h.slots_pos, ?_⟩
    have := h.length_kept
    have := b.keep_length n
    dsimp only
    omega
  · exact h

theorem attend (h : b.IsRing) (x : Attendance) : (b.attend x).IsRing := by
  rw [b.attend_eq x]
  exact ⟨h.slots_pos, h.length_kept⟩

theorem act (h : b.IsRing) (x : Action) : (b.act x).IsRing := by
  cases x with
  | attend x => exact h.attend x
  | publish n => exact h.publish n

theorem after (h : b.IsRing) (xs : History) : (b.after xs).IsRing :=
  List.foldlRecOn xs Bus.act (motive := IsRing) h fun _ hc x _ => hc.act x

end IsRing

/-! ## Mailboxes on the ring -/

/-- Subscriber `i`, whose next position is `next`, finds on the ring what its mailbox holds: the
ring has lost the notices that are overdue. -/
structure Serves (b : Bus) (i next : Nat) (m : Mailbox) : Prop where
  isOpen : m.isOpen = true
  slots : m.slots = b.slots
  reader : b.readers[i]? = some (some next)
  le_sent : next ≤ b.sent
  length_waiting : m.waiting.length = b.sent - next
  available : m.available = b.unread next

namespace Serves

variable {b : Bus} {i next : Nat} {m : Mailbox}

theorem getD (h : b.Serves i next m) : b.readers.getD i none = some next := by
  rw [List.getD_eq_getElem?_getD, h.reader]
  rfl

theorem hasSubscribers (h : b.Serves i next m) : b.hasSubscribers = true :=
  List.any_eq_true.2 ⟨some next, List.mem_of_getElem? h.reader, rfl⟩

theorem publish_eq (h : b.Serves i next m) (n : Notice) :
    Bus.publish n b = (.accepted, { b with sent := b.sent + 1, kept := b.keep n }) := by
  rw [Bus.publish, if_pos h.hasSubscribers]

theorem overdue_eq (h : b.Serves i next m) (hring : b.IsRing) : m.overdue = b.oldest - next := by
  rw [Mailbox.overdue, h.length_waiting, h.slots, hring.oldest_eq]
  omega

theorem publish (h : b.Serves i next m) (hring : b.IsRing) (n : Notice) :
    (Bus.publish n b).2.Serves i next (m.turn (.publish n)) := by
  have hnext := hring.publish n
  have holdest := hring.oldest_eq
  have holdest' := hnext.oldest_eq
  have hkept := hring.length_kept
  have hlength := h.length_waiting
  have hoverdue := h.overdue_eq hring
  have hle := h.le_sent
  have hpos := hring.slots_pos
  rw [h.publish_eq] at holdest' ⊢
  rw [Mailbox.turn, if_pos h.isOpen]
  dsimp only at holdest'
  refine ⟨h.isOpen, h.slots, h.reader, Nat.le_succ_of_le hle, ?_, ?_⟩
  · rw [List.length_append, List.length_singleton, hlength]
    dsimp only
    omega
  · have hlost : m.overdue ≤ m.waiting.length := Nat.sub_le _ _
    obtain ⟨step, hstep⟩ : ∃ step, m.waiting.length + 1 - b.slots = m.overdue + step :=
      ⟨_, (Nat.add_sub_cancel' (by rw [Mailbox.overdue, h.slots]; omega)).symm⟩
    rw [Mailbox.available, Mailbox.overdue]
    dsimp only
    rw [List.length_append, List.length_singleton, h.slots, hstep, ← List.drop_drop,
      List.drop_append_of_le_length hlost, ← Mailbox.available, h.available, unread,
      ← List.drop_append_of_le_length (by omega), List.drop_drop, unread, holdest', keep,
      List.drop_drop]
    congr 1
    rw [Mailbox.overdue, h.slots] at hstep
    omega

theorem moveTo (h : b.Serves i next m) {position : Nat} {waiting : List Notice}
    (hle : position ≤ b.sent) (hlength : waiting.length = b.sent - position)
    (havailable : Mailbox.available { m with waiting } = b.unread position) :
    (b.moveTo i position).Serves i position { m with waiting } := by
  refine ⟨h.isOpen, h.slots, ?_, hle, hlength, havailable⟩
  obtain ⟨hi, _⟩ := List.getElem?_eq_some_iff.1 h.reader
  simp [Bus.moveTo, hi]

/-- The ring and the mailbox give subscriber `i` the same answer, and serve it alike after it. -/
theorem receive (h : b.Serves i next m) (hring : b.IsRing) :
    (b.receive? i).map Prod.fst = m.receive?.map Prod.fst ∧
      ∃ next', (b.attend (.receive i)).Serves i next' (m.turn .receive) := by
  have hoverdue := h.overdue_eq hring
  have holdest : b.oldest ≤ b.sent := Nat.sub_le _ _
  rw [Bus.attend, Mailbox.turn, receive?, h.getD]
  dsimp only
  by_cases hover : next < b.oldest
  · have hpos : 0 < m.overdue := by omega
    rw [if_pos hover, m.receive?_of_overdue hpos, hoverdue]
    have hlength : m.available.length = b.sent - b.oldest := by
      have := h.length_waiting
      rw [Mailbox.available, List.length_drop]
      omega
    refine ⟨rfl, b.oldest, h.moveTo holdest hlength ?_⟩
    have hzero : Mailbox.overdue { m with waiting := m.available } = 0 := by
      have := hring.oldest_eq
      rw [Mailbox.overdue]
      dsimp only
      rw [hlength, h.slots]
      omega
    rw [Mailbox.available_eq hzero, h.available, unread, unread, Nat.sub_self,
      Nat.sub_eq_zero_of_le (Nat.le_of_lt hover)]
  · have hzero : m.overdue = 0 := by omega
    have hwaiting : m.waiting = b.unread next := by rw [← m.available_eq hzero, h.available]
    have hfirst : b.kept[next - b.oldest]? = m.waiting.head? := by
      rw [hwaiting, unread, List.head?_drop]
    rw [if_neg hover, hfirst]
    cases hw : m.waiting with
    | nil =>
      rw [m.receive?_of_nil hw]
      exact ⟨rfl, next, h⟩
    | cons n rest =>
      rw [m.receive?_of_cons hzero hw]
      have hlength := h.length_waiting
      rw [hw, List.length_cons] at hlength
      refine ⟨rfl, next + 1, h.moveTo (by omega) (by omega) ?_⟩
      have hrest : rest = b.unread (next + 1) := by
        rw [unread, Nat.sub_add_comm (Nat.not_lt.1 hover), ← List.tail_drop, ← unread, ← hwaiting,
          hw, List.tail_cons]
      have hstill : Mailbox.overdue { m with waiting := rest } = 0 := by
        rw [Mailbox.overdue, hw, List.length_cons] at hzero
        rw [Mailbox.overdue]
        dsimp only
        omega
      rw [Mailbox.available_eq hstill]
      exact hrest

theorem withReaders (h : b.Serves i next m) {readers : List (Option Nat)}
    (hreader : readers[i]? = b.readers[i]?) : { b with readers }.Serves i next m :=
  ⟨h.isOpen, h.slots, hreader.trans h.reader, h.le_sent, h.length_waiting, h.available⟩

theorem attend_other (h : b.Serves i next m) {x : Attendance} (hx : x.reader? ≠ some i) :
    (b.attend x).Serves i next m := by
  obtain ⟨hi, _⟩ := List.getElem?_eq_some_iff.1 h.reader
  rw [b.attend_eq x]
  exact h.withReaders (b.readers_attend_of_ne hx hi)

/-- With nothing overdue, nothing was missed. -/
theorem reads (h : b.Serves i next m) (hring : b.IsRing) (hzero : m.overdue = 0) :
    b.Reads i next := by
  have := h.overdue_eq hring
  have := hring.length_kept
  exact ⟨hring.slots_pos, by omega, by omega, h.le_sent, h.reader⟩

end Serves

/-- The report that so many notices are missed, unless it is none. -/
def report (missed : Nat) : List Received := if 0 < missed then [.lagged missed] else []

/-- Whoever reads on is first told what it missed, and then given the rest. -/
theorem Serves.leftFor_eq {b : Bus} {i next : Nat} {m : Mailbox} (h : b.Serves i next m)
    (hring : b.IsRing) : leftFor i b = report m.overdue ++ m.available.map .notice := by
  have hoverdue := h.overdue_eq hring
  rw [leftFor]
  by_cases hover : next < b.oldest
  · have hreads : (b.moveTo i b.oldest).Reads i b.oldest := by
      obtain ⟨hi, _⟩ := List.getElem?_eq_some_iff.1 h.reader
      have := hring.length_kept
      refine ⟨hring.slots_pos, ?_, Nat.le_refl _, Nat.sub_le _ _, by simp [Bus.moveTo, hi]⟩
      change b.kept.length ≤ b.sent
      omega
    have hunread : (b.moveTo i b.oldest).unread b.oldest = b.unread next := by
      rw [unread, unread, Nat.sub_eq_zero_of_le (Nat.le_of_lt hover)]
      exact congrArg b.kept.drop (Nat.sub_self _)
    have hlength : ((b.moveTo i b.oldest).unread b.oldest).length ≤ b.kept.length := by
      rw [hunread, unread, List.length_drop]
      omega
    have hpos : 0 < m.overdue := by omega
    rw [receiveAll, receiveUpTo, receive?, h.getD]
    simp only [if_pos hover]
    rw [hreads.receiveUpTo_eq hlength, hunread, ← h.available, report, if_pos hpos, hoverdue]
    rfl
  · have hzero : m.overdue = 0 := by omega
    rw [(h.reads hring hzero).receiveAll_eq, ← h.available, hzero]
    rfl

/-! ## Mailboxes over histories -/

theorem turns_cons (i : Nat) (x : Action) (xs : History) :
    History.turns i (x :: xs) = History.turns i [x] ++ History.turns i xs :=
  List.filterMap_append (l := [x])

theorem leave_notMem_turns {i : Nat} {xs : History} (hstays : .attend (.unsubscribe i) ∉ xs) :
    .leave ∉ xs.turns i := by
  intro hleave
  obtain ⟨x, hx, hturn⟩ := List.mem_filterMap.1 hleave
  cases x with
  | publish n => cases hturn
  | attend x =>
    cases x with
    | subscribe => cases hturn
    | receive j =>
      rw [Action.turn?] at hturn
      split at hturn <;> cases hturn
    | unsubscribe j =>
      rw [Action.turn?] at hturn
      split at hturn
      · next hj => exact hstays (hj ▸ hx)
      · cases hturn

@[simp] theorem turns_leave (i : Nat) :
    History.turns i [.attend (.unsubscribe i)] = [.leave] := by
  simp [History.turns, Action.turn?]

@[simp] theorem turns_receive (i : Nat) :
    History.turns i [.attend (.receive i)] = [.receive] := by
  simp [History.turns, Action.turn?]

theorem turns_of_ne (b : Bus) {i : Nat} {x : Attendance} (hx : x.reader? ≠ some i) :
    History.turns i [.attend x] = [] ∧ b.answers i (.attend x) = [] := by
  cases x with
  | subscribe => exact ⟨rfl, rfl⟩
  | unsubscribe j =>
    have hj : j ≠ i := fun hj => hx (congrArg some hj)
    simp [History.turns, Action.turn?, answers, hj]
  | receive j =>
    have hj : j ≠ i := fun hj => hx (congrArg some hj)
    simp [History.turns, Action.turn?, answers, hj]

/-- Subscriber `i` is served as its mailbox would, or both know that it has left. -/
inductive Follows (b : Bus) (i : Nat) (m : Mailbox) : Prop
  | serves {next : Nat} (h : b.Serves i next m)
  | left (reader : b.readers[i]? = some none) (isClosed : m.isOpen = false)
      (waiting : m.waiting = [])

namespace Follows

variable {b : Bus} {i : Nat} {m : Mailbox}

theorem exists_serves (h : b.Follows i m) (hopen : m.isOpen = true) :
    ∃ next, b.Serves i next m := by
  cases h with
  | serves h => exact ⟨_, h⟩
  | left _ hclosed _ => rw [hclosed] at hopen; cases hopen

theorem exists_reader (h : b.Follows i m) : ∃ reader, b.readers[i]? = some reader := by
  cases h with
  | serves h => exact ⟨_, h.reader⟩
  | left hreader _ _ => exact ⟨_, hreader⟩

theorem receive?_of_left (hreader : b.readers[i]? = some none) : b.receive? i = none := by
  rw [receive?, List.getD_eq_getElem?_getD, hreader]
  rfl

/-- Whoever has left stays away. -/
theorem act_left (hreader : b.readers[i]? = some none) (x : Action) :
    (b.act x).readers[i]? = some none := by
  obtain ⟨hi, _⟩ := List.getElem?_eq_some_iff.1 hreader
  cases x with
  | publish n =>
    rw [act, Bus.publish]
    split <;> exact hreader
  | attend x =>
    by_cases hx : x.reader? = some i
    · cases x with
      | subscribe => cases hx
      | unsubscribe j =>
        obtain rfl : j = i := Option.some.inj hx
        exact List.getElem?_set_self hi
      | receive j =>
        obtain rfl : j = i := Option.some.inj hx
        rw [act, attend, receive?_of_left hreader]
        exact hreader
    · exact (b.readers_attend_of_ne hx hi).trans hreader

theorem act (h : b.Follows i m) (hring : b.IsRing) (x : Action) :
    b.answers i x = m.heard (History.turns i [x]) ∧
      (b.act x).Follows i (m.turns (History.turns i [x])) := by
  cases x with
  | publish n =>
    refine ⟨rfl, ?_⟩
    cases h with
    | serves h => exact .serves (h.publish hring n)
    | left hreader hclosed hwaiting =>
      have hturn : m.turn (.publish n) = m := by simp [Mailbox.turn, hclosed]
      change Follows _ i (m.turn (.publish n))
      rw [hturn]
      exact .left (act_left hreader _) hclosed hwaiting
  | attend x =>
    by_cases hx : x.reader? = some i
    · cases x with
      | subscribe => cases hx
      | unsubscribe j =>
        obtain rfl : j = i := Option.some.inj hx
        rw [turns_leave]
        refine ⟨rfl, .left ?_ rfl rfl⟩
        obtain ⟨reader, hreader⟩ := h.exists_reader
        obtain ⟨hi, _⟩ := List.getElem?_eq_some_iff.1 hreader
        exact List.getElem?_set_self hi
      | receive j =>
        obtain rfl : j = i := Option.some.inj hx
        rw [turns_receive, answers, if_pos rfl]
        cases h with
        | serves h =>
          obtain ⟨hanswer, next, hserves⟩ := h.receive hring
          exact ⟨congrArg (fun r => [r]) hanswer, .serves hserves⟩
        | left hreader hclosed hwaiting =>
          have hturn : m.turn .receive = m := by rw [Mailbox.turn, m.receive?_of_nil hwaiting]; rfl
          refine ⟨?_, ?_⟩
          · rw [receive?_of_left hreader, Mailbox.heard, Mailbox.answers, m.receive?_of_nil hwaiting]
            rfl
          · change Follows _ j (m.turn .receive)
            rw [hturn]
            exact .left (act_left hreader _) hclosed hwaiting
    · obtain ⟨hturns, hanswers⟩ := turns_of_ne b hx
      rw [hturns, hanswers]
      refine ⟨rfl, ?_⟩
      cases h with
      | serves h => exact .serves (h.attend_other hx)
      | left hreader hclosed hwaiting => exact .left (act_left hreader _) hclosed hwaiting

/-- Whatever others do, subscriber `i` hears what its mailbox would tell it. -/
theorem run (h : b.Follows i m) (hring : b.IsRing) (xs : History) :
    heard i xs b = m.heard (xs.turns i) ∧ (b.after xs).Follows i (m.turns (xs.turns i)) := by
  induction xs generalizing b m with
  | nil => exact ⟨rfl, h⟩
  | cons x xs ih =>
    obtain ⟨hanswers, hnext⟩ := h.act hring x
    obtain ⟨hheard, hafter⟩ := ih hnext (hring.act x)
    rw [turns_cons]
    refine ⟨?_, ?_⟩
    · rw [heard, hanswers, hheard, Mailbox.heard_append]
    · rw [Mailbox.turns, List.foldl_append]
      exact hafter

/-- Until it leaves, everything that is published is put into its mailbox. -/
theorem published_eq (h : b.Follows i m) (hring : b.IsRing) (hopen : m.isOpen = true) {xs : History}
    (hstays : .attend (.unsubscribe i) ∉ xs) :
    published xs b = (xs.turns i).filterMap Mailbox.Turn.published? := by
  induction xs generalizing b m with
  | nil => rfl
  | cons x xs ih =>
    have hx : x ≠ .attend (.unsubscribe i) := (List.ne_of_not_mem_cons hstays).symm
    have hrest := List.not_mem_of_not_mem_cons hstays
    obtain ⟨-, hnext⟩ := h.act hring x
    have hopen' : (m.turns (History.turns i [x])).isOpen = true :=
      m.isOpen_turns hopen (leave_notMem_turns (by simpa using hx.symm))
    have hpublished := ih hnext (hring.act x) hopen' hrest
    rw [turns_cons, List.filterMap_append, ← hpublished]
    cases x with
    | publish n =>
      obtain ⟨next, hserves⟩ := h.exists_serves hopen
      rw [published, hserves.publish_eq, if_pos rfl]
      rfl
    | attend x =>
      have hnone : (History.turns i [.attend x]).filterMap Mailbox.Turn.published? = [] := by
        by_cases hx : x.reader? = some i
        · cases x with
          | subscribe => rfl
          | unsubscribe j => obtain rfl : j = i := Option.some.inj hx; rw [turns_leave]; rfl
          | receive j => obtain rfl : j = i := Option.some.inj hx; rw [turns_receive]; rfl
        · rw [(turns_of_ne b hx).1]
          rfl
      rw [hnone]
      rfl

end Follows
end TradeRegister.Delivery.Bus

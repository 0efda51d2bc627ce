import Mathlib.Data.List.Induction
import TradeRegister.Proofs.Delivery.Ring

/-! # Streams of subscribers

Whoever subscribes gets an account of every notice that is published from then on: it is given, in
order, or reported as missed, or still there to be read. Only the oldest unread notices are missed,
and none as long as all of them have room. Nobody's reading or leaving makes a difference to anybody
else. A notice is refused exactly when nobody is there, and nobody ever hears of it.
-/

namespace TradeRegister.Delivery.Bus

open Received (notices lost settled Consumes)

/-! ## Who is there -/

def Action.isSubscription : Action → Bool
  | .attend .subscribe => true
  | _ => false

namespace History

/-- The number of subscribers so far, which is the number of the next one. -/
def subscriptions (xs : History) : Nat := xs.countP Action.isSubscription

def IsLive (xs : History) (i : Nat) : Prop :=
  ∃ before since : History, xs = before ++ .attend .subscribe :: since ∧ before.subscriptions = i ∧
    .attend (.unsubscribe i) ∉ since

theorem not_isLive_nil (i : Nat) : ¬ IsLive [] i := by
  rintro ⟨before, since, h, -⟩
  cases before <;> cases h

theorem isLive_concat_iff {xs : History} {x : Action} {i : Nat} :
    IsLive (xs ++ [x]) i ↔
      x = .attend .subscribe ∧ xs.subscriptions = i ∨
        IsLive xs i ∧ x ≠ .attend (.unsubscribe i) := by
  constructor
  · rintro ⟨before, since, h, hi, hsince⟩
    rcases List.eq_nil_or_concat since with rfl | ⟨since, y, rfl⟩
    · obtain ⟨rfl, hx⟩ := List.append_inj' h rfl
      exact .inl ⟨List.head_eq_of_cons_eq hx, hi⟩
    · rw [List.concat_eq_append, ← List.cons_append, ← List.append_assoc] at h
      obtain ⟨rfl, hx⟩ := List.append_inj' h rfl
      obtain rfl : x = y := List.head_eq_of_cons_eq hx
      rw [List.concat_eq_append, List.mem_append, List.mem_singleton, not_or] at hsince
      exact .inr ⟨⟨before, since, rfl, hi, hsince.1⟩, fun hy => hsince.2 hy.symm⟩
  · rintro (⟨rfl, hi⟩ | ⟨⟨before, since, rfl, hi, hsince⟩, hx⟩)
    · exact ⟨xs, [], rfl, hi, List.not_mem_nil⟩
    · refine ⟨before, since ++ [x], by simp, hi, ?_⟩
      rw [List.mem_append, List.mem_singleton, not_or]
      exact ⟨hsince, fun h => hx h.symm⟩

end History

variable {b : Bus}

theorem after_concat (b : Bus) (xs : History) (x : Action) :
    b.after (xs ++ [x]) = (b.after xs).act x := List.foldl_concat ..

theorem hasSubscribers_iff : b.hasSubscribers = true ↔ ∃ i, b.isSubscribed i = true := by
  rw [hasSubscribers, List.any_eq_true]
  constructor
  · rintro ⟨reader, hreader, hsome⟩
    obtain ⟨i, hi⟩ := List.mem_iff_getElem?.1 hreader
    exact ⟨i, by rw [isSubscribed, List.getD_eq_getElem?_getD, hi]; exact hsome⟩
  · rintro ⟨i, hi⟩
    rw [isSubscribed, List.getD_eq_getElem?_getD] at hi
    cases hreader : b.readers[i]? with
    | none => rw [hreader] at hi; cases hi
    | some reader =>
      rw [hreader] at hi
      exact ⟨reader, List.mem_of_getElem? hreader, hi⟩

theorem length_readers_act (b : Bus) (x : Action) :
    (b.act x).readers.length = b.readers.length + History.subscriptions [x] := by
  cases x with
  | publish n => rw [act, publish]; split <;> rfl
  | attend x =>
    cases x with
    | subscribe => exact List.length_append
    | unsubscribe i => exact List.length_set
    | receive i =>
      rcases b.receive?_eq_none_or i with hnone | ⟨r, position, hsome⟩
      · rw [act, attend, hnone]
        rfl
      · rw [act, attend, hsome]
        exact List.length_set

theorem length_readers_after (hb : b.readers = []) (xs : History) :
    (b.after xs).readers.length = xs.subscriptions := by
  induction xs using List.reverseRecOn with
  | nil => rw [after, List.foldl_nil, hb]; rfl
  | append_singleton xs x ih =>
    rw [after_concat, length_readers_act, ih, History.subscriptions, History.subscriptions,
      History.subscriptions, List.countP_append]

theorem exists_reader_of_receive? {i : Nat} {r : Received × Bus} (h : b.receive? i = some r) :
    ∃ next, b.readers[i]? = some (some next) := by
  rw [receive?, List.getD_eq_getElem?_getD] at h
  cases hreader : b.readers[i]? with
  | none => rw [hreader] at h; cases h
  | some reader =>
    cases reader with
    | none => rw [hreader] at h; cases h
    | some next => exact ⟨next, rfl⟩

theorem isSubscribed_receive (b : Bus) (i j : Nat) :
    (b.attend (.receive j)).isSubscribed i = b.isSubscribed i := by
  rcases b.receive?_eq_none_or j with hnone | ⟨r, position, hsome⟩
  · rw [attend, hnone]
    rfl
  · rw [attend, hsome]
    change (b.moveTo j position).isSubscribed i = _
    rw [isSubscribed, isSubscribed, List.getD_eq_getElem?_getD, List.getD_eq_getElem?_getD]
    by_cases hj : j = i
    · subst hj
      obtain ⟨next, hreader⟩ := exists_reader_of_receive? hsome
      obtain ⟨hlt, hreader⟩ := List.getElem?_eq_some_iff.1 hreader
      simp [moveTo, hlt, hreader]
    · rw [b.readers_moveTo_of_ne hj]

theorem isSubscribed_act_iff (b : Bus) (x : Action) (i : Nat) :
    (b.act x).isSubscribed i = true ↔
      x = .attend .subscribe ∧ b.readers.length = i ∨
        b.isSubscribed i = true ∧ x ≠ .attend (.unsubscribe i) := by
  cases x with
  | publish n =>
    have hsame : (b.act (.publish n)).isSubscribed i = b.isSubscribed i := by
      rw [act, publish]
      split <;> rfl
    simp [hsame]
  | attend x =>
    cases x with
    | subscribe =>
      simp only [act, attend, subscribe, isSubscribed, List.getD_eq_getElem?_getD]
      rcases Nat.lt_trichotomy i b.readers.length with hlt | rfl | hgt
      · simp [List.getElem?_append_left hlt, Nat.ne_of_gt hlt]
      · simp
      · have hout : (b.readers ++ [some b.sent]).length ≤ i := by simpa using Nat.succ_le_of_lt hgt
        simp [List.getElem?_eq_none hout, List.getElem?_eq_none (Nat.le_of_lt hgt),
          Nat.ne_of_lt hgt]
    | unsubscribe j =>
      simp only [act, attend, unsubscribe, isSubscribed, List.getD_eq_getElem?_getD,
        List.getElem?_set]
      by_cases hj : j = i
      · subst hj
        by_cases hlt : j < b.readers.length <;> simp [hlt]
      · simp [hj]
    | receive j =>
      rw [act, b.isSubscribed_receive]
      simp

theorem isSubscribed_after_iff (hb : b.readers = []) (xs : History) (i : Nat) :
    (b.after xs).isSubscribed i = true ↔ xs.IsLive i := by
  induction xs using List.reverseRecOn with
  | nil =>
    refine iff_of_false ?_ (History.not_isLive_nil i)
    rw [after, List.foldl_nil, isSubscribed, hb]
    simp
  | append_singleton xs x ih =>
    rw [after_concat, isSubscribed_act_iff, ih, length_readers_after hb, History.isLive_concat_iff]

/-- A notice is refused when nobody is there, and accepted otherwise. -/
theorem publish_cases (b : Bus) (n : Notice) :
    (publish n b).1 = .accepted ∧ b.hasSubscribers = true ∨
      publish n b = (.refused (.noSubscribers n.topic), b) ∧ b.hasSubscribers = false := by
  cases h : b.hasSubscribers with
  | true => exact .inl ⟨by rw [publish, if_pos h], rfl⟩
  | false => exact .inr ⟨publish_of_not_hasSubscribers h n, rfl⟩

/-! ## Joining a bus -/

/-- The bus as the next subscriber finds it when it has just subscribed. -/
def joined (b : Bus) (before : History) : Bus := (b.after before).subscribe.2

theorem isRing_of_ofCapacity? {allocates : Nat → Bool} {capacity : Nat}
    (h : ofCapacity? allocates capacity = some b) :
    b.IsRing ∧ b.readers = [] ∧ b.slots = slotsFor capacity := by
  rw [ofCapacity?] at h
  split at h
  · cases h
    exact ⟨⟨slotsFor_pos capacity, (Nat.zero_min _).symm⟩, rfl, rfl⟩
  · cases h

theorem slots_act (b : Bus) (x : Action) : (b.act x).slots = b.slots := by
  cases x with
  | publish n => rw [act, publish]; split <;> rfl
  | attend x => rw [act, b.attend_eq x]

theorem slots_after (b : Bus) (xs : History) : (b.after xs).slots = b.slots :=
  List.foldlRecOn xs act (motive := fun c => c.slots = b.slots) rfl fun c hc x _ =>
    (c.slots_act x).trans hc

theorem serves_subscribe (h : b.IsRing) :
    b.subscribe.2.Serves b.subscribe.1 b.sent { slots := b.slots } := by
  have := h.length_kept
  refine ⟨rfl, rfl, ?_, Nat.le_refl _, (Nat.sub_self _).symm, ?_⟩
  · exact List.getElem?_concat_length
  · rw [Mailbox.available, List.drop_nil, unread, eq_comm, List.drop_eq_nil_iff]
    change b.kept.length ≤ b.sent - (b.sent - b.kept.length)
    omega

/-! ## What one subscriber is told -/

theorem notices_leftFor (missed : Nat) (ns : List Notice) :
    notices (report missed ++ ns.map .notice) = ns := by
  rw [Received.notices_append, Received.notices_map_notice, report]
  split <;> rfl

theorem lost_leftFor (missed : Nat) (ns : List Notice) :
    lost (report missed ++ ns.map .notice) = missed := by
  rw [Received.lost_append, Received.lost_map_notice, report]
  split
  · rfl
  · rw [lost]
    omega

theorem head?_leftFor (b : Bus) (i : Nat) : (leftFor i b).head? = (b.receive? i).map Prod.fst := by
  rw [leftFor, receiveAll, receiveUpTo]
  cases b.receive? i <;> rfl

theorem published_append (xs ys : History) (b : Bus) :
    published (xs ++ ys) b = published xs b ++ published ys (b.after xs) := by
  induction xs generalizing b with
  | nil => rfl
  | cons x xs ih =>
    cases x with
    | attend x => exact ih _
    | publish n =>
      rw [List.cons_append, published, published, ih]
      split <;> rfl

theorem heard_append (i : Nat) (xs ys : History) (b : Bus) :
    heard i (xs ++ ys) b = heard i xs b ++ heard i ys (b.after xs) := by
  induction xs generalizing b with
  | nil => rfl
  | cons x xs ih => rw [List.cons_append, heard, heard, ih, List.append_assoc]; rfl

/-- What becomes of the notices that are published while subscriber `i` is there. -/
structure Accounts (capacity : Nat) (b : Bus) (i : Nat) (xs : History) : Prop where
  /-- What it received, the reports of what it missed, and what it still gets if it reads on (with
  the report that is due, if any) make up everything that was published. -/
  balance : (notices (told i xs b)).length + lost (told i xs b) +
      (lost (leftFor i (b.after xs)) + (notices (leftFor i (b.after xs))).length) =
    (published xs b).length
  /-- What it will never get are the oldest of those that it has not read. -/
  latest : notices (leftFor i (b.after xs)) =
    (published xs b).drop (settled (told i xs b) + lost (leftFor i (b.after xs)))
  /-- Its next reading answers the first thing that it would get. -/
  next : heard i (xs ++ [.attend (.receive i)]) b =
    heard i xs b ++ [(leftFor i (b.after xs)).head?]
  /-- What it missed is reported before anything else, and at once. -/
  reportFirst : leftFor i (b.after xs) = report (lost (leftFor i (b.after xs))) ++
    (notices (leftFor i (b.after xs))).map .notice
  /-- It misses nothing while at most `capacity` notices are unread. -/
  roomy : (published xs b).length - settled (told i xs b) ≤ max 1 capacity →
    lost (leftFor i (b.after xs)) = 0
  /-- No report is due to whoever has just read. -/
  punctual : ∀ earlier : History, xs = earlier ++ [.attend (.receive i)] →
    lost (leftFor i (b.after xs)) = 0

variable {i : Nat} {capacity : Nat} {m : Mailbox}

/-- What was published for a mailbox that was empty, and what of it still waits. -/
theorem Follows.consumes (h : b.Follows i m) (hring : b.IsRing) (hopen : m.isOpen = true)
    (hempty : m.waiting = []) {xs : History} (hstays : .attend (.unsubscribe i) ∉ xs) :
    Consumes (told i xs b) (published xs b) (m.turns (xs.turns i)).waiting := by
  have hconsumes := m.consumes_turns hopen (leave_notMem_turns hstays)
  rw [hempty, List.nil_append, ← h.published_eq hring hopen hstays] at hconsumes
  rwa [told, (h.run hring xs).1, ← Mailbox.told]

theorem Follows.leftFor_eq (h : b.Follows i m) (hring : b.IsRing) (hopen : m.isOpen = true) :
    leftFor i b = report m.overdue ++ m.available.map .notice := by
  obtain ⟨next, hserves⟩ := h.exists_serves hopen
  exact hserves.leftFor_eq hring

theorem Follows.accounts (h : b.Follows i m) (hring : b.IsRing) (hopen : m.isOpen = true)
    (hempty : m.waiting = []) (hslots : max 1 capacity ≤ m.slots) {xs : History}
    (hstays : .attend (.unsubscribe i) ∉ xs) : Accounts capacity b i xs := by
  have hconsumes := h.consumes hring hopen hempty hstays
  have hleft := (h.run hring xs).2.leftFor_eq (hring.after xs)
    (m.isOpen_turns hopen (leave_notMem_turns hstays))
  have hlost : lost (leftFor i (b.after xs)) = (m.turns (xs.turns i)).overdue := by
    rw [hleft, lost_leftFor]
  have hnotices : notices (leftFor i (b.after xs)) = (m.turns (xs.turns i)).available := by
    rw [hleft, notices_leftFor]
  have hbalance := hconsumes.balance
  have hoverdue : (m.turns (xs.turns i)).overdue ≤ (m.turns (xs.turns i)).waiting.length :=
    Nat.sub_le _ _
  refine ⟨?_, ?_, ?_, ?_, ?_, ?_⟩
  · rw [hlost, hnotices, Mailbox.available, List.length_drop]
    rw [settled] at hbalance
    omega
  · rw [hlost, hnotices, Mailbox.available, hconsumes.after_eq, List.drop_drop]
  · rw [heard_append, heard, answers, if_pos rfl, head?_leftFor]
    rfl
  · rw [hlost, hnotices, hleft]
  · intro hroom
    rw [hlost]
    apply Mailbox.overdue_eq_zero
    rw [Mailbox.slots_turns]
    omega
  · rintro earlier rfl
    rw [hlost, History.turns, List.filterMap_append, ← History.turns, ← History.turns,
      turns_receive, Mailbox.turns, List.foldl_concat]
    exact Mailbox.overdue_receive _

/-- After it has left, nothing is given to it any more. -/
theorem Follows.inOrder (h : b.Follows i m) (hring : b.IsRing) (hopen : m.isOpen = true)
    (hempty : m.waiting = []) (xs : History) :
    (notices (told i xs b)).Sublist (published xs b) := by
  by_cases hleaves : .attend (.unsubscribe i) ∈ xs
  · obtain ⟨stay, later, rfl, hstays⟩ := List.eq_append_cons_of_mem hleaves
    have htold : told i (stay ++ .attend (.unsubscribe i) :: later) b = told i stay b := by
      have hclosed :
          ((m.turns (History.turns i stay)).turn .leave).told (History.turns i later) = [] :=
        Mailbox.told_of_closed rfl rfl _
      rw [told, (h.run hring _).1, ← Mailbox.told, told, (h.run hring _).1, ← Mailbox.told,
        History.turns, List.filterMap_append, Mailbox.told_append, ← History.turns, ← History.turns,
        turns_cons, turns_leave, List.singleton_append, Mailbox.told_cons, hclosed]
      exact List.append_nil _
    rw [htold, published_append]
    exact (h.consumes hring hopen hempty hstays).sublist_all.trans (List.sublist_append_left _ _)
  · exact (h.consumes hring hopen hempty hleaves).sublist_all

/-! ## All streams of a bus -/

/-- What all subscribers of a bus are told, over every history before they subscribe and after
it. -/
structure KeepsStreams (capacity : Nat) (bus : Bus) : Prop where
  /-- Subscribers are numbered in the order in which they come. -/
  number : ∀ before : History, (bus.after before).subscribe.1 = before.subscriptions
  /-- What a subscriber receives was published since it came: as it was published, in that order,
  and each notice at most once. -/
  inOrder : ∀ before xs : History,
    (notices (told before.subscriptions xs (bus.joined before))).Sublist
      (published xs (bus.joined before))
  /-- Until it leaves, every notice is accounted for. -/
  accounts : ∀ before xs : History, .attend (.unsubscribe before.subscriptions) ∉ xs →
    Accounts capacity (bus.joined before) before.subscriptions xs
  /-- The answers to its readings depend only on what is published, on when it reads and on when it
  leaves: not on what others read, nor on when they come and go. -/
  undisturbed : ∀ before before' xs xs' : History, before.subscriptions = before'.subscriptions →
    xs.turns before.subscriptions = xs'.turns before.subscriptions →
      heard before.subscriptions xs (bus.joined before) =
        heard before.subscriptions xs' (bus.joined before')
  /-- A notice is refused exactly when nobody is there. -/
  refused_iff : ∀ (xs : History) (n : Notice),
    (publish n (bus.after xs)).1 = .refused (.noSubscribers n.topic) ↔ ∀ i, ¬ xs.IsLive i
  accepted_iff : ∀ (xs : History) (n : Notice),
    (publish n (bus.after xs)).1 = .accepted ↔ ∃ i, xs.IsLive i
  /-- What was refused leaves no trace, so nobody ever receives it. -/
  traceless : ∀ (xs : History) (n : Notice), (∀ i, ¬ xs.IsLive i) →
    bus.after (xs ++ [.publish n]) = bus.after xs

/-- Over every history, a bus of any capacity accounts to its subscribers for every notice. -/
theorem keepsStreams_ofCapacity {allocates : Nat → Bool} {capacity : Nat} {bus : Bus}
    (hbus : ofCapacity? allocates capacity = some bus) : KeepsStreams capacity bus := by
  obtain ⟨hring, hreaders, hslots⟩ := isRing_of_ofCapacity? hbus
  have hnumber : ∀ before : History, (bus.after before).subscribe.1 = before.subscriptions :=
    length_readers_after hreaders
  have hfollows : ∀ before : History,
      (bus.joined before).Follows before.subscriptions { slots := bus.slots } := by
    intro before
    have hserves := serves_subscribe (hring.after before)
    rw [hnumber, slots_after] at hserves
    exact .serves hserves
  have hjoined : ∀ before : History, (bus.joined before).IsRing :=
    fun before => (hring.after before).attend .subscribe
  have hroom : max 1 capacity ≤ bus.slots := hslots ▸ le_slotsFor capacity
  have hlive : ∀ xs : History, (bus.after xs).hasSubscribers = true ↔ ∃ i, xs.IsLive i := by
    intro xs
    rw [hasSubscribers_iff]
    exact exists_congr fun i => isSubscribed_after_iff hreaders xs i
  have hdeserted : ∀ xs : History,
      (bus.after xs).hasSubscribers = false ↔ ∀ i, ¬ xs.IsLive i := by
    intro xs
    rw [← not_exists, ← hlive, Bool.not_eq_true]
  refine ⟨hnumber, ?_, ?_, ?_, ?_, ?_, ?_⟩
  · intro before xs
    exact (hfollows before).inOrder (hjoined before) rfl rfl xs
  · intro before xs hstays
    exact (hfollows before).accounts (hjoined before) rfl rfl hroom hstays
  · intro before before' xs xs' hsame hturns
    have hother := (hfollows before').run (hjoined before') xs'
    rw [← hsame] at hother
    rw [((hfollows before).run (hjoined before) xs).1, hother.1, hturns]
  · intro xs n
    rw [← hdeserted]
    rcases (bus.after xs).publish_cases n with ⟨haccepted, hsome⟩ | ⟨hrefused, hnone⟩
    · simp [haccepted, hsome]
    · simp [hrefused, hnone]
  · intro xs n
    rw [← hlive]
    rcases (bus.after xs).publish_cases n with ⟨haccepted, hsome⟩ | ⟨hrefused, hnone⟩
    · simp [haccepted, hsome]
    · simp [hrefused, hnone]
  · intro xs n hnobody
    rw [after_concat, act, publish_of_not_hasSubscribers ((hdeserted xs).2 hnobody)]

theorem keepsStreams_ofCapacity_two :
    ofCapacity? (· ≤ 4096) 2 = some { slots := 2 } ∧ KeepsStreams 2 { slots := 2 } := by
  have hbus : ofCapacity? (· ≤ 4096) 2 = some { slots := 2 } := by decide +kernel
  exact ⟨hbus, keepsStreams_ofCapacity hbus⟩

/-- Three notices on two slots: the oldest is reported as missed, the others are given. Somebody who
has left and somebody who comes later make no difference. -/
example :
    let a : Notice := ⟨"t", "a", []⟩
    let b : Notice := ⟨"t", "b", []⟩
    let c : Notice := ⟨"t", "c", []⟩
    told 1 [.publish a, .publish b, .attend .subscribe, .publish c, .attend (.receive 1),
        .attend (.unsubscribe 2), .attend (.receive 1), .attend (.receive 1)]
        (joined { slots := 2 } [.attend .subscribe, .attend (.unsubscribe 0)]) =
      [.lagged 1, .notice b, .notice c] := by decide

end TradeRegister.Delivery.Bus

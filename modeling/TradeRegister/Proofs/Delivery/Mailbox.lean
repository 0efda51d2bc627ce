import Mathlib.Data.List.ReduceOption
import TradeRegister.Delivery.Bus

/-! # Mailboxes

A mailbox belongs to one subscriber: it takes every notice that is published and gives them out in
order. Once more notices wait than it has slots, the oldest of them are overdue; the next reading
reports how many and drops them.
-/

namespace TradeRegister.Delivery

namespace Received

def notice? : Received → Option Notice
  | .notice n => some n
  | .lagged _ => none

def missed : Received → Nat
  | .notice _ => 0
  | .lagged missed => missed

def notices (rs : List Received) : List Notice := rs.filterMap notice?

/-- How many notices were reported as missed. -/
def lost : List Received → Nat
  | [] => 0
  | r :: rs => r.missed + lost rs

/-- How many notices are accounted for, given or reported. -/
def settled (rs : List Received) : Nat := (notices rs).length + lost rs

theorem notices_append (rs rs' : List Received) :
    notices (rs ++ rs') = notices rs ++ notices rs' := List.filterMap_append

theorem lost_append (rs rs' : List Received) : lost (rs ++ rs') = lost rs + lost rs' := by
  induction rs with
  | nil => rw [List.nil_append, lost, Nat.zero_add]
  | cons r rs ih => rw [List.cons_append, lost, lost, ih, Nat.add_assoc]

theorem settled_append (rs rs' : List Received) :
    settled (rs ++ rs') = settled rs + settled rs' := by
  rw [settled, settled, settled, notices_append, lost_append, List.length_append]
  omega

theorem notices_map_notice (ns : List Notice) : notices (ns.map .notice) = ns := by
  induction ns with
  | nil => rfl
  | cons n ns ih => exact congrArg (n :: ·) ih

theorem lost_map_notice (ns : List Notice) : lost (ns.map .notice) = 0 := by
  induction ns with
  | nil => rfl
  | cons n ns ih => simpa [lost, missed] using ih

/-- What was received leads from the notices that waited before to those that wait after it: the
oldest are accounted for, and those that were given are some of these, in order. -/
structure Consumes (rs : List Received) (before after : List Notice) : Prop where
  settled_le : settled rs ≤ before.length
  after_eq : after = before.drop (settled rs)
  sublist : (notices rs).Sublist (before.take (settled rs))

namespace Consumes

variable {rs rs' : List Received} {before after after' : List Notice}

theorem nil (before : List Notice) : Consumes [] before before :=
  ⟨Nat.zero_le _, rfl, List.nil_sublist _⟩

/-- More may be published in between. -/
theorem append (h : Consumes rs before after) {more : List Notice}
    (h' : Consumes rs' (after ++ more) after') : Consumes (rs ++ rs') (before ++ more) after' := by
  obtain ⟨hle, rfl, hsub⟩ := h
  rw [← List.drop_append_of_le_length hle] at h'
  obtain ⟨hle', rfl, hsub'⟩ := h'
  rw [List.length_drop] at hle'
  refine ⟨?_, ?_, ?_⟩
  · rw [settled_append]
    rw [List.length_append] at *
    omega
  · rw [settled_append, List.drop_drop]
  · rw [settled_append, notices_append, List.take_add]
    refine List.Sublist.append ?_ hsub'
    rwa [List.take_append_of_le_length hle]

theorem sublist_all (h : Consumes rs before after) : (notices rs).Sublist before :=
  h.sublist.trans (List.take_sublist _ _)

/-- Every notice is accounted for or waits. -/
theorem balance (h : Consumes rs before after) : settled rs + after.length = before.length := by
  have := h.settled_le
  rw [h.after_eq, List.length_drop]
  omega

end Consumes
end Received

open Received (notices lost settled Consumes)

structure Mailbox where
  slots : Nat
  waiting : List Notice := []
  isOpen : Bool := true

namespace Mailbox

/-- What concerns one subscriber. -/
inductive Turn
  | publish (n : Notice)
  | receive
  | leave
deriving DecidableEq

def Turn.published? : Turn → Option Notice
  | .publish n => some n
  | _ => none

/-- How many of the waiting notices have no slot any more. -/
def overdue (m : Mailbox) : Nat := m.waiting.length - m.slots

/-- The waiting notices that can still be read. -/
def available (m : Mailbox) : List Notice := m.waiting.drop m.overdue

def receive? (m : Mailbox) : Option (Received × Mailbox) :=
  if 0 < m.overdue then some (.lagged m.overdue, { m with waiting := m.available })
  else
    match m.waiting with
    | [] => none
    | n :: rest => some (.notice n, { m with waiting := rest })

def turn (m : Mailbox) : Turn → Mailbox
  | .publish n => if m.isOpen then { m with waiting := m.waiting ++ [n] } else m
  | .receive => (m.receive?.map Prod.snd).getD m
  | .leave => { m with waiting := [], isOpen := false }

def turns (m : Mailbox) (ts : List Turn) : Mailbox := ts.foldl turn m

/-- What a reading answers. -/
def answers (m : Mailbox) : Turn → List (Option Received)
  | .receive => [m.receive?.map Prod.fst]
  | _ => []

/-- The answers to all readings. -/
def heard (m : Mailbox) : List Turn → List (Option Received)
  | [] => []
  | t :: ts => m.answers t ++ (m.turn t).heard ts

/-- What is received in a row of turns. -/
def told (m : Mailbox) (ts : List Turn) : List Received := (m.heard ts).reduceOption

variable {m : Mailbox}

theorem overdue_eq_zero (h : m.waiting.length ≤ m.slots) : m.overdue = 0 := Nat.sub_eq_zero_of_le h

theorem available_eq (h : m.overdue = 0) : m.available = m.waiting := by
  rw [available, h, List.drop_zero]

theorem receive?_of_overdue (h : 0 < m.overdue) :
    m.receive? = some (.lagged m.overdue, { m with waiting := m.available }) := by
  rw [receive?, if_pos h]

theorem receive?_of_cons (h : m.overdue = 0) {n : Notice} {rest : List Notice}
    (hw : m.waiting = n :: rest) : m.receive? = some (.notice n, { m with waiting := rest }) := by
  rw [receive?, if_neg (by omega), hw]

theorem receive?_of_nil (hw : m.waiting = []) : m.receive? = none := by
  rw [receive?, if_neg (by simp [overdue, hw]), hw]

theorem heard_append (m : Mailbox) (ts ts' : List Turn) :
    m.heard (ts ++ ts') = m.heard ts ++ (m.turns ts).heard ts' := by
  induction ts generalizing m with
  | nil => rfl
  | cons t ts ih => rw [List.cons_append, heard, ih, heard, List.append_assoc]; rfl

theorem told_append (m : Mailbox) (ts ts' : List Turn) :
    m.told (ts ++ ts') = m.told ts ++ (m.turns ts).told ts' := by
  rw [told, heard_append, List.reduceOption_append]; rfl

theorem told_cons (m : Mailbox) (t : Turn) (ts : List Turn) :
    m.told (t :: ts) = m.told [t] ++ (m.turn t).told ts := m.told_append [t] ts

/-! ## Reading -/

theorem told_receive (m : Mailbox) : m.told [.receive] = (m.receive?.map Prod.fst).toList := by
  rw [told, heard, answers]
  cases m.receive? <;> rfl

/-- A reading accounts for the oldest notices: it drops those that are overdue, or gives the
first. -/
theorem consumes_receive (m : Mailbox) :
    Consumes (m.told [.receive]) m.waiting (m.turn .receive).waiting := by
  rw [told_receive, turn]
  by_cases hover : 0 < m.overdue
  · have hsettled : settled [Received.lagged m.overdue] = m.overdue := by
      simp [settled, notices, Received.notice?, lost, Received.missed]
    rw [receive?_of_overdue hover]
    change Consumes [.lagged m.overdue] m.waiting m.available
    refine ⟨?_, ?_, List.nil_sublist _⟩
    · rw [hsettled]
      exact Nat.sub_le _ _
    · rw [hsettled, available]
  · have hzero : m.overdue = 0 := by omega
    cases hw : m.waiting with
    | nil =>
      rw [receive?_of_nil hw]
      exact ⟨Nat.zero_le _, hw, List.nil_sublist _⟩
    | cons n rest =>
      rw [receive?_of_cons hzero hw]
      exact ⟨Nat.succ_le_succ (Nat.zero_le _), rfl, List.Sublist.refl _⟩

/-- A reading changes nothing but what waits. -/
theorem turn_receive (m : Mailbox) :
    m.turn .receive = { m with waiting := (m.turn .receive).waiting } := by
  rw [turn, receive?]
  split
  · rfl
  · split <;> rfl

theorem consumes_turn (hopen : m.isOpen = true) {t : Turn} (ht : t ≠ .leave) :
    Consumes (m.told [t]) (m.waiting ++ [t].filterMap Turn.published?) (m.turn t).waiting := by
  cases t with
  | publish n =>
    rw [turn, if_pos hopen]
    exact .nil _
  | receive =>
    rw [List.filterMap_cons_none rfl, List.filterMap_nil, List.append_nil]
    exact m.consumes_receive
  | leave => exact absurd rfl ht

theorem isOpen_turn (hopen : m.isOpen = true) {t : Turn} (ht : t ≠ .leave) :
    (m.turn t).isOpen = true := by
  cases t with
  | publish n => rw [turn, if_pos hopen]; exact hopen
  | receive => rw [turn_receive]; exact hopen
  | leave => exact absurd rfl ht

theorem isOpen_turns (hopen : m.isOpen = true) {ts : List Turn} (hts : .leave ∉ ts) :
    (m.turns ts).isOpen = true :=
  List.foldlRecOn ts turn (motive := fun m' => m'.isOpen = true) hopen fun _ hm' _ ht =>
    isOpen_turn hm' fun h => hts (h ▸ ht)

theorem slots_turn (m : Mailbox) (t : Turn) : (m.turn t).slots = m.slots := by
  cases t with
  | publish n => rw [turn]; split <;> rfl
  | receive => rw [turn_receive]
  | leave => rfl

theorem slots_turns (m : Mailbox) (ts : List Turn) : (m.turns ts).slots = m.slots :=
  List.foldlRecOn ts turn (motive := fun m' => m'.slots = m.slots) rfl fun m' hm' t _ =>
    (m'.slots_turn t).trans hm'

/-- Until the subscriber leaves, what it received accounts for the oldest of all that was
published, and the rest waits. -/
theorem consumes_turns (hopen : m.isOpen = true) {ts : List Turn} (hts : .leave ∉ ts) :
    Consumes (m.told ts) (m.waiting ++ ts.filterMap Turn.published?) (m.turns ts).waiting := by
  induction ts generalizing m with
  | nil =>
    rw [List.filterMap_nil, List.append_nil]
    exact .nil _
  | cons t ts ih =>
    have ht : t ≠ .leave := (List.ne_of_not_mem_cons hts).symm
    have hrest : .leave ∉ ts := List.not_mem_of_not_mem_cons hts
    have hall : (t :: ts).filterMap Turn.published? =
        [t].filterMap Turn.published? ++ ts.filterMap Turn.published? :=
      List.filterMap_append (l := [t])
    rw [told_cons, hall, ← List.append_assoc]
    exact (consumes_turn hopen ht).append (ih (isOpen_turn hopen ht) hrest)

/-! ## Afterwards -/

/-- Whoever has just read has no notice overdue. -/
theorem overdue_receive (m : Mailbox) : (m.turn .receive).overdue = 0 := by
  rw [turn]
  by_cases hover : 0 < m.overdue
  · rw [receive?_of_overdue hover]
    simp only [Option.map_some, Option.getD_some, overdue, available, List.length_drop]
    omega
  · have hzero : m.overdue = 0 := by omega
    cases hw : m.waiting with
    | nil => rw [receive?_of_nil hw]; exact hzero
    | cons n rest =>
      rw [receive?_of_cons hzero hw]
      simp only [overdue, hw, List.length_cons] at hzero ⊢
      simp only [Option.map_some, Option.getD_some]
      omega

/-- Whoever has left is told nothing any more. -/
theorem told_of_closed (hopen : m.isOpen = false) (hw : m.waiting = []) (ts : List Turn) :
    m.told ts = [] := by
  induction ts generalizing m with
  | nil => rfl
  | cons t ts ih =>
    rw [told_cons]
    cases t with
    | publish n =>
      have hturn : m.turn (.publish n) = m := by simp [turn, hopen]
      rw [hturn, ih hopen hw]
      rfl
    | receive =>
      have hturn : m.turn .receive = m := by rw [turn, receive?_of_nil hw]; rfl
      rw [hturn, ih hopen hw, told_receive, receive?_of_nil hw]
      rfl
    | leave =>
      rw [ih rfl rfl]
      rfl

end Mailbox
end TradeRegister.Delivery

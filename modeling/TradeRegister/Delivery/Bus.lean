import TradeRegister.Delivery.Sink

/-! # Broadcast bus

A ring of slots shared by all subscribers: each reads at its own position, and a notice is lost to
those who have not read it when its slot is taken for a newer one. Publishing never waits. A
subscriber sees what is published after it subscribed; without subscribers nothing is published.
-/

namespace TradeRegister.Delivery

structure Bus where
  /-- The number of slots. -/
  slots : Nat
  /-- The number of notices published so far. -/
  sent : Nat := 0
  /-- The latest notices, oldest first, no more than there are slots. -/
  kept : List Notice := []
  /-- The position each subscriber reads next, by order of subscription; `none` once it left. -/
  readers : List (Option Nat) := []
deriving DecidableEq

inductive Received
  | notice (n : Notice)
  | lagged (missed : Nat)
deriving DecidableEq

namespace Bus

/-- A ring with room for more, half of what 64 bits can count, is never made. -/
def maxCapacity : Nat := 0x7FFFFFFFFFFFFFFF

/-- The least power of two of slots in which `capacity` notices have room. -/
def slotsFor (capacity : Nat) : Nat :=
  if capacity ≤ 1 then 1 else Nat.pow 2 ((capacity - 1).log2 + 1)

/-- A bus with room for `capacity` notices: at least one slot, and a power of two of them, as far as
so many slots can be allocated. -/
def ofCapacity? (allocates : Nat → Bool) (capacity : Nat) : Option Bus :=
  let slots := slotsFor capacity
  if capacity ≤ maxCapacity && allocates slots then some { slots } else none

/-- The position of the oldest notice still kept. -/
def oldest (b : Bus) : Nat := b.sent - b.kept.length

def subscribe (b : Bus) : Nat × Bus :=
  (b.readers.length, { b with readers := b.readers ++ [some b.sent] })

def isSubscribed (b : Bus) (i : Nat) : Bool := (b.readers.getD i none).isSome

def unsubscribe (b : Bus) (i : Nat) : Bus := { b with readers := b.readers.set i none }

def hasSubscribers (b : Bus) : Bool := b.readers.any Option.isSome

def keep (b : Bus) (n : Notice) : List Notice :=
  (b.kept ++ [n]).drop (b.kept.length + 1 - b.slots)

def publish : Sink Bus := fun n b =>
  if b.hasSubscribers then (.accepted, { b with sent := b.sent + 1, kept := b.keep n })
  else (.refused (.noSubscribers n.topic), b)

def moveTo (b : Bus) (i position : Nat) : Bus :=
  { b with readers := b.readers.set i (some position) }

/-- The next thing for subscriber `i`, if anything is there: how much it missed, if its position
is no longer kept, else the notice at its position. -/
def receive? (b : Bus) (i : Nat) : Option (Received × Bus) :=
  match b.readers.getD i none with
  | none => none
  | some next =>
    if next < b.oldest then some (.lagged (b.oldest - next), b.moveTo i b.oldest)
    else
      match b.kept[next - b.oldest]? with
      | some n => some (.notice n, b.moveTo i (next + 1))
      | none => none

/-- Receives until nothing is left, at most `limit` times. -/
def receiveUpTo (i : Nat) : Nat → Bus → List Received × Bus
  | 0, b => ([], b)
  | limit + 1, b =>
    match b.receive? i with
    | none => ([], b)
    | some (r, b) =>
      let (rs, b) := receiveUpTo i limit b
      (r :: rs, b)

def receiveAll (i : Nat) (b : Bus) : List Received × Bus := b.receiveUpTo i (b.kept.length + 1)

theorem slotsFor_pos (capacity : Nat) : 0 < slotsFor capacity := by
  rw [slotsFor]
  split
  · exact Nat.one_pos
  · exact Nat.two_pow_pos _

theorem le_slotsFor (capacity : Nat) : max 1 capacity ≤ slotsFor capacity := by
  rw [slotsFor]
  split
  · omega
  · have := @Nat.lt_log2_self (capacity - 1)
    rw [Nat.pow_eq]
    omega

theorem publish_of_not_hasSubscribers {b : Bus} (h : b.hasSubscribers = false) (n : Notice) :
    publish n b = (.refused (.noSubscribers n.topic), b) := by
  simp [publish, h]

theorem keep_length (b : Bus) (n : Notice) :
    (b.keep n).length = min (b.kept.length + 1) b.slots := by
  simp [keep]
  omega

theorem readers_moveTo_of_ne (b : Bus) {i j : Nat} (h : i ≠ j) (position : Nat) :
    (b.moveTo i position).readers[j]? = b.readers[j]? := by
  simp [moveTo, List.getElem?_set_ne h]

end Bus
end TradeRegister.Delivery

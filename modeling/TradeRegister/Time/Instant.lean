import TradeRegister.Time.Span

/-! # Points in time

Nanoseconds since the start of 1970, within the years -9999 to 9999. A clock shows one instant; it
moves only when it is set or advanced, and never outside this range.
-/

namespace TradeRegister

structure Instant where
  total : Int
  ge_first : -377705116800 * 1000000000 ≤ total
  lt_end : total < 253402300800 * 1000000000
deriving DecidableEq

namespace Instant

def ofNanos? (n : Int) : Option Instant :=
  if h : -377705116800 * 1000000000 ≤ n ∧ n < 253402300800 * 1000000000 then some ⟨n, h.1, h.2⟩
  else none

/-- The instant a signed number of nanoseconds after a whole second, both within range. -/
def ofParts? (seconds nanos : Int) : Option Instant := do
  let start ← ofNanos? (seconds * 1000000000)
  ofNanos? (start.total + nanos)

/-- Whole seconds since the start of 1970, rounded down. -/
def seconds (t : Instant) : Int := t.total / 1000000000

def nanos (t : Instant) : Int := t.total % 1000000000

def advance? (t : Instant) (seconds nanos : Int) : Option Instant :=
  ofNanos? (t.total + seconds * 1000000000 + nanos)

theorem seconds_mono {s t : Instant} (h : s.total ≤ t.total) : s.seconds ≤ t.seconds := by
  unfold seconds
  omega

end Instant
end TradeRegister

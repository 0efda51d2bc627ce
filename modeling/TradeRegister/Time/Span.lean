/-! # Spans of time

A span is a number of nanoseconds; its whole seconds fit 64 bits.
-/

namespace TradeRegister

structure Span where
  total : Nat
  total_lt : total < 0x10000000000000000 * 1000000000
deriving DecidableEq

namespace Span

def zero : Span := ⟨0, by decide⟩

def ofNanos? (n : Nat) : Option Span :=
  if h : n < 0x10000000000000000 * 1000000000 then some ⟨n, h⟩ else none

def ofParts? (seconds nanos : Nat) : Option Span := ofNanos? (seconds * 1000000000 + nanos)

/-- So many whole seconds. -/
def ofSeconds (n : UInt32) : Span :=
  ⟨n.toNat * 1000000000, by have := n.toNat_lt; omega⟩

def seconds (s : Span) : Nat := s.total / 1000000000

def nanos (s : Span) : Nat := s.total % 1000000000

end Span
end TradeRegister

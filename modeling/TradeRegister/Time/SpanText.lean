import TradeRegister.Decimal
import TradeRegister.Text.Blank
import TradeRegister.Time.Span

/-! # Spans in words

A span is written as amounts with units, such as `1h 30m` or `1.5s`. White space may stand
anywhere but inside a unit. A fraction must come out exact: in nanoseconds up to minutes, in whole
seconds from hours on.
-/

namespace TradeRegister.Span

inductive Unit
  | nanosecond
  | microsecond
  | millisecond
  | second
  | minute
  | hour
  | day
  | week
  | month
  | year
deriving DecidableEq

def Unit.names : Unit → List String
  | .nanosecond => ["nanos", "nsec", "ns"]
  | .microsecond => ["usec", "us", "µs"]
  | .millisecond => ["millis", "msec", "ms"]
  | .second => ["seconds", "second", "secs", "sec", "s"]
  | .minute => ["minutes", "minute", "min", "mins", "m"]
  | .hour => ["hours", "hour", "hr", "hrs", "h"]
  | .day => ["days", "day", "d"]
  | .week => ["weeks", "week", "wk", "wks", "w"]
  | .month => ["months", "month", "M"]
  | .year => ["years", "year", "yr", "yrs", "y"]

def Unit.all : List Unit :=
  [.nanosecond, .microsecond, .millisecond, .second, .minute, .hour, .day, .week, .month, .year]

def Unit.ofName? (name : String) : Option Unit := Unit.all.find? fun u => u.names.contains name

/-- How a unit counts: in nanoseconds, or in whole seconds. -/
inductive Measure
  | nanoseconds (n : Nat)
  | seconds (n : Nat)

/-- The whole amounts of a unit count in seconds from the second on. -/
def Unit.whole : Unit → Measure
  | .nanosecond => .nanoseconds 1
  | .microsecond => .nanoseconds 1000
  | .millisecond => .nanoseconds 1000000
  | .second => .seconds 1
  | .minute => .seconds 60
  | .hour => .seconds 3600
  | .day => .seconds 86400
  | .week => .seconds 604800
  | .month => .seconds 2630016
  | .year => .seconds 31557600

/-- Fractions of a unit count in seconds from the hour on; a nanosecond has none. -/
def Unit.part : Unit → Option Measure
  | .nanosecond => none
  | .second => some (.nanoseconds 1000000000)
  | .minute => some (.nanoseconds 60000000000)
  | u => some u.whole

/-- `num / den` times a measure, if it is exact; products are kept within 64 bits. -/
def Measure.times? (m : Measure) (num den : Nat) : Option Measure :=
  let scale (n : Nat) : Option Nat :=
    if num * n < 0x10000000000000000 && num * n % den == 0 then some (num * n / den) else none
  match m with
  | .nanoseconds n => (scale n).map .nanoseconds
  | .seconds n => (scale n).map .seconds

/-- Why a text is not read as a span. -/
inductive TextFault
  | unreadable
  /-- Nanoseconds add up to one more second after the last one, which ends the program. -/
  | overrun
deriving DecidableEq

def addMeasure? (s : Span) : Measure → Option Span
  | .nanoseconds n => if s.nanos + n < 0x10000000000000000 then ofNanos? (s.total + n) else none
  | .seconds n => ofNanos? (s.total + n * 1000000000)

def overrunsWith (s : Span) : Measure → Bool
  | .nanoseconds n => s.nanos + n == 1000000000 && s.seconds + 1 == 0x10000000000000000
  | .seconds _ => false

def addMeasure (s : Span) : Option Measure → Except TextFault Span
  | none => .error .unreadable
  | some m =>
    if s.overrunsWith m then .error .overrun
    else
      match s.addMeasure? m with
      | some s => .ok s
      | none => .error .unreadable

/-- The digits after a point denote a number of parts of a whole. -/
structure Fraction where
  parts : Nat
  whole : Nat

structure Amount where
  whole : Nat
  fraction : Option Fraction
  unit : Unit

def addAmount (s : Span) (a : Amount) : Except TextFault Span := do
  let s ← s.addMeasure (a.unit.whole.times? a.whole 1)
  match a.fraction with
  | none => .ok s
  | some f => s.addMeasure (a.unit.part.bind fun m => m.times? f.parts f.whole)

def isUnitChar (c : Char) : Bool := c.isAlpha || c == 'µ'

def isNumberChar (c : Char) : Bool := c.isDigit || Text.isSpace c

/-- The digits at the front, with white space among them skipped. -/
def digits (cs : List Char) : List Char × List Char :=
  ((cs.takeWhile isNumberChar).filter Char.isDigit, cs.dropWhile isNumberChar)

/-- Parts are counted in 64 bits, so a fraction has at most 19 digits. -/
def fraction? : List Char → Option (Option Fraction × List Char)
  | '.' :: cs =>
    let (ds, rest) := digits cs
    if ds.length < 20 then
      (Decimal.read? ds).map fun n => (some ⟨n, Nat.pow 10 ds.length⟩, rest)
    else none
  | cs => some (none, cs)

/-- An amount at the front of a text whose first character is a digit. -/
def amount? (cs : List Char) : Option (Amount × List Char) := do
  guard (cs.head?.any Char.isDigit)
  let (ds, cs) := digits cs
  let whole ← Decimal.read? ds
  guard (whole < 0x10000000000000000)
  let (fraction, cs) ← fraction? cs
  let unit ← Unit.ofName? (String.ofList (cs.takeWhile isUnitChar))
  let rest := cs.dropWhile isUnitChar
  guard (rest.head?.all isNumberChar)
  some (⟨whole, fraction, unit⟩, rest.dropWhile Text.isSpace)

def addAmounts : Nat → Span → List Char → Except TextFault Span
  | 0, _, _ => .error .unreadable
  | fuel + 1, s, cs =>
    match amount? cs with
    | none => .error .unreadable
    | some (a, rest) => do
      let s ← s.addAmount a
      if rest.isEmpty then .ok s else addAmounts fuel s rest

def parse (text : String) : Except TextFault Span :=
  if text = "0" then .ok zero
  else addAmounts text.length zero (text.toList.dropWhile Text.isSpace)

end TradeRegister.Span

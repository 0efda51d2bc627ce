import TradeRegister.Json.Basic

/-! # Reading JSON texts

A text is one value with white space around it. The reader checks the grammar only; it leaves
literals as they are written. Every step consumes an octet, so the length of the text bounds the
steps.
-/

namespace TradeRegister.Json

def isSpace (b : UInt8) : Bool := b = 0x20 || b = 0x09 || b = 0x0A || b = 0x0D

def skipSpace (b : Bytes) : Bytes := b.dropWhile isSpace

def isDigit (b : UInt8) : Bool := 0x30 ≤ b && b ≤ 0x39

def isHexDigit (b : UInt8) : Bool := (Hexadecimal.value? (Char.ofUInt8 b)).isSome

/-- A string literal up to its closing quote, and what follows the quote. -/
def literal? : Bytes → Option (Bytes × Bytes)
  | [] => none
  | 0x22 :: rest => some ([], rest)
  | 0x5C :: 0x75 :: a :: b :: c :: d :: rest =>
    if [a, b, c, d].all isHexDigit then
      (literal? rest).map fun (l, rest) => (0x5C :: 0x75 :: a :: b :: c :: d :: l, rest)
    else none
  | 0x5C :: e :: rest =>
    if (simpleEscape? e).isSome then
      (literal? rest).map fun (l, rest) => (0x5C :: e :: l, rest)
    else none
  | b :: rest =>
    if b = 0x5C || b < 0x20 then none
    else (literal? rest).map fun (l, rest) => (b :: l, rest)

def digits (b : Bytes) : Bytes × Bytes := (b.takeWhile isDigit, b.dropWhile isDigit)

def digits1? (b : Bytes) : Option (Bytes × Bytes) :=
  match digits b with
  | ([], _) => none
  | (ds, rest) => some (ds, rest)

/-- A zero ends the whole part; any other digit may be followed by more. -/
def wholePart? : Bytes → Option (Bytes × Bytes)
  | 0x30 :: rest => some ([0x30], rest)
  | b => digits1? b

def fractionPart? : Bytes → Option (Bytes × Bytes)
  | 0x2E :: rest => (digits1? rest).map fun (ds, rest) => (0x2E :: ds, rest)
  | b => some ([], b)

def exponentSign : Bytes → Bytes × Bytes
  | 0x2B :: rest => ([0x2B], rest)
  | 0x2D :: rest => ([0x2D], rest)
  | b => ([], b)

def exponentPart? (b : Bytes) : Option (Bytes × Bytes) :=
  match b with
  | e :: rest =>
    if e = 0x65 || e = 0x45 then
      let (sign, rest) := exponentSign rest
      (digits1? rest).map fun (ds, rest) => (e :: sign ++ ds, rest)
    else some ([], b)
  | [] => some ([], [])

def unsigned? (b : Bytes) : Option (Bytes × Bytes) := do
  let (whole, b) ← wholePart? b
  let (fraction, b) ← fractionPart? b
  let (exponent, b) ← exponentPart? b
  some (whole ++ fraction ++ exponent, b)

def number? : Bytes → Option (Bytes × Bytes)
  | 0x2D :: rest => (unsigned? rest).map fun (l, rest) => (0x2D :: l, rest)
  | b => unsigned? b

def word? (word : Bytes) (v : Json) (b : Bytes) : Option (Json × Bytes) :=
  if word.isPrefixOf b then some (v, b.drop word.length) else none

mutual

def value? : Nat → Bytes → Option (Json × Bytes)
  | 0, _ => none
  | fuel + 1, b =>
    match skipSpace b with
    | [] => none
    | 0x22 :: rest => (literal? rest).map fun (l, rest) => (.string l, rest)
    | 0x5B :: rest =>
      match skipSpace rest with
      | 0x5D :: rest => some (.array [], rest)
      | rest => (items? fuel rest).map fun (vs, rest) => (.array vs, rest)
    | 0x7B :: rest =>
      match skipSpace rest with
      | 0x7D :: rest => some (.object [], rest)
      | rest => (members? fuel rest).map fun (ms, rest) => (.object ms, rest)
    | c :: rest =>
      if c = 0x6E then word? [0x75, 0x6C, 0x6C] .null rest
      else if c = 0x74 then word? [0x72, 0x75, 0x65] (.bool true) rest
      else if c = 0x66 then word? [0x61, 0x6C, 0x73, 0x65] (.bool false) rest
      else (number? (c :: rest)).map fun (l, rest) => (.number (l.map Char.ofUInt8), rest)

def items? : Nat → Bytes → Option (List Json × Bytes)
  | 0, _ => none
  | fuel + 1, b =>
    match value? fuel b with
    | none => none
    | some (v, rest) =>
      match skipSpace rest with
      | 0x2C :: rest => (items? fuel rest).map fun (vs, rest) => (v :: vs, rest)
      | 0x5D :: rest => some ([v], rest)
      | _ => none

def members? : Nat → Bytes → Option (List (Bytes × Json) × Bytes)
  | 0, _ => none
  | fuel + 1, b =>
    match skipSpace b with
    | 0x22 :: rest =>
      match literal? rest with
      | none => none
      | some (key, rest) =>
        match skipSpace rest with
        | 0x3A :: rest =>
          match value? fuel rest with
          | none => none
          | some (v, rest) =>
            match skipSpace rest with
            | 0x2C :: rest => (members? fuel rest).map fun (ms, rest) => ((key, v) :: ms, rest)
            | 0x7D :: rest => some ([(key, v)], rest)
            | _ => none
        | _ => none
    | _ => none

end

/-- The tree of a text that is one JSON value. -/
def parse? (b : Bytes) : Option Json :=
  match value? (b.length + 1) b with
  | some (v, rest) => if (skipSpace rest).isEmpty then some v else none
  | none => none

end TradeRegister.Json

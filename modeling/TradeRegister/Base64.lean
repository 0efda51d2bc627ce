import TradeRegister.Bytes

/-! # Unpadded base64

Three octets become four symbols; a final group of one or two octets becomes two or three. A text
is read only in its canonical form: no padding, and the unused bits of the last symbol are zero.
-/

namespace TradeRegister.Base64

/-- An alphabet is fixed by its last two symbols. -/
structure Alphabet where
  symbol62 : Char
  symbol63 : Char

def Alphabet.standard : Alphabet := ⟨'+', '/'⟩
def Alphabet.urlSafe : Alphabet := ⟨'-', '_'⟩

def Alphabet.symbol (a : Alphabet) (v : Nat) : Char :=
  if v < 26 then Char.ofNat (65 + v)
  else if v < 52 then Char.ofNat (71 + v)
  else if v < 62 then Char.ofNat (v - 4)
  else if v = 62 then a.symbol62
  else a.symbol63

def Alphabet.value? (a : Alphabet) (c : Char) : Option Nat :=
  let n := c.toNat
  if 65 ≤ n && n ≤ 90 then some (n - 65)
  else if 97 ≤ n && n ≤ 122 then some (n - 71)
  else if 48 ≤ n && n ≤ 57 then some (n + 4)
  else if c = a.symbol62 then some 62
  else if c = a.symbol63 then some 63
  else none

/-- The six-bit groups of an octet string, the last one filled up with zero bits. -/
def groups : Bytes → List Nat
  | [] => []
  | [x] => [x.toNat / 4, x.toNat % 4 * 16]
  | [x, y] => [x.toNat / 4, x.toNat % 4 * 16 + y.toNat / 16, y.toNat % 16 * 4]
  | x :: y :: z :: rest =>
    x.toNat / 4 :: (x.toNat % 4 * 16 + y.toNat / 16) :: (y.toNat % 16 * 4 + z.toNat / 64) ::
      (z.toNat % 64) :: groups rest

/-- The octets of six-bit groups whose unused bits are zero. -/
def octets? : List Nat → Option Bytes
  | [] => some []
  | [_] => none
  | [p, q] => if q % 16 = 0 then some [UInt8.ofNat (p * 4 + q / 16)] else none
  | [p, q, r] =>
    if r % 4 = 0 then
      some [UInt8.ofNat (p * 4 + q / 16), UInt8.ofNat (q % 16 * 16 + r / 4)]
    else none
  | p :: q :: r :: s :: rest =>
    (octets? rest).map fun tail =>
      UInt8.ofNat (p * 4 + q / 16) :: UInt8.ofNat (q % 16 * 16 + r / 4) ::
        UInt8.ofNat (r % 4 * 64 + s) :: tail

def encode (a : Alphabet) (b : Bytes) : List Char := (groups b).map a.symbol

def decode? (a : Alphabet) (cs : List Char) : Option Bytes :=
  (cs.mapM a.value?).bind octets?

end TradeRegister.Base64

import TradeRegister.Bytes

/-! # BLAKE2b

The unkeyed digest of one to sixty-four octets. Twelve rounds mix a matrix of sixteen words, first
by columns and then by diagonals, with the message words in the order of that round.
-/

namespace TradeRegister.Blake2b

structure State where
  h0 : UInt64
  h1 : UInt64
  h2 : UInt64
  h3 : UInt64
  h4 : UInt64
  h5 : UInt64
  h6 : UInt64
  h7 : UInt64

/-- Fractional parts of the square roots of the first eight primes. -/
def initial : State where
  h0 := 0x6a09e667f3bcc908
  h1 := 0xbb67ae8584caa73b
  h2 := 0x3c6ef372fe94f82b
  h3 := 0xa54ff53a5f1d36f1
  h4 := 0x510e527fade682d1
  h5 := 0x9b05688c2b3e6c1f
  h6 := 0x1f83d9abfb41bd6b
  h7 := 0x5be0cd19137e2179

structure Matrix where
  v0 : UInt64
  v1 : UInt64
  v2 : UInt64
  v3 : UInt64
  v4 : UInt64
  v5 : UInt64
  v6 : UInt64
  v7 : UInt64
  v8 : UInt64
  v9 : UInt64
  v10 : UInt64
  v11 : UInt64
  v12 : UInt64
  v13 : UInt64
  v14 : UInt64
  v15 : UInt64

/-- The order in which each round takes the message words. -/
def schedule : List (List Nat) := [
  [0, 1, 2, 3, 4, 5, 6, 7, 8, 9, 10, 11, 12, 13, 14, 15],
  [14, 10, 4, 8, 9, 15, 13, 6, 1, 12, 0, 2, 11, 7, 5, 3],
  [11, 8, 12, 0, 5, 2, 15, 13, 10, 14, 3, 6, 7, 1, 9, 4],
  [7, 9, 3, 1, 13, 12, 11, 14, 2, 6, 5, 10, 4, 0, 15, 8],
  [9, 0, 5, 7, 2, 4, 10, 15, 14, 1, 11, 12, 6, 8, 3, 13],
  [2, 12, 6, 10, 0, 11, 8, 3, 4, 13, 7, 5, 15, 14, 1, 9],
  [12, 5, 1, 15, 14, 13, 4, 10, 0, 7, 6, 3, 9, 2, 8, 11],
  [13, 11, 7, 14, 12, 1, 3, 9, 5, 0, 15, 4, 8, 6, 2, 10],
  [6, 15, 14, 9, 11, 3, 0, 8, 12, 2, 13, 7, 1, 4, 10, 5],
  [10, 2, 8, 4, 7, 6, 1, 5, 15, 11, 9, 14, 3, 12, 13, 0],
  [0, 1, 2, 3, 4, 5, 6, 7, 8, 9, 10, 11, 12, 13, 14, 15],
  [14, 10, 4, 8, 9, 15, 13, 6, 1, 12, 0, 2, 11, 7, 5, 3]]

structure Quad where
  a : UInt64
  b : UInt64
  c : UInt64
  d : UInt64

def rotr (x n : UInt64) : UInt64 := (x >>> n) ||| (x <<< (64 - n))

def mix (a b c d x y : UInt64) : Quad :=
  let a := a + b + x
  let d := rotr (d ^^^ a) 32
  let c := c + d
  let b := rotr (b ^^^ c) 24
  let a := a + b + y
  let d := rotr (d ^^^ a) 16
  let c := c + d
  ⟨a, rotr (b ^^^ c) 63, c, d⟩

def round (m : List UInt64) (v : Matrix) : Matrix :=
  let w i := m.getD i 0
  let p := mix v.v0 v.v4 v.v8 v.v12 (w 0) (w 1)
  let q := mix v.v1 v.v5 v.v9 v.v13 (w 2) (w 3)
  let r := mix v.v2 v.v6 v.v10 v.v14 (w 4) (w 5)
  let s := mix v.v3 v.v7 v.v11 v.v15 (w 6) (w 7)
  let e := mix p.a q.b r.c s.d (w 8) (w 9)
  let f := mix q.a r.b s.c p.d (w 10) (w 11)
  let g := mix r.a s.b p.c q.d (w 12) (w 13)
  let h := mix s.a p.b q.c r.d (w 14) (w 15)
  ⟨e.a, f.a, g.a, h.a, h.b, e.b, f.b, g.b, g.c, h.c, e.c, f.c, f.d, g.d, h.d, e.d⟩

/-- Absorbs a block; `count` octets have been absorbed with it, and `last` marks the final one. -/
def compress (s : State) (block : List UInt64) (count : Nat) (last : Bool) : State :=
  let i := initial
  let start : Matrix :=
    ⟨s.h0, s.h1, s.h2, s.h3, s.h4, s.h5, s.h6, s.h7, i.h0, i.h1, i.h2, i.h3,
      i.h4 ^^^ UInt64.ofNat count, i.h5 ^^^ UInt64.ofNat (count / 0x10000000000000000),
      if last then ~~~i.h6 else i.h6, i.h7⟩
  let v := schedule.foldl (fun v order => round (order.map (block.getD · 0)) v) start
  ⟨s.h0 ^^^ v.v0 ^^^ v.v8, s.h1 ^^^ v.v1 ^^^ v.v9, s.h2 ^^^ v.v2 ^^^ v.v10,
    s.h3 ^^^ v.v3 ^^^ v.v11, s.h4 ^^^ v.v4 ^^^ v.v12, s.h5 ^^^ v.v5 ^^^ v.v13,
    s.h6 ^^^ v.v6 ^^^ v.v14, s.h7 ^^^ v.v7 ^^^ v.v15⟩

def words : Nat → Bytes → List UInt64
  | 0, _ => []
  | n + 1, b => UInt64.ofNat (Bytes.littleEndianValue (b.take 8)) :: words n (b.drop 8)

/-- Absorbs `blocks` full blocks and then the rest of the message as the last block. -/
def absorb : Nat → Nat → Bytes → State → State
  | 0, count, b, s => compress s (words 16 b) (count + b.length) true
  | n + 1, count, b, s =>
    absorb n (count + 128) (b.drop 128) (compress s (words 16 b) (count + 128) false)

def State.octets (s : State) : Bytes :=
  [s.h0, s.h1, s.h2, s.h3, s.h4, s.h5, s.h6, s.h7].flatMap fun w =>
    Bytes.littleEndian 8 w.toNat

/-- The digest of `size` octets, at most 64. -/
def hash (size : Nat) (message : Bytes) : Bytes :=
  let start := { initial with h0 := initial.h0 ^^^ 0x01010000 ^^^ UInt64.ofNat size }
  (absorb ((message.length - 1) / 128) 0 message start).octets.take size

theorem hash_length {size : Nat} (h : size ≤ 64) (message : Bytes) :
    (hash size message).length = size := by
  simp [hash, State.octets, Nat.min_eq_left h]

end TradeRegister.Blake2b

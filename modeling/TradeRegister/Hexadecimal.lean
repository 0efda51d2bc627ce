/-! # Hexadecimal numerals

Fixed-width lower-case text, read back in either case.
-/

namespace TradeRegister.Hexadecimal

def digit (v : Nat) : Char := if v < 10 then Char.ofNat (48 + v) else Char.ofNat (87 + v)

def value? (c : Char) : Option Nat :=
  let n := c.toNat
  if 48 ≤ n && n ≤ 57 then some (n - 48)
  else if 97 ≤ n && n ≤ 102 then some (n - 87)
  else if 65 ≤ n && n ≤ 70 then some (n - 55)
  else none

/-- The lowest `width` digits of `n`, highest first. -/
def write : Nat → Nat → List Char
  | 0, _ => []
  | width + 1, n => write width (n / 16) ++ [digit (n % 16)]

/-- The number that a run of hexadecimal digits denotes. -/
def read? (cs : List Char) : Option Nat :=
  cs.foldlM (fun n c => (value? c).map (16 * n + ·)) 0

def char? (digits : List Char) : Option Char := do
  let n ← read? digits
  if n.isValidChar then some (Char.ofNat n) else none

def octet? (high low : Char) : Option UInt8 := do
  some (UInt8.ofNat (16 * (← value? high) + (← value? low)))

theorem value?_digit {v : Nat} (h : v < 16) : value? (digit v) = some v := by
  have : ∀ v : Fin 16, value? (digit v.val) = some v.val := by decide
  exact this ⟨v, h⟩

@[simp] theorem write_length (width n : Nat) : (write width n).length = width := by
  induction width generalizing n with
  | zero => rfl
  | succ w ih => simp [write, ih]

theorem read?_write (width n : Nat) : read? (write width n) = some (n % Nat.pow 16 width) := by
  induction width generalizing n with
  | zero => simp [read?, write, Nat.mod_one]
  | succ w ih =>
    have hv : value? (digit (n % 16)) = some (n % 16) := value?_digit (Nat.mod_lt _ (by decide))
    have hw := ih (n / 16)
    unfold read? at hw ⊢
    simp only [write, List.foldlM_append, hw, List.foldlM_cons, List.foldlM_nil, hv,
      Option.map_some, bind_pure, Option.bind_eq_bind, Option.bind_some]
    have hp : Nat.pow 16 (w + 1) = 16 * Nat.pow 16 w := Nat.mul_comm _ _
    rw [hp, Nat.mod_mul]
    congr 1
    omega

end TradeRegister.Hexadecimal

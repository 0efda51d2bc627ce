import TradeRegister.Bytes
import TradeRegister.Hexadecimal

/-! # Percent encoding

Three characters `%XX` stand for an octet. A percent sign without two digits stands for itself.
-/

namespace TradeRegister.Text.Percent

def octets : List Char → Bytes
  | [] => []
  | '%' :: a :: b :: cs =>
    match Hexadecimal.octet? a b with
    | some octet => octet :: octets cs
    | none => 0x25 :: octets (a :: b :: cs)
  | c :: cs => Bytes.ofChars [c] ++ octets cs

def decode? (cs : List Char) : Option String := Bytes.toString? (octets cs)

/-- In forms a plus sign stands for a space. -/
def decodeForm? (cs : List Char) : Option String :=
  decode? (cs.map fun c => if c == '+' then ' ' else c)

end TradeRegister.Text.Percent

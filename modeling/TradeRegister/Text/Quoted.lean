import TradeRegister.Hexadecimal
import TradeRegister.Text.Visible

/-! # Quoted text for diagnostics

Text between double quotes in which every character that a reader could not see or tell apart is
replaced by an escape.
-/

namespace TradeRegister.Text

/-- A number in hexadecimal without leading zeros. -/
def shortHex (n : Nat) : List Char :=
  match (Hexadecimal.write 6 n).dropWhile (· == '0') with
  | [] => ['0']
  | cs => cs

def codePoint (c : Char) : List Char := ['\\', 'u', '\x7b'] ++ shortHex c.toNat ++ ['\x7d']

def quoteChar (c : Char) : List Char :=
  if c == '\x00' then ['\\', '0']
  else if c == '\t' then ['\\', 't']
  else if c == '\r' then ['\\', 'r']
  else if c == '\n' then ['\\', 'n']
  else if c == '"' || c == '\\' then ['\\', c]
  else if isExtender c || !isPrintable c then codePoint c
  else [c]

def quote (s : String) : String :=
  String.ofList ('"' :: s.toList.flatMap quoteChar ++ ['"'])

end TradeRegister.Text

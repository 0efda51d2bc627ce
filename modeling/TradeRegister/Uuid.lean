import TradeRegister.Hexadecimal

/-! # Universally unique identifiers

A 128-bit number, written as 32 lower-case hexadecimal digits in groups of 8, 4, 4, 4 and 12. It
is read in that form, without hyphens, in braces, or after `urn:uuid:`; digits may be of either
case.
-/

namespace TradeRegister

structure Uuid where
  value : Nat
  value_lt : value < 0x100000000000000000000000000000000
deriving DecidableEq

namespace Uuid

def nil : Uuid := ⟨0, by decide⟩

def isNil (u : Uuid) : Bool := u.value == 0

def ofNat (n : Nat) : Uuid := ⟨n % 0x100000000000000000000000000000000, Nat.mod_lt _ (by decide)⟩

/-- Bits 76 to 79 name the scheme by which an identifier was made. -/
def version (u : Uuid) : Nat := (u.value >>> 76) % 16

/-- An identifier of the time-ordered scheme with the given payload bits. -/
def timeOrdered (n : Nat) : Uuid :=
  ofNat ((n >>> 74 % 0x1000000000000) <<< 80 + 7 <<< 76 + (n >>> 62 % 0x1000) <<< 64 +
    0x8000000000000000 + n % 0x4000000000000000)

/-- Groups of 8, 4, 4, 4 and 12 digits with hyphens between them. -/
def hyphenate (cs : List Char) : List Char :=
  cs.take 8 ++ '-' :: (cs.drop 8).take 4 ++ '-' :: (cs.drop 12).take 4 ++
    '-' :: (cs.drop 16).take 4 ++ '-' :: cs.drop 20

def chars (u : Uuid) : List Char := hyphenate (Hexadecimal.write 32 u.value)

def text (u : Uuid) : String := String.ofList u.chars

instance : ToString Uuid := ⟨text⟩

/-- The digits of a hyphenated form. -/
def unhyphenate? (cs : List Char) : Option (List Char) :=
  if cs.length = 36 && cs[8]? = some '-' && cs[13]? = some '-' && cs[18]? = some '-' &&
      cs[23]? = some '-' then
    some (cs.take 8 ++ (cs.drop 9).take 4 ++ (cs.drop 14).take 4 ++ (cs.drop 19).take 4 ++
      cs.drop 24)
  else none

def ofDigits? (cs : List Char) : Option Uuid := (Hexadecimal.read? cs).map ofNat

def afterUrn? (cs : List Char) : Option (List Char) :=
  if (cs.take 9).map Char.toLower = "urn:uuid:".toList then some (cs.drop 9) else none

def parse? (s : String) : Option Uuid :=
  let cs := s.toList
  if cs.length = 32 then ofDigits? cs
  else if cs.length = 36 then (unhyphenate? cs).bind ofDigits?
  else if cs.length = 38 && cs.head? = some '\x7b' && cs.getLast? = some '\x7d' then
    (unhyphenate? ((cs.drop 1).take 36)).bind ofDigits?
  else ((afterUrn? cs).bind unhyphenate?).bind ofDigits?

end Uuid
end TradeRegister

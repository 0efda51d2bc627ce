/-! # Octet strings

Wire texts, keys and digests are plain lists of octets. Character text enters through its UTF-8
form, and comes back only from octets that are well-formed UTF-8.
-/

namespace TradeRegister

abbrev Bytes := List UInt8

namespace Bytes

def ofChars (cs : List Char) : Bytes := cs.flatMap String.utf8EncodeChar

def ofString (s : String) : Bytes := ofChars s.toList

def toString? (b : Bytes) : Option String := String.fromUTF8? b.toByteArray

/-- Big-endian octets of `n`, `width` of them; higher digits are dropped. -/
def bigEndian : Nat → Nat → Bytes
  | 0, _ => []
  | width + 1, n => bigEndian width (n / 256) ++ [UInt8.ofNat n]

/-- Little-endian octets of `n`, `width` of them; higher digits are dropped. -/
def littleEndian : Nat → Nat → Bytes
  | 0, _ => []
  | width + 1, n => UInt8.ofNat n :: littleEndian width (n / 256)

def littleEndianValue (b : Bytes) : Nat := b.foldr (fun d n => d.toNat + 256 * n) 0

@[simp] theorem littleEndian_length (width n : Nat) : (littleEndian width n).length = width := by
  induction width generalizing n with
  | zero => rfl
  | succ w ih => simp [littleEndian, ih]

theorem toByteArray_ofString (s : String) : (ofString s).toByteArray = s.toUTF8 :=
  String.utf8Encode_toList

@[simp] theorem toString?_ofString (s : String) : toString? (ofString s) = some s := by
  rw [toString?, toByteArray_ofString, String.fromUTF8?, dif_pos (show s.toUTF8.IsValidUTF8 from s.isValidUTF8)]
  rfl

end Bytes
end TradeRegister

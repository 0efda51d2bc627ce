import TradeRegister.Hash.Sha256

/-! # Keyed message digests -/

namespace TradeRegister.Hmac

/-- A key fills one block of 64 octets; a longer key is hashed first. -/
def keyBlock (key : Bytes) : Bytes :=
  let k := if key.length > 64 then Sha256.hash key else key
  k ++ List.replicate (64 - k.length) 0

def sha256 (key message : Bytes) : Bytes :=
  let k := keyBlock key
  Sha256.hash (k.map (· ^^^ 0x5c) ++ Sha256.hash (k.map (· ^^^ 0x36) ++ message))

end TradeRegister.Hmac

import TradeRegister.Bytes
import TradeRegister.Json.Record
import TradeRegister.Text.Blank

/-! # Secrets

A secret never appears in diagnostic text. A blank one counts as missing.
-/

namespace TradeRegister

structure Secret where
  value : String
deriving DecidableEq

namespace Secret

def empty : Secret := ⟨""⟩

def isBlank (s : Secret) : Bool := Text.isBlank s.value

def octets (s : Secret) : Bytes := Bytes.ofString s.value

/-- The same for every secret. -/
def description (_ : Secret) : String := "[REDACTED]"

def ofJson? (v : Json) : Option Secret := (Json.asString? v).map Secret.mk

end Secret
end TradeRegister

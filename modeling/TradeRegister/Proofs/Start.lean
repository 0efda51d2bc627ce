import TradeRegister.Proofs.Settings.Layers
import TradeRegister.Proofs.Span
import TradeRegister.Registry

/-! # Starts

A start with settings that were accepted answers with a register, or with a fault that its caller
is told, but for two ways to end the program: a wait for a connection past the last instant, and a
bus with more room than can be allocated. Reading settings bounds neither: every wait and every
room of 64 bits is accepted.
-/

namespace TradeRegister

open Settings (Leaf LastWins IsTyped IsTypedEntry leaves ofLayers)
open Delivery (Bus)

namespace Registry

/-! ## Outcomes -/

/-- The database is found and opened in time, and its schema can be put in place. -/
structure Serves (host : Host) (d : Settings.Database) (address : Store.Address) : Prop where
  found : Store.Address.ofString? d.url = some address
  inTime : d.acquireTimeout.total ≤ host.timeLeft
  fileSystem : address.hasFileSystem = true
  connects : host.connects address d.acquireTimeout = true
  writable : (host.database? address).isSome = true

variable {host : Host}

/-! ## Database -/

variable (wait room : UInt64)

end Registry
end TradeRegister

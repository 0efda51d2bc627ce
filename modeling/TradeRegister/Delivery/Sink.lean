import TradeRegister.Delivery.Mutation

/-! # Notices and sinks

A notice is a mutation as it goes out: under a topic, with its key and payload. A sink takes
notices one at a time. It accepts or refuses one at once, or leaves it open, to be answered later or
never.
-/

namespace TradeRegister.Delivery

structure Notice where
  topic : String
  key : String
  payload : Bytes
deriving DecidableEq

def Mutation.notice (topic : String) (m : Mutation) : Notice := ⟨topic, m.key, m.payload⟩

inductive DeliveryError
  | closed
  | noSubscribers (topic : String)
deriving DecidableEq

def DeliveryError.message : DeliveryError → String
  | .closed => "event sink is closed"
  | .noSubscribers topic => "no subscribers for topic '" ++ topic ++ "'"

inductive Reply
  | accepted
  | refused (e : DeliveryError)
  | silent
deriving DecidableEq

/-- A sink whose states are `σ`. -/
abbrev Sink (σ : Type) := Notice → σ → Reply × σ

def Sink.discard : Sink Unit := fun _ s => (.accepted, s)

end TradeRegister.Delivery

import TradeRegister.Delivery.Mutation
import TradeRegister.Fault

/-! # Outcomes

What a service operation leads to: a result for the caller, the state of the store, and the
mutations to announce. Nothing comes back from the announcement, so delivery cannot change a
result.
-/

namespace TradeRegister.Service

structure Outcome (σ α : Type) where
  result : Except Fault α
  state : σ
  announced : List Delivery.Mutation := []

namespace Outcome

variable {σ α β : Type}

def refused (fault : Fault) (s : σ) : Outcome σ α := ⟨.error fault, s, []⟩

/-- The answer to a question: nothing changes. -/
def answer (result : Except Fault α) (s : σ) : Outcome σ α := ⟨result, s, []⟩

def map (f : α → β) (o : Outcome σ α) : Outcome σ β := ⟨o.result.map f, o.state, o.announced⟩

end Outcome
end TradeRegister.Service

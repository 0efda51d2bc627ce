import TradeRegister.Json.Basic
import TradeRegister.Uuid

/-! # Announced mutations

Every completed change to the register is announced once: what kind of change it was, under the
identifier of the company or account it was made to.
-/

namespace TradeRegister.Delivery

inductive MutationKind
  | create
  | update
  | delete
  | signup
deriving DecidableEq

def MutationKind.name : MutationKind → String
  | .create => "CREATE"
  | .update => "UPDATE"
  | .delete => "DELETE"
  | .signup => "SIGNUP"

structure Mutation where
  kind : MutationKind
  key : String
deriving DecidableEq

namespace Mutation

def of (kind : MutationKind) (id : Uuid) : Mutation := ⟨kind, id.text⟩

def payload (m : Mutation) : Bytes := (Json.ofFields [("event", .ofString m.kind.name)]).render

theorem payload_eq (m : Mutation) :
    m.payload = Bytes.ofString ("\x7b\"event\":\"" ++ m.kind.name ++ "\"\x7d") := by
  rw [payload]
  cases m.kind <;> decide

end Mutation
end TradeRegister.Delivery

import TradeRegister.User

/-! # Repositories

What the services ask of a store whose states are `σ`. Each operation is one atomic step. A
creation is given an identifier that no row has, for records that bring none.
-/

namespace TradeRegister.Store

structure CompanyRepository (σ : Type) where
  create : Uuid → Company → σ → Except Fault Company × σ
  byId : Uuid → σ → Except Fault Company
  byName : String → σ → Except Fault Company
  update : Company → σ → Except Fault Company × σ
  delete : Uuid → σ → Except Fault Unit × σ

/-- Accounts are never updated or deleted. -/
structure UserRepository (σ : Type) where
  create : Uuid → User → σ → Except Fault User × σ
  byId : Uuid → σ → Except Fault User
  byUsername : String → σ → Except Fault User

end TradeRegister.Store

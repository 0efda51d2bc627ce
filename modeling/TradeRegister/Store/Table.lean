import TradeRegister.Uuid

/-! # Keyed tables

A finite map from identifiers to rows. Writing under a key that is taken replaces its row.
-/

namespace TradeRegister.Store

structure Table (ρ : Type) where
  entries : List (Uuid × ρ) := []
deriving DecidableEq

namespace Table

variable {ρ : Type}

def get? (t : Table ρ) (id : Uuid) : Option ρ := t.entries.lookup id

def size (t : Table ρ) : Nat := t.entries.length

def contains (t : Table ρ) (id : Uuid) : Bool := (t.get? id).isSome

/-- Some row that satisfies `p`. -/
def find? (t : Table ρ) (p : ρ → Bool) : Option ρ := (t.entries.find? fun e => p e.2).map (·.2)

def any (t : Table ρ) (p : ρ → Bool) : Bool := t.entries.any fun e => p e.2

def erase (t : Table ρ) (id : Uuid) : Table ρ := ⟨t.entries.filter fun e => e.1 != id⟩

def put (t : Table ρ) (id : Uuid) (r : ρ) : Table ρ := ⟨(id, r) :: (t.erase id).entries⟩

end Table
end TradeRegister.Store

import TradeRegister.Fault
import TradeRegister.Json.Record

/-! # Attributes

An attribute is unset when nothing was said about it, cleared when it was said to be empty, and
otherwise has a value. In a JSON object an unset attribute has no member, and a cleared one is
`null`.
-/

namespace TradeRegister

inductive Attribute (α : Type)
  | unset
  | cleared
  | value (a : α)
deriving DecidableEq

namespace Attribute

variable {α β : Type}

def isUnset : Attribute α → Bool
  | .unset => true
  | _ => false

def isCleared : Attribute α → Bool
  | .cleared => true
  | _ => false

def isValue : Attribute α → Bool
  | .value _ => true
  | _ => false

def value? : Attribute α → Option α
  | .value a => some a
  | _ => none

def map (f : α → β) : Attribute α → Attribute β
  | .unset => .unset
  | .cleared => .cleared
  | .value a => .value (f a)

/-- A stored column is cleared or has a value; it is never unset. -/
def ofNullable : Option α → Attribute α
  | none => .cleared
  | some a => .value a

/-- What to write into a nullable column; `none` leaves it alone. -/
def patch? : Attribute α → Option (Option α)
  | .unset => none
  | .cleared => some none
  | .value a => some (some a)

/-- The value of an attribute that must have one. -/
def require (field : String) : Attribute α → Except Fault α
  | .unset => .error (.validation field "is required")
  | .cleared => .error (.validation field "cannot be cleared")
  | .value a => .ok a

/-- The same for callers of the register, to whom a cleared attribute is an empty one. -/
def requireFilled (field : String) : Attribute α → Except Fault α
  | .unset => .error (.validation field "is required")
  | .cleared => .error (.validation field "must not be empty")
  | .value a => .ok a

/-- The value, if any, of an attribute that may be left out but not cleared. -/
def rejectCleared (field : String) : Attribute α → Except Fault (Option α)
  | .unset => .ok none
  | .cleared => .error (.validation field "cannot be cleared")
  | .value a => .ok (some a)

/-- The attribute's member of an object. -/
def member (key : String) (f : α → Json) : Attribute α → List (String × Json)
  | .unset => []
  | .cleared => [(key, .null)]
  | .value a => [(key, f a)]

/-- The attribute that an object's member stands for, if there is one. -/
def ofMember? (f : Json → Option α) : Option Json → Option (Attribute α)
  | none => some .unset
  | some v => (Json.asNullable? f v).map ofNullable

theorem map_eq_cleared_iff {f : α → β} {x : Attribute α} : x.map f = .cleared ↔ x = .cleared := by
  cases x <;> simp [map]

theorem map_eq_value_iff {f : α → β} {x : Attribute α} {b : β} :
    x.map f = .value b ↔ ∃ a, x = .value a ∧ f a = b := by
  cases x <;> simp [map]

theorem value?_map (f : α → β) (x : Attribute α) : (x.map f).value? = x.value?.map f := by
  cases x <;> rfl

theorem ofNullable_ne_unset (o : Option α) : ofNullable o ≠ .unset := by cases o <;> simp [ofNullable]

theorem value?_eq_some_iff {x : Attribute α} {a : α} : x.value? = some a ↔ x = .value a := by
  cases x <;> simp [value?]

theorem patch?_eq_none_iff {x : Attribute α} : x.patch? = none ↔ x = .unset := by
  cases x <;> simp [patch?]

theorem ofNullable_eq_value_iff {o : Option α} {a : α} : ofNullable o = .value a ↔ o = some a := by
  cases o <;> simp [ofNullable]

theorem require_eq_ok_iff {field : String} {x : Attribute α} {a : α} :
    x.require field = .ok a ↔ x = .value a := by
  cases x <;> simp [require]

theorem rejectCleared_eq_ok_iff {field : String} {x : Attribute α} {o : Option α} :
    x.rejectCleared field = .ok o ↔ x ≠ .cleared ∧ x.value? = o := by
  cases x <;> simp [rejectCleared, value?]

end Attribute
end TradeRegister

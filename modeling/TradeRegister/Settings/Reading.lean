import TradeRegister.Settings.Value
import TradeRegister.Time.SpanText

/-! # Reading settings from values

A section is a dictionary whose keys are all known, read in the order of its keys, or a list of
its fields by position. What is left out keeps its usual value. An error names the place of the
value that was refused.
-/

namespace TradeRegister.Settings

inductive Reason
  | message
  | invalidType
  | invalidValue
  | unknownVariant
  | unknownField
  /-- A span that overruns, which ends the program. -/
  | overrun
deriving DecidableEq

structure LoadError where
  reason : Reason
  path : List String
deriving DecidableEq

abbrev Reader (α : Type) := Value → Except LoadError α

variable {α σ : Type}

def refuse (reason : Reason) : Except LoadError α := .error ⟨reason, []⟩

/-- The same outcome, its error placed under `key`. -/
def within (key : String) : Except LoadError α → Except LoadError α
  | .ok a => .ok a
  | .error e => .error { e with path := key :: e.path }

def readText : Reader String
  | .text s => .ok s
  | .letter c => .ok (String.singleton c)
  | _ => refuse .invalidType

def readBool : Reader Bool
  | .bool b => .ok b
  | _ => refuse .invalidType

/-- A natural number below `size`. -/
def readNat (size : Nat) : Reader Nat
  | .count n => if n < size then .ok n else refuse .invalidValue
  | .integer n => if 0 ≤ n && n < size then .ok n.toNat else refuse .invalidValue
  | _ => refuse .invalidType

def readSpan : Reader Span := fun v => do
  match Span.parse (← readText v) with
  | .ok span => .ok span
  | .error .unreadable => refuse .invalidValue
  | .error .overrun => refuse .overrun

/-- One of a few named variants, by name or by a dictionary from its name to nothing. -/
def readVariant (variants : List (String × α)) : Reader α
  | .text s => orUnknown (variants.lookup s)
  | .dict ((key, v) :: _) => within key do
    let a ← orUnknown (variants.lookup key)
    match v with
    | .empty => .ok a
    | _ => refuse .invalidType
  | _ => refuse .invalidType
where
  orUnknown : Option α → Except LoadError α
    | some a => .ok a
    | none => refuse .unknownVariant

/-- A field of the section `σ`. -/
structure Field (σ : Type) where
  key : String
  store : Value → σ → Except LoadError σ

def field (key : String) (read : Reader α) (put : α → σ → σ) : Field σ :=
  ⟨key, fun v s => (read v).map fun a => put a s⟩

def storeEntry (fields : List (Field σ)) (s : σ) (entry : String × Value) : Except LoadError σ :=
  within entry.1
    (match fields.find? fun f => f.key == entry.1 with
      | some f => f.store entry.2 s
      | none => refuse .unknownField)

/-- Items beyond the last field are ignored. -/
def storeItems : Nat → List (Field σ) → List Value → σ → Except LoadError σ
  | i, f :: fields, v :: items, s => do
    storeItems (i + 1) fields items (← within (toString i) (f.store v s))
  | _, _, _, s => .ok s

def readSection (fields : List (Field σ)) (usual : σ) : Reader σ
  | .dict entries => entries.foldlM (storeEntry fields) usual
  | .list items => storeItems 0 fields items usual
  | _ => refuse .invalidType

end TradeRegister.Settings

import TradeRegister.Uuid

/-! # Faults

Every operation on the register ends in a value or in one of five faults. Each fault has a short
kind for machines and two texts for people: the one kept inside names the cause of an
infrastructure fault, the one shown to callers keeps that cause apart.
-/

namespace TradeRegister

/-- What an infrastructure fault was caused by. The text of the storage engine is not kept. -/
inductive Cause
  | engine
  | unknownKind (company : Uuid) (kind : String)
  | other (text : String)
deriving DecidableEq

def Cause.text : Cause → String
  | .engine => "engine"
  | .unknownKind company kind =>
    "stored company " ++ company.text ++ " has unknown type '" ++ kind ++ "'"
  | .other text => text

inductive Fault
  | notFound (entity : String)
  | conflict (entity : String)
  | badCredentials
  | validation (field message : String)
  | infrastructure (cause : Cause)
deriving DecidableEq

namespace Fault

def kind : Fault → String
  | .notFound _ => "not_found"
  | .conflict _ => "conflict"
  | .badCredentials => "bad_credentials"
  | .validation _ _ => "validation"
  | .infrastructure _ => "infrastructure"

/-- The text shown to callers. -/
def publicMessage : Fault → String
  | .notFound entity => entity ++ " not found"
  | .conflict entity => entity ++ " already exists"
  | .badCredentials => "bad credentials"
  | .validation field message => "validation error on field '" ++ field ++ "': " ++ message
  | .infrastructure _ => "infrastructure error"

/-- The text kept inside. -/
def message : Fault → String
  | .infrastructure cause => "infrastructure error: " ++ cause.text
  | fault => fault.publicMessage

def cause? : Fault → Option Cause
  | .infrastructure cause => some cause
  | _ => none

def isNotFound : Fault → Bool
  | .notFound _ => true
  | _ => false

def isConflict : Fault → Bool
  | .conflict _ => true
  | _ => false

end Fault

inductive EngineError
  | uniqueViolation
  | rowNotUpdated
  | rowNotFound
  | failure
deriving DecidableEq

/-- A violated uniqueness is a conflict, and a missed row is not found. -/
def EngineError.fault (entity : String) : EngineError → Fault
  | .uniqueViolation => .conflict entity
  | .rowNotUpdated => .notFound entity
  | .rowNotFound => .notFound entity
  | .failure => .infrastructure .engine

end TradeRegister

import TradeRegister.Fault
import TradeRegister.Json.Record

/-! # Legal forms of a company

A closed set. A form is known by one name, in JSON texts and in storage alike.
-/

namespace TradeRegister

inductive CompanyKind
  | corporation
  | nonProfit
  | cooperative
  | soleProprietorship
deriving DecidableEq

namespace CompanyKind

def all : List CompanyKind := [.corporation, .nonProfit, .cooperative, .soleProprietorship]

def name : CompanyKind → String
  | .corporation => "Corporation"
  | .nonProfit => "NonProfit"
  | .cooperative => "Cooperative"
  | .soleProprietorship => "Sole Proprietorship"

def ofName? (s : String) : Option CompanyKind := all.find? fun k => k.name == s

def parse (s : String) : Except Fault CompanyKind :=
  match ofName? s with
  | some k => .ok k
  | none => .error (.validation "company_type" ("unknown company type '" ++ s ++ "'"))

def toJson (k : CompanyKind) : Json := .ofString k.name

/-- A name alone, or an object whose only key is the name and holds `null`. -/
def ofJson? : Json → Option CompanyKind
  | .string s => (Json.text? s).bind ofName?
  | .object [(key, .null)] => (Json.text? key).bind ofName?
  | _ => none

theorem ofName?_name (k : CompanyKind) : ofName? k.name = some k := by cases k <;> decide

theorem eq_name_of_ofName? {s : String} {k : CompanyKind} (h : ofName? s = some k) :
    s = k.name := by
  have := List.find?_some h
  exact (beq_iff_eq.1 this).symm

end CompanyKind
end TradeRegister

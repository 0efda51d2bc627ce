import TradeRegister.Settings.Environment
import TradeRegister.Text.Search
import TradeRegister.Yaml.Node.Reader

/-! # Settings documents

A document is a YAML mapping. A plain scalar denotes a null, a truth value or a number by its form,
and any other text denotes itself. Tags of the language itself say what a scalar is; no value has
a tag of its own.
-/

namespace TradeRegister.Settings.Document

open Yaml (Node)

/-! ## Scalars -/

def nulls : List String := ["~", "null", "Null", "NULL"]
def truths : List String := ["true", "True", "TRUE"]
def falsehoods : List String := ["false", "False", "FALSE"]
def nonFinite : List String :=
  [".inf", ".Inf", ".INF", "-.inf", "-.Inf", "-.INF", "+.inf", "+.Inf", "+.INF", ".nan", ".NaN",
    ".NAN"]

def radixDigit? (radix : Nat) (c : Char) : Option Nat :=
  (Hexadecimal.value? c).bind fun d => if d < radix then some d else none

def ofRadix? (radix : Nat) (cs : List Char) : Option Nat :=
  if cs.isEmpty then none else cs.foldlM (fun n c => (radixDigit? radix c).map (radix * n + ·)) 0

/-- Digits that start with a zero, such as a postal code, are no numeral. -/
def hasLeadingZero : List Char → Bool
  | '0' :: d :: cs => (d :: cs).all Char.isDigit
  | _ => false

def magnitude? : List Char → Option Nat
  | '0' :: 'x' :: cs => ofRadix? 16 cs
  | '0' :: 'o' :: cs => ofRadix? 8 cs
  | '0' :: 'b' :: cs => ofRadix? 2 cs
  | cs => if hasLeadingZero cs then none else Decimal.read? cs

def integer? : List Char → Option Int
  | '-' :: cs =>
    (magnitude? cs).bind fun n => if n ≤ 0x80000000000000000000000000000000 then some (-n) else none
  | '+' :: cs => natural? cs
  | cs => natural? cs
where
  natural? (cs : List Char) : Option Int :=
    (magnitude? cs).bind fun n => if n < 0x100000000000000000000000000000000 then some n else none

/-- Decimal numerals that are finite, infinities, and what is not a number. -/
def isReal (cs : List Char) : Bool :=
  nonFinite.contains (String.ofList cs) || (Decimal.Floating.ofChars? cs).any fun x => x.isFinite

def ofInteger (n : Int) : Value :=
  if -0x8000000000000000 ≤ n && n < 0x10000000000000000 then .integer n else .real

def bool? (s : String) : Option Bool :=
  if truths.contains s then some true else if falsehoods.contains s then some false else none

def ofPlain (s : String) : Value :=
  if s = "" || nulls.contains s then .empty
  else
    match bool? s, integer? s.toList with
    | some b, _ => .bool b
    | none, some n => ofInteger n
    | none, none =>
      if hasLeadingZero (Decimal.unsigned s.toList) then .text s
      else if isReal s.toList then .real
      else .text s

/-- A scalar with a tag is what the tag says, or an error. -/
def ofTagged? (tag s : String) : Option Value :=
  match tag with
  | "tag:yaml.org,2002:bool" => (bool? s).map .bool
  | "tag:yaml.org,2002:int" => (integer? s.toList).map ofInteger
  | "tag:yaml.org,2002:float" => if isReal s.toList then some .real else none
  | "tag:yaml.org,2002:null" => if nulls.contains s then some .empty else none
  | _ => if Text.startsWith "!" tag then none else some (.text s)

def ofScalar? (tag : Option String) (isPlain : Bool) (s : String) : Option Value :=
  match tag with
  | some tag => ofTagged? tag s
  | none => some (if isPlain then ofPlain s else .text s)

/-! ## Collections -/

def isLocal (tag : Option String) : Bool := tag.any fun t => Text.startsWith "!" t

/-- A key is the text of a scalar, whatever it may denote. -/
def key? : Node → Option String
  | .scalar _ _ s => some s
  | _ => none

mutual

/-- The value of a node with at most `depth` collections one in the other. -/
def value? : Nat → Node → Option Value
  | _, .scalar tag isPlain s => ofScalar? tag isPlain s
  | 0, _ => none
  | depth + 1, .sequence tag items =>
    if isLocal tag then none else (items? depth items).map .list
  | depth + 1, .mapping tag entries =>
    if isLocal tag then none else (entries? depth [] entries).map .dict

def items? (depth : Nat) : List Node → Option (List Value)
  | [] => some []
  | v :: rest => do some ((← value? depth v) :: (← items? depth rest))

/-- Of a repeated key the last entry counts. -/
def entries? (depth : Nat) (es : List (String × Value)) :
    List (Node × Node) → Option (List (String × Value))
  | [] => some es
  | (k, v) :: rest => do entries? depth (Value.put (← key? k) (← value? depth v) es) rest

end

/-- How many collections may stand one in the other. -/
def maxDepth : Nat := 128

def read? (s : String) : Option (List (String × Value)) :=
  match Node.ofString? s with
  | some none => some []
  | some (some (.scalar _ true "")) => some []
  | some (some (.mapping _ entries)) => entries? (maxDepth - 1) [] entries
  | _ => none

end TradeRegister.Settings.Document

import TradeRegister.Json.Record

/-! # Setting values

A layer of settings is a tree. Layers are merged key by key: where both sides have a dictionary
the two are merged, and anywhere else the later side wins. The keys of a dictionary are sorted.
-/

namespace TradeRegister.Settings

inductive Value
  | empty
  | text (s : String)
  | letter (c : Char)
  | bool (b : Bool)
  | integer (n : Int)
  /-- A number from the environment that has no sign. -/
  | count (n : Nat)
  /-- A number that is no integer of 64 bits. No setting takes one, so which it is is not kept. -/
  | real
  | list (items : List Value)
  | dict (entries : List (String × Value))

namespace Value

def isDict : Value → Bool
  | .dict _ => true
  | _ => false

/-- Replaces the entry of `key`, or adds one in its place. -/
def put (key : String) (v : Value) : List (String × Value) → List (String × Value)
  | [] => [(key, v)]
  | (k, w) :: rest =>
    if key = k then (key, v) :: rest
    else if key < k then (key, v) :: (k, w) :: rest
    else (k, w) :: put key v rest

theorem lookup_put_self (key : String) (v : Value) (es : List (String × Value)) :
    (put key v es).lookup key = some v := by
  induction es with
  | nil => simp [put]
  | cons e es ih =>
    obtain ⟨k, w⟩ := e
    rw [put]
    split
    · simp
    · next hne =>
      split
      · simp
      · have : (key == k) = false := by simpa using hne
        rw [List.lookup_cons, this]
        exact ih

theorem lookup_put_of_ne {key other : String} (h : other ≠ key) (v : Value)
    (es : List (String × Value)) : (put key v es).lookup other = es.lookup other := by
  have hb : (other == key) = false := by simpa using h
  induction es with
  | nil => simp [put, List.lookup_cons, hb]
  | cons e es ih =>
    obtain ⟨k, w⟩ := e
    rw [put]
    split
    · next heq =>
      subst heq
      simp [List.lookup_cons, hb]
    · split
      · simp [List.lookup_cons, hb]
      · rw [List.lookup_cons, List.lookup_cons, ih]

mutual

/-- The second value laid over the first. -/
def merge (under : Value) : Value → Value
  | .dict entries =>
    match under with
    | .dict base => .dict (mergeEntries base entries)
    | _ => .dict entries
  | v => v

def mergeEntries (base : List (String × Value)) : List (String × Value) → List (String × Value)
  | [] => base
  | (key, v) :: rest =>
    let merged := match base.lookup key with
      | some old => merge old v
      | none => v
    mergeEntries (put key merged base) rest

end

def ofNumeral (literal : List Char) : Value :=
  match Json.integer? literal with
  | some n => if -0x8000000000000000 ≤ n && n < 0x10000000000000000 then .integer n else .real
  | none => .real

mutual

def ofJson? : Json → Option Value
  | .null => some .empty
  | .bool b => some (.bool b)
  | .number literal => some (ofNumeral literal)
  | .string literal => (Json.text? literal).map .text
  | .array items => (ofItems? items).map .list
  | .object members => (ofMembers? [] members).map .dict

def ofItems? : List Json → Option (List Value)
  | [] => some []
  | v :: rest => do some ((← ofJson? v) :: (← ofItems? rest))

/-- Of a repeated key the last member counts. -/
def ofMembers? (entries : List (String × Value)) : List (Bytes × Json) → Option (List (String × Value))
  | [] => some entries
  | (key, v) :: rest => do
    ofMembers? (put (← Json.text? key) (← ofJson? v) entries) rest

end

end Value
end TradeRegister.Settings

import TradeRegister.Hexadecimal
import TradeRegister.Settings.Numeral
import TradeRegister.Settings.Value
import TradeRegister.Text.Blank
import TradeRegister.Text.Search
import TradeRegister.Text.Split

/-! # Settings from environment variables

A variable whose name starts with `REGISTRY_` sets the value at the path that the rest of its name
spells, two underscores between keys. Its text is read as a value of a small notation: truth
values, numbers, quoted text, letters, lists and dictionaries. A text that does not fit the
notation to its end stands for itself.
-/

namespace TradeRegister.Settings.Environment

def isSpace (c : Char) : Bool :=
  c == ' ' || c == '\t' || c == '\n' || c == '\x0c' || c == '\r'

def skipSpace (cs : List Char) : List Char := cs.dropWhile isSpace

def isSeparator (c : Char) : Bool :=
  c == ',' || c == '\x7b' || c == '\x7d' || c == '[' || c == ']'

def isKeyChar (c : Char) : Bool := c.isAlphanum || c == '_' || c == '-'

/-- What stands before the closing quote, escapes included, and what follows it. -/
def quotedBody? : List Char → Option (List Char × List Char)
  | [] => none
  | '"' :: rest => some ([], rest)
  | '\\' :: c :: rest => (quotedBody? rest).map fun (body, rest) => ('\\' :: c :: body, rest)
  | c :: rest => (quotedBody? rest).map fun (body, rest) => (c :: body, rest)

def simpleEscape? : Char → Option Char
  | '"' => some '"'
  | '\\' => some '\\'
  | 'b' => some '\x08'
  | 'f' => some '\x0c'
  | 'n' => some '\n'
  | 'r' => some '\r'
  | 't' => some '\t'
  | _ => none

def isPlain (c : Char) : Bool := c == '\t' || (' ' ≤ c && c != '\x7f')

def unescape? : List Char → Option (List Char)
  | [] => some []
  | '\\' :: 'u' :: a :: b :: c :: d :: rest => do
    some ((← Hexadecimal.char? [a, b, c, d]) :: (← unescape? rest))
  | '\\' :: 'U' :: a :: b :: c :: d :: e :: f :: g :: h :: rest => do
    some ((← Hexadecimal.char? [a, b, c, d, e, f, g, h]) :: (← unescape? rest))
  | '\\' :: c :: rest => do some ((← simpleEscape? c) :: (← unescape? rest))
  | c :: rest => if isPlain c then (unescape? rest).map (c :: ·) else none

def quoted? : List Char → Option (String × List Char)
  | '"' :: cs => do
    let (body, rest) ← quotedBody? cs
    some (String.ofList (← unescape? body), rest)
  | _ => none

def ofBare (cs : List Char) : Value :=
  let cs := Text.trimChars cs
  if cs.contains '.' && Numeral.isDecimal cs then .real
  else
    match Numeral.count? cs with
    | some n => .count n
    | none =>
      match Numeral.integer? cs with
      | some n => .integer n
      | none => .text (String.ofList cs)

def key? (cs : List Char) : Option (String × List Char) :=
  match cs with
  | '"' :: _ => quoted? cs
  | _ =>
    match cs.takeWhile isKeyChar with
    | [] => none
    | name => some (String.ofList name, cs.dropWhile isKeyChar)

mutual

/-- A value at the start, white space around it, and what follows; `fuel` bounds the nesting. -/
def value? : Nat → List Char → Option (Value × List Char)
  | 0, _ => none
  | fuel + 1, cs =>
    let cs := skipSpace cs
    let read : Option (Value × List Char) :=
      match Text.after? ['t', 'r', 'u', 'e'] cs, Text.after? ['f', 'a', 'l', 's', 'e'] cs, cs with
      | some rest, _, _ => some (.bool true, rest)
      | _, some rest, _ => some (.bool false, rest)
      | _, _, '\x7b' :: rest => (entries? fuel rest []).map fun (es, rest) => (.dict es, rest)
      | _, _, '[' :: rest => (items? fuel rest).map fun (vs, rest) => (.list vs, rest)
      | _, _, '"' :: _ => (quoted? cs).map fun (s, rest) => (.text s, rest)
      | _, _, '\'' :: c :: '\'' :: rest => some (.letter c, rest)
      | _, _, '\'' :: _ => none
      | _, _, _ =>
        some (ofBare (cs.takeWhile (!isSeparator ·)), cs.dropWhile (!isSeparator ·))
    read.map fun (v, rest) => (v, skipSpace rest)

/-- Items up to the closing bracket; a comma may follow the last. -/
def items? : Nat → List Char → Option (List Value × List Char)
  | 0, _ => none
  | _ + 1, ']' :: rest => some ([], rest)
  | fuel + 1, cs => do
    let (v, rest) ← value? fuel cs
    match rest with
    | ',' :: rest =>
      let (vs, rest) ← items? fuel rest
      some (v :: vs, rest)
    | ']' :: rest => some ([v], rest)
    | _ => none

def entries? : Nat → List Char → List (String × Value) → Option (List (String × Value) × List Char)
  | 0, _, _ => none
  | _ + 1, '\x7d' :: rest, es => some (es, rest)
  | fuel + 1, cs, es => do
    let (key, rest) ← key? (skipSpace cs)
    match skipSpace rest with
    | '=' :: rest =>
      let (v, rest) ← value? fuel rest
      let es := Value.put key v es
      match rest with
      | ',' :: rest => entries? fuel rest es
      | '\x7d' :: rest => some (es, rest)
      | _ => none
    | _ => none

end

def read (s : String) : Value :=
  match value? (2 * s.length + 1) s.toList with
  | some (v, []) => v
  | _ => .text s

/-- True for what an environment can hold: a name, without an equals sign, and a text, neither with
a character of code zero. -/
def canHold (x : String × String) : Bool :=
  x.1 != "" && !x.1.toList.contains '=' && !x.1.toList.contains '\x00' &&
    !x.2.toList.contains '\x00'

def marker : List Char := "REGISTRY_".toList

/-- The part of a name after the marker, which stands in either case. -/
def unmarked? (cs : List Char) : Option (List Char) :=
  if (cs.take marker.length).map Char.toUpper = marker then some (cs.drop marker.length) else none

/-- Replaces every pair of underscores by a dot, from left to right. -/
def dotted : List Char → List Char
  | '_' :: '_' :: rest => '.' :: dotted rest
  | c :: rest => c :: dotted rest
  | [] => []

/-- The path that a variable's name spells, if it is one for settings. White space around the name
is ignored, before the marker and after it; no key on the path is empty. -/
def path? (name : String) : Option (List String) := do
  let rest ← unmarked? (Text.trimChars name.toList)
  let keys := Text.split '.' (Text.trimChars (dotted rest))
  if keys.any List.isEmpty then none
  else some (keys.map fun key => String.ofList (key.map Char.toLower))

def nest (v : Value) : List String → Value
  | [] => v
  | key :: keys => .dict [(key, nest v keys)]

/-- Sets a variable; one that was set before keeps its place among the others. -/
def bind (bindings : List (String × String)) (x : String × String) : List (String × String) :=
  if bindings.any fun y => y.1 == x.1 then bindings.map fun y => if y.1 = x.1 then x else y
  else bindings ++ [x]

/-- The tree that the variables set, later ones over earlier ones. -/
def layer (bindings : List (String × String)) : Value :=
  (bindings.foldl bind []).foldl
    (fun tree x =>
      match path? x.1 with
      | some keys => tree.merge (nest (read x.2) keys)
      | none => tree)
    (.dict [])

end TradeRegister.Settings.Environment

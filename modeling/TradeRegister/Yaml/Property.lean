import TradeRegister.Bytes
import TradeRegister.Hexadecimal
import TradeRegister.Decimal
import TradeRegister.Yaml.Glyph
import TradeRegister.Yaml.Token

/-! # Anchors, tags and directives

An anchor names a value. A tag is written out between angle brackets, or starts with a handle that
a directive defines.
-/

namespace TradeRegister.Yaml.Property

open Glyph (chars dropBlanks endsWord)

def isNameChar (c : Char) : Bool := c.isAlphanum || c == '_' || c == '-'

def name (gs : List Glyph) : List Char × List Glyph :=
  (chars (gs.takeWhile fun g => isNameChar g.char), gs.dropWhile fun g => isNameChar g.char)

/-- The name of an anchor, with white space or one of a few indicators after it. -/
def anchor? (gs : List Glyph) : Option (String × List Glyph) :=
  match name gs with
  | ([], _) => none
  | (cs, rest) =>
    if endsWord rest || rest.head?.any fun g => "?:,]\x7d%@\x60".toList.contains g.char then
      some (String.ofList cs, rest)
    else none

def isUriChar (isVerbatim : Bool) (c : Char) : Bool :=
  isNameChar c || ";/?:@&=+$.!~*'()".toList.contains c ||
    (isVerbatim && (c == ',' || c == '[' || c == ']'))

def octets? (isVerbatim : Bool) : List Glyph → Option (Bytes × List Glyph)
  | [] => some ([], [])
  | g :: rest =>
    if g.char == '%' then
      match rest with
      | a :: b :: rest => do
        let octet ← Hexadecimal.octet? a.char b.char
        let (octets, rest) ← octets? isVerbatim rest
        some (octet :: octets, rest)
      | _ => none
    else if isUriChar isVerbatim g.char then
      (octets? isVerbatim rest).map fun (octets, rest) => (g.char.toUInt8 :: octets, rest)
    else some ([], g :: rest)

def uri? (isVerbatim : Bool) (gs : List Glyph) : Option (String × List Glyph) := do
  let (octets, rest) ← octets? isVerbatim gs
  some (← Bytes.toString? octets, rest)

def uri1? (isVerbatim : Bool) (gs : List Glyph) : Option (String × List Glyph) :=
  match uri? isVerbatim gs with
  | some ("", _) => none
  | r => r

def verbatimTag? (gs : List Glyph) : Option (Tag × List Glyph) := do
  let (suffix, rest) ← uri1? true gs
  match rest with
  | g :: rest => if g.char == '>' then some (⟨"", suffix⟩, rest) else none
  | [] => none

/-- A tag after its exclamation mark, with a handle between two of them or the mark alone. -/
def shortTag? (gs : List Glyph) : Option (Tag × List Glyph) :=
  let (cs, after) := name gs
  if after.head?.any fun g => g.char == '!' then
    (uri1? false after.tail).map fun (suffix, rest) =>
      (⟨"!" ++ String.ofList cs ++ "!", suffix⟩, rest)
  else
    (uri? false after).map fun (more, rest) =>
      let suffix := String.ofList cs ++ more
      (if suffix = "" then ⟨"", "!"⟩ else ⟨"!", suffix⟩, rest)

def tag? (inFlow : Bool) (gs : List Glyph) : Option (Tag × List Glyph) := do
  let (t, rest) ← match gs with
    | g :: gs => if g.char == '<' then verbatimTag? gs else shortTag? (g :: gs)
    | [] => shortTag? []
  if endsWord rest || (inFlow && rest.head?.any fun g => g.char == ',') then some (t, rest)
  else none

/-! ## Directives -/

def number? (gs : List Glyph) : Option (Nat × List Glyph) := do
  let digits := chars (gs.takeWhile fun g => g.char.isDigit)
  let n ← Decimal.read? digits
  if digits.length ≤ 9 then some (n, gs.dropWhile fun g => g.char.isDigit) else none

def version? (gs : List Glyph) : Option (Token × List Glyph) := do
  let (major, rest) ← number? gs
  match rest with
  | g :: rest =>
    let (minor, rest) ← number? rest
    if g.char == '.' && major == 1 && (minor == 1 || minor == 2) then some (.version, rest) else none
  | [] => none

/-- A handle in exclamation marks, or one mark alone, and what it stands for. -/
def handle? (gs : List Glyph) : Option (Token × List Glyph) := do
  let (handle, rest) ← match gs with
    | g :: gs =>
      if g.char == '!' then
        match name gs with
        | (cs, after) =>
          if after.head?.any fun g => g.char == '!' then
            some ("!" ++ String.ofList cs ++ "!", after.tail)
          else if cs.isEmpty then some ("!", after)
          else none
      else none
    | [] => none
  if rest.head?.any fun g => isBlank g.char then
    let (stem, rest) ← uri1? true (dropBlanks rest)
    if endsWord rest then some (.handle handle stem, rest) else none
  else none

/-- A directive after its percent sign, up to the end of the line. -/
def directive? (gs : List Glyph) : Option (Token × List Glyph) := do
  let (cs, after) := name gs
  if endsWord after then
    let (t, rest) ← match String.ofList cs with
      | "YAML" => version? (dropBlanks after)
      | "TAG" => handle? (dropBlanks after)
      | _ => none
    some (t, ← Glyph.nextLine? rest)
  else none

end TradeRegister.Yaml.Property

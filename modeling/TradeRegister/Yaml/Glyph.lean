/-! # Placed characters

A YAML text is a list of characters, each with its place. Every line break is one character: a
line feed stands for all of them but the two separators of Unicode, which stand for themselves.
-/

namespace TradeRegister.Yaml

structure Glyph where
  char : Char
  /-- How many characters stand before it. -/
  index : Nat
  line : Nat
  column : Nat

def byteOrderMark : Char := '\ufeff'

/-- Control characters other than tabs and line breaks have no place in a text. -/
def isAllowed (c : Char) : Bool :=
  let n := c.toNat
  n == 0x09 || n == 0x0A || n == 0x0D || (0x20 ≤ n && n ≤ 0x7E) || n == 0x85 ||
    (0xA0 ≤ n && n ≤ 0xFFFD) || 0x10000 ≤ n

def isBlank (c : Char) : Bool := c == ' ' || c == '\t'

def isSeparator (c : Char) : Bool := c == '\u2028' || c == '\u2029'

def isBreak (c : Char) : Bool := c == '\n' || isSeparator c

def isGap (c : Char) : Bool := isBlank c || isBreak c

namespace Glyph

/-- The characters of a text from this place on. -/
def place (index line column : Nat) : List Char → List Glyph
  | [] => []
  | '\r' :: '\n' :: cs => ⟨'\n', index, line, column⟩ :: place (index + 2) (line + 1) 0 cs
  | c :: cs =>
    if c == '\r' || c == '\u0085' || isBreak c then
      ⟨if isSeparator c then c else '\n', index, line, column⟩ ::
        place (index + 1) (line + 1) 0 cs
    else ⟨c, index, line, column⟩ :: place (index + 1) line (column + 1) cs

def ofChars? (cs : List Char) : Option (List Glyph) :=
  if cs.all isAllowed then
    some (place 0 0 0 (if cs.head? = some byteOrderMark then cs.tail else cs))
  else none

def endsWord (gs : List Glyph) : Bool := gs.head?.all fun g => isGap g.char

/-- True in front of three times `c` that start a line and end a word. -/
def isMark (c : Char) : List Glyph → Bool
  | x :: y :: z :: gs =>
    x.column == 0 && x.char == c && y.char == c && z.char == c && endsWord gs
  | _ => false

/-- True where a document starts or ends. -/
def isDocumentMark (gs : List Glyph) : Bool := isMark '-' gs || isMark '.' gs

def dropBlanks (gs : List Glyph) : List Glyph := gs.dropWhile fun g => isBlank g.char

def dropLine (gs : List Glyph) : List Glyph := gs.dropWhile fun g => !isBreak g.char

/-- The next line, if only a comment is left of this one. -/
def nextLine? (gs : List Glyph) : Option (List Glyph) :=
  let gs := dropBlanks gs
  let gs := if gs.head?.any fun g => g.char == '#' then dropLine gs else gs
  match gs with
  | [] => some []
  | g :: gs => if isBreak g.char then some gs else none

def chars (gs : List Glyph) : List Char := gs.map Glyph.char

end Glyph
end TradeRegister.Yaml

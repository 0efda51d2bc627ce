import TradeRegister.Yaml.Block
import TradeRegister.Yaml.Plain
import TradeRegister.Yaml.Property
import TradeRegister.Yaml.Quoted

/-! # Reading tokens

A key is known only by the colon after it, so the place where one may have started is kept until
then, and the tokens that mark it are put there afterwards. A key stands on one line and is
followed by its colon within 1024 characters.
-/

namespace TradeRegister.Yaml

structure Candidate where
  /-- How many tokens stand before it. -/
  number : Nat
  start : Glyph
  /-- At the margin of a block only keys may start. -/
  isRequired : Bool

def Candidate.isStale (c : Candidate) (g : Glyph) : Bool :=
  c.start.line < g.line || c.start.index + 1024 < g.index

/-- A candidate that may still become a key at `g`; one that has to, but cannot, is an error. -/
def Candidate.kept? (g : Glyph) : Option Candidate → Option (Option Candidate)
  | none => some none
  | some c => if c.isStale g then (if c.isRequired then none else some none) else some (some c)

structure Lexer where
  /-- The tokens so far, the latest first. -/
  tokens : List Token := []
  keyAllowed : Bool := true
  /-- The columns of the open blocks, the innermost first. -/
  blocks : List Nat := []
  candidate : Option Candidate := none
  /-- The candidates outside of each open bracket, the innermost first. -/
  outer : List (Option Candidate) := []

namespace Lexer

def inFlow (x : Lexer) : Bool := !x.outer.isEmpty

def emit (t : Token) (x : Lexer) : Lexer := { x with tokens := t :: x.tokens }

def insert (number : Nat) (t : Token) (x : Lexer) : Lexer :=
  { x with tokens := x.tokens.insertIdx (x.tokens.length - number) t }

def margin (x : Lexer) : Nat :=
  match x.blocks with
  | [] => 0
  | column :: _ => column + 1

/-- Opens a block if the column is beyond the margin. -/
def openBlock (number : Nat) (t : Token) (column : Nat) (x : Lexer) : Lexer :=
  if !x.inFlow && x.margin ≤ column then { x.insert number t with blocks := column :: x.blocks }
  else x

def closeBlocks (limit : Nat) (x : Lexer) : Lexer :=
  if x.inFlow then x
  else
    { x with
      tokens := (x.blocks.takeWhile (limit ≤ ·)).map (fun _ => .blockEnd) ++ x.tokens
      blocks := x.blocks.dropWhile (limit ≤ ·) }

def drop? (x : Lexer) : Option Lexer :=
  match x.candidate with
  | none => some x
  | some c => if c.isRequired then none else some { x with candidate := none }

def save? (g : Glyph) (x : Lexer) : Option Lexer :=
  if x.keyAllowed then do
    let x ← x.drop?
    let isRequired := !x.inFlow && x.blocks.head? == some g.column
    some { x with candidate := some ⟨x.tokens.length, g, isRequired⟩ }
  else some x

def refresh? (g : Glyph) (x : Lexer) : Option Lexer := do
  let candidate ← Candidate.kept? g x.candidate
  let outer ← x.outer.mapM (Candidate.kept? g)
  some { x with candidate, outer }

/-! ## Indicators -/

def mark? (t : Token) (x : Lexer) : Option Lexer := do
  let x ← (x.closeBlocks 0).drop?
  some { x.emit t with keyAllowed := false }

def openFlow? (t : Token) (g : Glyph) (x : Lexer) : Option Lexer := do
  let x ← x.save? g
  some { x.emit t with candidate := none, outer := x.candidate :: x.outer, keyAllowed := true }

/-- Closing brackets without an opening one are left to the reader of the tokens. -/
def closeFlow? (t : Token) (x : Lexer) : Option Lexer := do
  let x ← x.drop?
  let x := match x.outer with
    | [] => x
    | candidate :: outer => { x with candidate, outer }
  some { x.emit t with keyAllowed := false }

def comma? (x : Lexer) : Option Lexer := do
  let x ← x.drop?
  some { x.emit .comma with keyAllowed := true }

/-- Outside of brackets a block may start where a key may. -/
def enter? (t : Token) (g : Glyph) (x : Lexer) : Option Lexer :=
  if x.inFlow then some x
  else if x.keyAllowed then some (x.openBlock x.tokens.length t g.column)
  else none

def item? (g : Glyph) (x : Lexer) : Option Lexer := do
  let x ← (← x.enter? .sequenceStart g).drop?
  some { x.emit .item with keyAllowed := true }

def key? (g : Glyph) (x : Lexer) : Option Lexer := do
  let x ← (← x.enter? .mappingStart g).drop?
  some { x.emit .key with keyAllowed := !x.inFlow }

def value? (g : Glyph) (x : Lexer) : Option Lexer :=
  match x.candidate with
  | some c =>
    let x := (x.insert c.number .key).openBlock c.number .mappingStart c.start.column
    some { x.emit .value with candidate := none, keyAllowed := false }
  | none => do
    let x ← x.enter? .mappingStart g
    some { x.emit .value with keyAllowed := !x.inFlow }

/-! ## Properties and scalars -/

def word? (g : Glyph) (x : Lexer) : Option (Token × List Glyph) → Option (Lexer × List Glyph)
  | none => none
  | some (t, rest) => (x.save? g).map fun x => ({ x.emit t with keyAllowed := false }, rest)

def quoted? (quote : Char) (gs : List Glyph) : Option (Token × List Glyph) :=
  (Quoted.read? quote gs).map fun (cs, rest) => (.scalar false (String.ofList cs), rest)

def block? (isFolded : Bool) (gs : List Glyph) (x : Lexer) : Option (Lexer × List Glyph) := do
  let (cs, rest) ← Block.read? isFolded x.margin gs
  let x ← x.drop?
  some ({ x.emit (.scalar false (String.ofList cs)) with keyAllowed := true }, rest)

/-- After a plain scalar over the end of its line a key may start. -/
def plain? (g : Glyph) (gs : List Glyph) (x : Lexer) : Option (Lexer × List Glyph) := do
  let p ← Plain.read? x.inFlow x.margin (g :: gs)
  let x ← x.save? g
  some ({ x.emit (.scalar true (String.ofList p.text)) with keyAllowed := p.endsLine }, p.rest)

def isReserved (c : Char) : Bool := isGap c || "|>%@\x60".toList.contains c

def next? (x : Lexer) (g : Glyph) (gs : List Glyph) : Option (Lexer × List Glyph) :=
  let atWordEnd := x.inFlow || Glyph.endsWord gs
  let on (r : Option Lexer) : Option (Lexer × List Glyph) := r.map fun x => (x, gs)
  if g.column == 0 && g.char == '%' then
    match Property.directive? gs with
    | some (t, rest) => (x.mark? t).map fun x => (x, rest)
    | none => none
  else if Glyph.isMark '-' (g :: gs) then (x.mark? .documentStart).map fun x => (x, gs.drop 2)
  else if Glyph.isMark '.' (g :: gs) then (x.mark? .documentEnd).map fun x => (x, gs.drop 2)
  else if g.char == '[' then on (x.openFlow? .openBracket g)
  else if g.char == '\x7b' then on (x.openFlow? .openBrace g)
  else if g.char == ']' then on (x.closeFlow? .closeBracket)
  else if g.char == '\x7d' then on (x.closeFlow? .closeBrace)
  else if g.char == ',' then on x.comma?
  else if g.char == '-' && Glyph.endsWord gs then on (x.item? g)
  else if g.char == '?' && atWordEnd then on (x.key? g)
  else if g.char == ':' && atWordEnd then on (x.value? g)
  else if g.char == '*' then
    x.word? g ((Property.anchor? gs).map fun (name, rest) => (.alias name, rest))
  else if g.char == '&' then
    x.word? g ((Property.anchor? gs).map fun (name, rest) => (.anchor name, rest))
  else if g.char == '!' then
    x.word? g ((Property.tag? x.inFlow gs).map fun (t, rest) => (.tag t, rest))
  else if g.char == '|' && !x.inFlow then x.block? false gs
  else if g.char == '>' && !x.inFlow then x.block? true gs
  else if g.char == '\'' || g.char == '"' then x.word? g (quoted? g.char gs)
  else if isReserved g.char then none
  else x.plain? g gs

/-! ## Whole texts -/

/-- Skips what stands before the next token, and says whether a key may start there. A tab may not
stand where a key may. -/
def skip (inFlow : Bool) (inComment keyAllowed : Bool) : List Glyph → Bool × List Glyph
  | [] => (keyAllowed, [])
  | g :: gs =>
    if isBreak g.char then skip inFlow false (keyAllowed || !inFlow) gs
    else if inComment then skip inFlow true keyAllowed gs
    else if g.char == '#' then skip inFlow true keyAllowed gs
    else if g.char == ' ' || (g.char == '\t' && (inFlow || !keyAllowed)) ||
        (g.char == byteOrderMark && g.index == 0) then
      skip inFlow false keyAllowed gs
    else (keyAllowed, g :: gs)

/-- At most `fuel` tokens are read; each takes a character. -/
def run? : Nat → Lexer → List Glyph → Option Lexer
  | fuel, x, gs =>
    match skip x.inFlow false x.keyAllowed gs, fuel with
    | (_, []), _ => (x.closeBlocks 0).drop?
    | _, 0 => none
    | (keyAllowed, g :: gs), fuel + 1 => do
      let x ← { x with keyAllowed }.refresh? g
      let (x, gs) ← (x.closeBlocks (g.column + 1)).next? g gs
      run? fuel x gs

end Lexer

def Token.ofString? (s : String) : Option (List Token) := do
  let gs ← Glyph.ofChars? s.toList
  let x ← Lexer.run? gs.length {} gs
  some x.tokens.reverse

end TradeRegister.Yaml

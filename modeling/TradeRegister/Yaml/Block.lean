import TradeRegister.Yaml.Glyph

/-! # Block scalars

Indented lines under a header, kept as they are or folded. The first line decides the indentation
if the header does not, and the header says what remains of the line breaks at the end.
-/

namespace TradeRegister.Yaml.Block

inductive Chomping
  | strip
  | clip
  | keep
deriving DecidableEq

structure Header where
  chomping : Chomping := .clip
  /-- The indentation beyond the block around it, where the header gives one. -/
  indentation : Option Nat := none

/-- A line, its own line break, and those of the empty lines after it. -/
structure Line where
  text : List Char
  ending : List Char
  empties : List Char

def chomping? : Char → Option Chomping
  | '+' => some .keep
  | '-' => some .strip
  | _ => none

def indentation? (c : Char) : Option Nat :=
  if c.isDigit && c != '0' then some (c.toNat - 48) else none

/-- Two indicators, each at most once and in any order; any other indicator is for the line. -/
def header : List Glyph → Header × List Glyph
  | [] => ({}, [])
  | a :: gs =>
    let second : Option Char := gs.head?.map Glyph.char
    match chomping? a.char, indentation? a.char with
    | some chomping, _ =>
      match second.bind indentation? with
      | some n => (⟨chomping, some n⟩, gs.tail)
      | none => (⟨chomping, none⟩, gs)
    | none, some n =>
      match second.bind chomping? with
      | some chomping => (⟨chomping, some n⟩, gs.tail)
      | none => (⟨.clip, some n⟩, gs)
    | none, none => ({}, a :: gs)

/-- The line breaks of empty lines in front, the deepest column that they reach, and what follows.
The margin is open while the indentation is not known. -/
def empties? (margin : Option Nat) (deepest : Nat) :
    List Glyph → Option (List Char × Nat × List Glyph)
  | [] => some ([], deepest, [])
  | g :: gs =>
    let inMargin := margin.all fun n => g.column < n
    if g.char == ' ' && inMargin then empties? margin deepest gs
    else if g.char == '\t' && inMargin then none
    else if isBreak g.char then
      (empties? margin (max deepest g.column) gs).map fun (breaks, rest) => (g.char :: breaks, rest)
    else some ([], max deepest g.column, g :: gs)

def lines? (margin : Nat) : Nat → List Glyph → Option (List Line × List Glyph)
  | _, [] => some ([], [])
  | 0, gs => some ([], gs)
  | fuel + 1, g :: gs =>
    if g.column == margin then do
      let after := Glyph.dropLine (g :: gs)
      let (empties, _, rest) ← empties? (some margin) 0 after.tail
      let (lines, rest) ← lines? margin fuel rest
      let text := Glyph.chars ((g :: gs).takeWhile fun g => !isBreak g.char)
      some (⟨text, Glyph.chars (after.take 1), empties⟩ :: lines, rest)
    else some ([], g :: gs)

def Line.isIndented (l : Line) : Bool := l.text.head?.any isBlank

/-- What stands between two lines: folding joins lines that are not indented any deeper. -/
def between (isFolded : Bool) (l m : Line) : List Char :=
  if isFolded && l.ending == ['\n'] && !l.isIndented && !m.isIndented then
    if l.empties.isEmpty then [' '] else l.empties
  else l.ending ++ l.empties

def tail (chomping : Chomping) (ending empties : List Char) : List Char :=
  match chomping with
  | .strip => []
  | .clip => ending
  | .keep => ending ++ empties

def join (isFolded : Bool) (chomping : Chomping) : List Line → List Char
  | [] => []
  | [l] => l.text ++ tail chomping l.ending l.empties
  | l :: m :: lines => l.text ++ between isFolded l m ++ join isFolded chomping (m :: lines)

/-- The text after the indicator of a block scalar, and what follows. The block around it ends at
`margin`, which is zero outside of all blocks. -/
def read? (isFolded : Bool) (margin : Nat) (gs : List Glyph) :
    Option (List Char × List Glyph) := do
  let (header, gs) := header gs
  let gs ← Glyph.nextLine? gs
  let known := header.indentation.map fun n => margin - 1 + n
  let (empties, deepest, gs) ← empties? known 0 gs
  let (lines, rest) ← lines? (known.getD (max deepest (max margin 1))) gs.length gs
  let text := if lines.isEmpty then tail header.chomping [] empties
    else empties ++ join isFolded header.chomping lines
  some (text, rest)

end TradeRegister.Yaml.Block

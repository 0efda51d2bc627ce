import TradeRegister.Yaml.Gap

/-! # Plain scalars

Text without quotes. It ends before a colon that ends a word, before a comment, and outside of
brackets at a line that is not indented beyond the block.
-/

namespace TradeRegister.Yaml

structure Plain where
  text : List Char
  /-- True if the text was followed by a line break. -/
  endsLine : Bool
  rest : List Glyph

namespace Plain

def isBracket (c : Char) : Bool := c == '[' || c == ']' || c == '\x7b' || c == '\x7d'

def endsAt (inFlow : Bool) (c : Char) (rest : List Glyph) : Bool :=
  (c == ':' && Glyph.endsWord rest) || (inFlow && (c == ',' || isBracket c))

/-- A colon in front of an indicator, inside brackets. -/
def isMisplaced (inFlow : Bool) (c : Char) (rest : List Glyph) : Bool :=
  inFlow && c == ':' && rest.head?.any fun g => g.char == ',' || g.char == '?' || isBracket g.char

/-- What may not follow a gap, at the front of `g :: rest`. -/
def endsAfterGap (inFlow : Bool) (margin : Nat) (g : Glyph) (rest : List Glyph) : Bool :=
  g.char == '#' || Glyph.isDocumentMark (g :: rest) || (!inFlow && g.column < margin)

/-- The text after `gap`, which is part of it only if more text follows. -/
def after? (inFlow : Bool) (margin : Nat) (gap : Gap) : List Glyph → Option Plain
  | [] => some ⟨[], gap.isOverLines, []⟩
  | g :: rest =>
    if isGap g.char then
      if gap.isOverLines && g.char == '\t' && g.column < margin then none
      else after? inFlow margin (gap.push g.char) rest
    else if !gap.isEmpty && endsAfterGap inFlow margin g rest then
      some ⟨[], gap.isOverLines, g :: rest⟩
    else if isMisplaced inFlow g.char rest then none
    else if endsAt inFlow g.char rest then some ⟨[], gap.isOverLines, g :: rest⟩
    else
      (after? inFlow margin .empty rest).map fun p =>
        { p with text := gap.text ++ g.char :: p.text }

def read? (inFlow : Bool) (margin : Nat) (gs : List Glyph) : Option Plain :=
  after? inFlow margin .empty gs

end Plain
end TradeRegister.Yaml

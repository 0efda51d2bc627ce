import TradeRegister.Yaml.Glyph

/-! # Gaps

The white space inside a scalar. On one line it stands for itself. Over several lines the blanks
around the breaks go, and one line break alone becomes a space.
-/

namespace TradeRegister.Yaml

inductive Gap
  | blanks (cs : List Char)
  /-- Line breaks, of which an escaped first one is left out. -/
  | breaks (first : Option Char) (more : List Char)

namespace Gap

def empty : Gap := .blanks []

def isEmpty : Gap → Bool
  | .blanks cs => cs.isEmpty
  | .breaks _ _ => false

def isOverLines : Gap → Bool
  | .blanks _ => false
  | .breaks _ _ => true

def push (c : Char) : Gap → Gap
  | .blanks cs => if isBreak c then .breaks (some c) [] else .blanks (cs ++ [c])
  | .breaks first more => if isBreak c then .breaks first (more ++ [c]) else .breaks first more

def text : Gap → List Char
  | .blanks cs => cs
  | .breaks (some '\n') [] => [' ']
  | .breaks (some '\n') more => more
  | .breaks first more => first.toList ++ more

end Gap
end TradeRegister.Yaml

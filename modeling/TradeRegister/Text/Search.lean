/-! # Text inside text -/

namespace TradeRegister.Text

def startsWith (part s : String) : Bool := part.toList.isPrefixOf s.toList

/-- Drops `part` from the start. -/
def after? (part cs : List Char) : Option (List Char) :=
  if part.isPrefixOf cs then some (cs.drop part.length) else none

def occursInChars (part : List Char) : List Char → Bool
  | [] => part.isEmpty
  | c :: cs => part.isPrefixOf (c :: cs) || occursInChars part cs

def occursIn (part s : String) : Bool := occursInChars part.toList s.toList

end TradeRegister.Text

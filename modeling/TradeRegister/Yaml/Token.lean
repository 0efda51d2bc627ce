/-! # Tokens

What a YAML text consists of. Blocks start and end with tokens of their own, which the indentation
decides, and a key is marked before it starts.
-/

namespace TradeRegister.Yaml

/-- The kind of a value: what a handle stands for, and what is added to it. -/
structure Tag where
  handle : String
  suffix : String
deriving DecidableEq

inductive Token
  | version
  /-- What a handle stands for from here on. -/
  | handle (name stem : String)
  | documentStart
  | documentEnd
  | sequenceStart
  | mappingStart
  | blockEnd
  | openBracket
  | closeBracket
  | openBrace
  | closeBrace
  /-- The mark of an item of a block sequence. -/
  | item
  | comma
  | key
  | value
  | anchor (name : String)
  | alias (name : String)
  | tag (t : Tag)
  | scalar (isPlain : Bool) (text : String)
deriving DecidableEq

end TradeRegister.Yaml

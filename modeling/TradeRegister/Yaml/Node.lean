import TradeRegister.Yaml.Token

/-! # Nodes

The tree of a YAML document. A scalar is kept as its text; what it denotes is a separate question.
An alias stands as the node that it names.
-/

namespace TradeRegister.Yaml

inductive Node
  | scalar (tag : Option String) (isPlain : Bool) (text : String)
  | sequence (tag : Option String) (items : List Node)
  | mapping (tag : Option String) (entries : List (Node × Node))

def Node.nothing : Node := .scalar none true ""

end TradeRegister.Yaml

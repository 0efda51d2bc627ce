import TradeRegister.Yaml.Node
import TradeRegister.Yaml.Token.Lexer

/-! # Reading nodes

A text holds one document, or none. An alias stands for the last node of its name that is complete.
Following aliases may not multiply the document by more than a hundred.
-/

namespace TradeRegister.Yaml

/-- What a name stands for, with the aliases followed inside; nothing while the node is open. -/
abbrev Anchors := List (String × Option (Node × Nat))

structure Reading where
  rest : List Token
  /-- What the handles of tags stand for. -/
  handles : List (String × String) := []
  anchors : Anchors := []
  /-- The number of scalars, aliases, and starts and ends of collections. -/
  marks : Nat := 0
  /-- The number of aliases followed. -/
  jumps : Nat := 0

/-- What may stand before a node, the tag spelled out. -/
structure Properties where
  anchor : Option String := none
  tag : Option String := none

namespace Reading

def isNext (ts : List Token) (r : Reading) : Bool := r.rest.head?.any fun t => ts.contains t

def upTo (rest : List Token) (r : Reading) : Reading := { r with rest }

def count (n : Nat) (r : Reading) : Reading := { r with marks := r.marks + n }

def fullTag? (r : Reading) (t : Tag) : Option String :=
  if t.handle = "" then some t.suffix else (r.handles.lookup t.handle).map (· ++ t.suffix)

def properties? (r : Reading) : Option (Properties × Reading) :=
  match r.rest with
  | .anchor a :: .tag t :: rest => (r.fullTag? t).map fun tag => (⟨some a, some tag⟩, r.upTo rest)
  | .tag t :: .anchor a :: rest => (r.fullTag? t).map fun tag => (⟨some a, some tag⟩, r.upTo rest)
  | .anchor a :: rest => some (⟨some a, none⟩, r.upTo rest)
  | .tag t :: rest => (r.fullTag? t).map fun tag => (⟨none, some tag⟩, r.upTo rest)
  | _ => some ({}, r)

def follow? (name : String) (r : Reading) : Option (Node × Reading) :=
  match r.anchors.lookup name with
  | some (some (node, jumps)) => some (node, { r.count 1 with jumps := r.jumps + jumps + 1 })
  | _ => none

def opened (anchor : Option String) (r : Reading) : Reading :=
  { r with anchors := (anchor.toList.map fun name => (name, none)) ++ r.anchors }

/-- Names a node that is complete; names given inside of it stay in front. -/
def closed (anchor : Option String) (node : Node) (r before : Reading) : Reading :=
  match anchor with
  | none => r
  | some name =>
    let inside := r.anchors.take (r.anchors.length - (before.anchors.length + 1))
    { r with anchors := inside ++ (name, some (node, r.jumps - before.jumps)) :: before.anchors }

def nothing (r : Reading) : Node × Reading := (.nothing, r.count 1)

end Reading

namespace Node

open Reading

def itemStops : List Token := [.item, .key, .value, .blockEnd]
def entryStops : List Token := [.key, .value, .blockEnd]
def braceStops : List Token := [.value, .comma, .closeBrace]
def bracketStops : List Token := [.value, .comma, .closeBracket]

def separated? (isFirst : Bool) (r : Reading) : Option Reading :=
  if isFirst then some r
  else
    match r.rest with
    | .comma :: rest => some (r.upTo rest)
    | _ => none

mutual

/-- A node at the front. Blocks stand outside of brackets; items without a block of their own stand
as the value of a key. -/
def read? : Nat → Bool → Bool → Reading → Option (Node × Reading)
  | 0, _, _, _ => none
  | fuel + 1, isBlock, isBare, r =>
    match r.rest with
    | .alias name :: rest => (r.upTo rest).follow? name
    | _ => do
      let (p, before) ← r.properties?
      let (node, after) ← content? fuel isBlock isBare p (before.opened p.anchor)
      some (node, after.closed p.anchor node before)

/-- A node after its properties, which may stand before nothing. -/
def content? : Nat → Bool → Bool → Properties → Reading → Option (Node × Reading)
  | 0, _, _, _, _ => none
  | fuel + 1, isBlock, isBare, p, r =>
    match r.rest with
    | .scalar isPlain text :: rest =>
      let tag := if p.tag = some "!" then none else p.tag
      some (.scalar tag isPlain text, (r.upTo rest).count 1)
    | .openBracket :: rest =>
      (elements? fuel true ((r.upTo rest).count 2)).map fun (items, r) => (.sequence p.tag items, r)
    | .openBrace :: rest =>
      (members? fuel true ((r.upTo rest).count 2)).map fun (es, r) => (.mapping p.tag es, r)
    | .sequenceStart :: rest =>
      if isBlock then
        (items? fuel false ((r.upTo rest).count 2)).map fun (items, r) => (.sequence p.tag items, r)
      else none
    | .mappingStart :: rest =>
      if isBlock then
        (entries? fuel ((r.upTo rest).count 2)).map fun (es, r) => (.mapping p.tag es, r)
      else none
    | _ =>
      if isBare && r.isNext [.item] then
        (items? fuel true (r.count 2)).map fun (items, r) => (.sequence p.tag items, r)
      else if p.anchor.isSome || p.tag.isSome then some (.scalar p.tag true "", r.count 1)
      else none

def slot? : Nat → Bool → Bool → List Token → Reading → Option (Node × Reading)
  | 0, _, _, _, _ => none
  | fuel + 1, isBlock, isBare, stops, r =>
    if r.isNext stops then some r.nothing else read? fuel isBlock isBare r

def value? : Nat → Bool → List Token → Reading → Option (Node × Reading)
  | 0, _, _, _ => none
  | fuel + 1, isBlock, stops, r =>
    match r.rest with
    | .value :: rest => slot? fuel isBlock isBlock stops (r.upTo rest)
    | _ => some r.nothing

def items? : Nat → Bool → Reading → Option (List Node × Reading)
  | 0, _, _ => none
  | fuel + 1, isBare, r =>
    match r.rest with
    | .item :: rest => do
      let (v, r) ← slot? fuel true false itemStops (r.upTo rest)
      let (vs, r) ← items? fuel isBare r
      some (v :: vs, r)
    | .blockEnd :: rest => some ([], if isBare then r else r.upTo rest)
    | _ => if isBare then some ([], r) else none

def entries? : Nat → Reading → Option (List (Node × Node) × Reading)
  | 0, _ => none
  | fuel + 1, r =>
    match r.rest with
    | .key :: rest => do
      let (k, r) ← slot? fuel true true entryStops (r.upTo rest)
      let (v, r) ← value? fuel true entryStops r
      let (es, r) ← entries? fuel r
      some ((k, v) :: es, r)
    | .blockEnd :: rest => some ([], r.upTo rest)
    | _ => none

/-- The elements of a bracketed sequence. A key makes an element a mapping of one entry. -/
def elements? : Nat → Bool → Reading → Option (List Node × Reading)
  | 0, _, _ => none
  | fuel + 1, isFirst, r =>
    if r.isNext [.closeBracket] then some ([], r.upTo r.rest.tail)
    else do
      let r ← separated? isFirst r
      match r.rest with
      | .closeBracket :: rest => some ([], r.upTo rest)
      | .key :: rest => do
        let (v, r) ← pair? fuel (r.upTo rest)
        let (vs, r) ← elements? fuel false r
        some (v :: vs, r)
      | _ => do
        let (v, r) ← read? fuel false false r
        let (vs, r) ← elements? fuel false r
        some (v :: vs, r)

/-- What ends an empty key in a sequence is skipped with it. -/
def pair? : Nat → Reading → Option (Node × Reading)
  | 0, _ => none
  | fuel + 1, r => do
    let (k, r) ← if r.isNext bracketStops then some (r.upTo r.rest.tail).nothing
      else read? fuel false false r
    let (v, r) ← value? fuel false bracketStops r
    some (.mapping none [(k, v)], r.count 2)

def members? : Nat → Bool → Reading → Option (List (Node × Node) × Reading)
  | 0, _, _ => none
  | fuel + 1, isFirst, r =>
    if r.isNext [.closeBrace] then some ([], r.upTo r.rest.tail)
    else do
      let r ← separated? isFirst r
      match r.rest with
      | .closeBrace :: rest => some ([], r.upTo rest)
      | .key :: rest => do
        let (k, r) ← slot? fuel false false braceStops (r.upTo rest)
        let (v, r) ← value? fuel false braceStops r
        let (es, r) ← members? fuel false r
        some ((k, v) :: es, r)
      | _ => do
        let (k, r) ← read? fuel false false r
        let (v, r) := r.nothing
        let (es, r) ← members? fuel false r
        some ((k, v) :: es, r)

end

/-! ## Documents -/

def usualHandles : List (String × String) := [("!", "!"), ("!!", "tag:yaml.org,2002:")]

/-- What the directives in front define, each thing once, and what follows them. -/
def directives? (hasVersion : Bool) (handles : List (String × String)) :
    List Token → Option (List (String × String) × List Token)
  | .version :: rest => if hasVersion then none else directives? true handles rest
  | .handle name stem :: rest =>
    if (handles.lookup name).isSome then none
    else directives? hasVersion ((name, stem) :: handles) rest
  | rest => some (handles, rest)

def isDirective : Token → Bool
  | .version => true
  | .handle _ _ => true
  | _ => false

def root? (isExplicit : Bool) (r : Reading) : Option (Node × Reading) :=
  if isExplicit && r.rest.head?.all fun t => isDirective t || t == .documentStart || t == .documentEnd
  then some r.nothing
  else read? (6 * r.rest.length + 6) true false r

def document? (tokens : List Token) : Option (Node × Reading) := do
  let (handles, rest) ← directives? false [] tokens
  let r : Reading := ⟨rest, handles ++ usualHandles, [], 0, 0⟩
  match rest with
  | .documentStart :: rest => root? true (r.upTo rest)
  | _ => if tokens.head?.any isDirective then none else root? false r

/-- The root of the only document; `some none` for a text without one. -/
def ofString? (s : String) : Option (Option Node) := do
  match ← Token.ofString? s with
  | [] => some none
  | tokens =>
    let (node, r) ← document? tokens
    if r.rest.all (· == .documentEnd) && r.jumps ≤ 100 * r.marks then some (some node) else none

end Node
end TradeRegister.Yaml

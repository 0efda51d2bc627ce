import TradeRegister.Json.Meaning

/-! # Token headers

A header is read twice. The first reading looks for the algorithm alone. The second, for tokens
with the right algorithm, looks for it again among the algorithms it knows, and checks every
registered parameter; any other parameter holds a string.
-/

namespace TradeRegister.Token.Header

def text : Json :=
  .ofFields [("typ", .ofString "JWT"), ("alg", .ofString "HS256")]

def render : Bytes := text.render

/-- The algorithm that a header names. -/
def algorithm? (v : Json) : Option String :=
  match Json.Layout.read? ⟨["alg"], false⟩ v with
  | some [alg] => Json.required? Json.asString? alg
  | _ => none

def isText (v : Json) : Bool := (Json.asString? v).isSome

def isOptionalText (v : Json) : Bool := (Json.asNullable? Json.asString? v).isSome

def isOptionalTexts (v : Json) : Bool :=
  (Json.asNullable? (Json.asList? Json.asString?) v).isSome

def textParameters : List String :=
  ["typ", "cty", "jku", "kid", "x5u", "x5t", "x5t#S256", "url", "nonce", "enc", "zip"]

def listParameters : List String := ["x5c", "crit"]

def keyTextParameters : List String := ["kid", "x5u", "x5t", "x5t#S256", "use"]

def keyListParameters : List String := ["key_ops", "x5c"]

def curves : List String := ["P-256", "P-384", "P-521", "Ed25519"]

def algorithms : List String :=
  ["HS256", "HS384", "HS512", "ES256", "ES384", "RS256", "RS384", "RS512", "PS256", "PS384",
    "PS512", "EdDSA"]

def holdsOne (p : Json → Bool) (members : List (String × Json)) (name : String) : Bool :=
  match Json.values name members with
  | [v] => p v
  | _ => false

/-- The one of these names that is there, as a string or as the only key of an object that holds
null. -/
def oneOf? (names : List String) : Json → Option String
  | .string literal => (Json.text? literal).filter names.contains
  | .object [(key, .null)] => (Json.text? key).filter names.contains
  | _ => none

def isOneOf (names : List String) (v : Json) : Bool := (oneOf? names v).isSome

/-- Any name, or null; the object that holds a name may hold an empty object too. -/
def isOptionalName : Json → Bool
  | .null => true
  | .object [(_, .null)] => true
  | .object [(_, .object [])] => true
  | v => isText v

/-- The parameters that each type of key needs. -/
def hasKeyMaterial (members : List (String × Json)) : Bool :=
  let is kty := holdsOne (isOneOf [kty]) members "kty"
  let has := holdsOne isText members
  (is "EC" && holdsOne (isOneOf curves) members "crv" && has "x" && has "y") ||
    (is "RSA" && has "n" && has "e") || (is "oct" && has "k") ||
    (is "OKP" && holdsOne (isOneOf curves) members "crv" && has "x")

/-- A public key inside a header. All of it is kept until its type is known. -/
def isKey : Json → Bool
  | .object members =>
    match Json.named? members with
    | none => false
    | some members =>
      ("alg" :: keyTextParameters ++ keyListParameters).all
        (fun name => (Json.values name members).length ≤ 1) &&
      members.all (fun m =>
        if m.1 == "alg" then isOptionalName m.2
        else if keyTextParameters.contains m.1 then isOptionalText m.2
        else if keyListParameters.contains m.1 then isOptionalTexts m.2
        else true) &&
      hasKeyMaterial members
  | _ => false

def isOptionalKey : Json → Bool
  | .null => true
  | v => Json.isMeaningful (Json.maxDepth - 1) v && isKey v

def isParameter (name : String) (v : Json) : Bool :=
  if textParameters.contains name then isOptionalText v
  else if listParameters.contains name then isOptionalTexts v
  else if name == "jwk" then isOptionalKey v
  else if name == "alg" then isOneOf algorithms v
  else isText v

/-- The second reading: an object whose registered parameters occur once, each of its type. -/
def isSound : Json → Bool
  | .object members =>
    match Json.named? members with
    | none => false
    | some members =>
      ("alg" :: "jwk" :: textParameters ++ listParameters).all
        (fun name => (Json.values name members).length ≤ 1) &&
      members.all fun m => isParameter m.1 m.2
  | _ => false

/-- The algorithm that the second reading finds, if it takes the header. -/
def knownAlgorithm? : Json → Option String
  | .object members =>
    match Json.named? members with
    | none => none
    | some named =>
      match Json.values "alg" named with
      | [v] => if isSound (.object members) then oneOf? algorithms v else none
      | _ => none
  | _ => none

end TradeRegister.Token.Header

import TradeRegister.Base64
import TradeRegister.Hash.Hmac
import TradeRegister.Text.Quoted
import TradeRegister.Text.Split
import TradeRegister.Time.Instant
import TradeRegister.Token.Claims
import TradeRegister.Token.Header
import TradeRegister.Token.Payload
import TradeRegister.Token.Settings
import TradeRegister.Uuid

/-! # Token authority

Tokens are three base64 segments: header, claims, and the keyed digest of the first two. Validation
checks form, algorithm, signature, expiry, issuer and subject in this order, and the first check
that fails decides the error.
-/

namespace TradeRegister.Token

structure Authority where
  issuer : String
  secret : Secret
  /-- Whole seconds between issue and expiry. -/
  lifetime : Nat
  lifetime_pos : 0 < lifetime
  lifetime_lt : lifetime < 0x8000000000000000

namespace Authority

def ofSettings (s : Settings) : Except Error Authority :=
  if s.secret.isBlank then .error (.misconfigured .secretBlank)
  else if Text.isBlank s.issuer then .error (.misconfigured .issuerBlank)
  else if hlt : s.lifetime.seconds < 0x8000000000000000 then
    if hpos : 0 < s.lifetime.seconds then
      .ok ⟨s.issuer, s.secret, s.lifetime.seconds, hpos, hlt⟩
    else .error (.misconfigured .lifetimeTooShort)
  else .error (.misconfigured .lifetimeTooLarge)

/-- Diagnostic text; it leaves the secret out. -/
def description (a : Authority) : String :=
  "TokenAuthority \x7b issuer: " ++ Text.quote a.issuer ++ ", lifetime_secs: " ++
    toString a.lifetime ++ ", algorithm: " ++ Text.quote algorithm ++ ", .. \x7d"

/-- Expiry is capped at the largest time that claims can hold. -/
def claimsFor (a : Authority) (now : Instant) (user : Uuid) : Claims where
  issuer := a.issuer
  subject := user.text
  issuedAt := Int64.ofInt now.seconds
  expiry := Int64.ofInt (min (now.seconds + a.lifetime) (0x8000000000000000 - 1))

def sign (a : Authority) (message : List Char) : Bytes :=
  Hmac.sha256 a.secret.octets (Bytes.ofChars message)

def encode (b : Bytes) : List Char := Base64.encode .urlSafe b
def decode? (cs : List Char) : Option Bytes := Base64.decode? .urlSafe cs

/-- Header and payload segments, and what the signature covers. -/
def signed (header payload : List Char) : List Char := header ++ '.' :: payload

def sealChars (a : Authority) (header payload : Bytes) : List Char :=
  let message := signed (encode header) (encode payload)
  message ++ '.' :: encode (a.sign message)

/-- A signed token for these claims. -/
def sealClaims (a : Authority) (c : Claims) : String :=
  String.ofList (a.sealChars Header.render c.render)

def issue (a : Authority) (now : Instant) (user : Uuid) : String :=
  a.sealClaims (a.claimsFor now user)

/-- The second reading of a header. It does not say which other algorithm it found. -/
def recheckHeader (header : Json) : Except Error Unit :=
  match Header.knownAlgorithm? header with
  | none => .error (.malformed .json)
  | some alg => if alg = algorithm then .ok () else .error (.algorithmMismatch "unknown")

def checkHeader (segment : List Char) : Except Error Unit := do
  let some octets := decode? segment | throw (.malformed .headerEncoding)
  let some header := Json.parse? octets | throw (.malformed .headerJson)
  let some alg := Header.algorithm? header | throw (.malformed .headerJson)
  if alg ≠ algorithm then throw (.algorithmMismatch alg)
  recheckHeader header

def checkSignature (a : Authority) (message segment : List Char) : Except Error Unit := do
  let some octets := decode? segment | throw (.malformed .encoding)
  unless octets == a.sign message do throw .signatureInvalid

def readClaims (segment : List Char) : Except Error Claims := do
  let some octets := decode? segment | throw (.malformed .encoding)
  let some payload := Json.parse? octets | throw (.malformed .json)
  let some claims := Claims.ofJson? payload | throw (.malformed .json)
  unless Payload.isSound octets do throw (.malformed .json)
  if claims.expiry.toInt < 0 then throw (.malformed .expiryMissing)
  return claims

def checkSubject (subject : String) : Except Error Uuid :=
  match Uuid.parse? subject with
  | none => .error (.subjectInvalid .notUuid)
  | some u => if u.isNil then .error (.subjectInvalid .nilUuid) else .ok u

def checkClaims (a : Authority) (now : Int) (c : Claims) : Except Error Uuid :=
  if c.isExpiredAt now then .error .expired
  else if c.issuer ≠ a.issuer then .error (.issuerMismatch c.issuer)
  else checkSubject c.subject

/-- The user for whom a token was issued. -/
def validate (a : Authority) (now : Instant) (token : String) : Except Error Uuid :=
  match Text.split '.' token.toList with
  | [header, payload, signature] => do
    checkHeader header
    a.checkSignature (signed header payload) signature
    let claims ← readClaims payload
    a.checkClaims now.seconds claims
  | _ => .error (.malformed .segments)

end Authority
end TradeRegister.Token

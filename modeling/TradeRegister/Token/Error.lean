/-! # Why a token is refused

Each cause has a short kind for machines and a text for people.
-/

namespace TradeRegister.Token

inductive SettingsFault
  | secretBlank
  | issuerBlank
  | lifetimeTooLarge
  | lifetimeTooShort
deriving DecidableEq

def SettingsFault.text : SettingsFault → String
  | .secretBlank => "signing secret is empty"
  | .issuerBlank => "issuer is empty"
  | .lifetimeTooLarge => "token lifetime is too large"
  | .lifetimeTooShort => "token lifetime must be at least one second"

/-- What is wrong with the form of a token. -/
inductive Defect
  | segments
  | headerEncoding
  | headerJson
  | encoding
  | json
  | expiryMissing
deriving DecidableEq

def Defect.text : Defect → String
  | .segments => "expected three dot-separated segments"
  | .headerEncoding => "header is not base64url"
  | .headerJson => "header is not valid JSON"
  | .encoding => "Base64 error"
  | .json => "JSON error"
  | .expiryMissing => "Missing required claim: exp"

inductive SubjectFault
  | notUuid
  | nilUuid
deriving DecidableEq

def SubjectFault.text : SubjectFault → String
  | .notUuid => "not a UUID"
  | .nilUuid => "nil UUID"

inductive Error
  | misconfigured (fault : SettingsFault)
  | malformed (defect : Defect)
  | algorithmMismatch (actual : String)
  | signatureInvalid
  | expired
  | issuerMismatch (actual : String)
  | subjectInvalid (fault : SubjectFault)
deriving DecidableEq

/-- The only algorithm that tokens are signed with. -/
def algorithm : String := "HS256"

namespace Error

def kind : Error → String
  | .misconfigured _ => "misconfigured"
  | .malformed _ => "malformed"
  | .algorithmMismatch _ => "algorithm_mismatch"
  | .signatureInvalid => "signature_invalid"
  | .expired => "expired"
  | .issuerMismatch _ => "issuer_mismatch"
  | .subjectInvalid _ => "subject_invalid"

def message : Error → String
  | .misconfigured fault => "token authority misconfigured: " ++ fault.text
  | .malformed defect => "malformed token: " ++ defect.text
  | .algorithmMismatch actual =>
    "token algorithm mismatch: expected " ++ algorithm ++ ", got " ++ actual
  | .signatureInvalid => "invalid token signature"
  | .expired => "token expired"
  | .issuerMismatch actual => "token issuer mismatch: got " ++ actual
  | .subjectInvalid fault => "invalid token subject: " ++ fault.text

end Error
end TradeRegister.Token

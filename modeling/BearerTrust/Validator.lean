import BearerTrust.KeySource.Basic
import BearerTrust.Settings.Issuer
import BearerTrust.Token.Compact

namespace BearerTrust

inductive TokenError where
  | malformed (part : MalformedToken)
  | algorithmNotAccepted (algorithm : Algorithm)
  | keySource (cause : KeySourceError)
  | unknownKey
  | signatureInvalid
  | missingClaim (name : String)
  | issuerMismatch (expected : String) (found : Option String)
  | expired
  | notYetValid (claim : String)
  | audienceMismatch
deriving DecidableEq, Inhabited

def TokenError.message : TokenError → String
  | .malformed _ => "malformed token"
  | .algorithmNotAccepted algorithm => "token algorithm " ++ algorithm.name ++ " is not accepted"
  | .keySource _ => "unable to obtain verification keys"
  | .unknownKey => "no matching key found to validate token"
  | .signatureInvalid => "token signature is invalid"
  | .missingClaim name => "required claim `" ++ name ++ "` is missing"
  | .issuerMismatch expected _ => "token issuer does not match expected issuer `" ++ expected ++ "`"
  | .expired => "token has expired"
  | .notYetValid claim => "token is not yet valid according to the `" ++ claim ++ "` claim"
  | .audienceMismatch => "token audience is not accepted"

/-- The claims that the default validator requires, but for the optional ones, in this order. -/
def defaultRequiredClaims : List String := ["sub", "aud", "iss", "iat", "exp", "nbf"]

def requireClaim (c : Claims) (name : String) : Except TokenError Unit :=
  if c.contains name then .ok () else .error (.missingClaim name)

/-- The first of the names that is missing is reported. -/
def requireClaims (c : Claims) : List String → Except TokenError Unit
  | [] => .ok ()
  | name :: names => do
    requireClaim c name
    requireClaims c names

def checkIssuer (expected : String) (c : Claims) : Except TokenError Unit :=
  if c.issuer = some expected then .ok () else .error (.issuerMismatch expected c.issuer)

def checkStarted (t : Option Seconds) (now skew : Seconds) (name : String) :
    Except TokenError Unit :=
  match t with
  | none => .ok ()
  | some t => if now.saturatingAdd skew < t then .error (.notYetValid name) else .ok ()

def checkExpiry (t : Option Seconds) (now skew : Seconds) : Except TokenError Unit :=
  match t with
  | none => .ok ()
  | some t => if t ≤ now.saturatingSub skew then .error .expired else .ok ()

def checkTimes (c : Claims) (now skew : Seconds) : Except TokenError Unit := do
  checkExpiry c.expires now skew
  checkStarted c.issuedAt now skew "iat"
  checkStarted c.notBefore now skew "nbf"

structure DefaultChecks where
  issuer : String
  acceptedAudiences : List String
  optionalClaims : List String
  clockSkew : Seconds
deriving DecidableEq, Inhabited

structure LegacyChecks where
  issuer : String
  requiredClaims : List String
  clockSkew : Seconds
deriving DecidableEq, Inhabited

namespace DefaultChecks

def required (v : DefaultChecks) : List String :=
  defaultRequiredClaims.filter fun name => !v.optionalClaims.contains name

def checkAudience (v : DefaultChecks) (c : Claims) : Except TokenError Unit :=
  let isOptional := v.optionalClaims.contains "aud"
  if isOptional && v.acceptedAudiences.isEmpty then .ok ()
  else if c.audience.isEmpty then
    if isOptional then .ok () else .error (.missingClaim "aud")
  else if c.audience.any v.acceptedAudiences.contains then .ok ()
  else .error .audienceMismatch

def check (v : DefaultChecks) (c : Claims) (now : Seconds) : Except TokenError Unit := do
  requireClaims c v.required
  checkIssuer v.issuer c
  checkTimes c now v.clockSkew
  v.checkAudience c

end DefaultChecks

def LegacyChecks.check (v : LegacyChecks) (c : Claims) (now : Seconds) : Except TokenError Unit := do
  requireClaims c v.requiredClaims
  checkIssuer v.issuer c
  checkTimes c now v.clockSkew

inductive ClaimChecks where
  | default (checks : DefaultChecks)
  | legacy (checks : LegacyChecks)
deriving DecidableEq, Inhabited

namespace ClaimChecks

def check : ClaimChecks → Claims → Seconds → Except TokenError Unit
  | .default v, c, now => v.check c now
  | .legacy v, c, now => v.check c now

def kindName : ClaimChecks → String
  | .default _ => "default"
  | .legacy _ => "legacy"

end ClaimChecks

/-- The only algorithm that tokens may be signed with. -/
def acceptedAlgorithm : Algorithm := .rs256

structure Validator where
  keys : KeySource
  checks : ClaimChecks
deriving DecidableEq, Inhabited

namespace Validator

variable {σ : Type}

def parse (token : String) : Except TokenError Compact :=
  match Compact.parse token with
  | .error part => .error (.malformed part)
  | .ok c =>
    if c.header.algorithm = acceptedAlgorithm then .ok c
    else .error (.algorithmNotAccepted c.header.algorithm)

def verify (k : Jwk) (c : Compact) : Except TokenError Claims :=
  if k.key.verifies c.message c.signature then
    match c.claims with
    | .ok claims => .ok claims
    | .error part => .error (.malformed part)
  else .error .signatureInvalid

/-- What a token comes to with the key found for it. -/
def conclude (v : Validator) (now : Seconds) (token : String) (c : Compact) :
    Except KeySourceError (Option Jwk) → Except TokenError Token
  | .error e => .error (.keySource e)
  | .ok none => .error .unknownKey
  | .ok (some k) => do
    let claims ← verify k c
    v.checks.check claims now
    .ok ⟨token, claims⟩

/-- Validates a token at a time of day `now` and an instant `at` of the clock that the key source
goes by. -/
def validate (web : Retriever σ) (v : Validator) (now : Seconds) (instant : Instant)
    (token : String) (st : KeyState σ) :
    Except Abort (Except TokenError Token × KeyState σ) :=
  match parse token with
  | .error e => .ok (.error e, st)
  | .ok c => do
    let (found, st) ←
      v.keys.verificationKey web c.header.keyId c.header.algorithm instant st
    .ok (v.conclude now token c found, st)

end Validator
end BearerTrust

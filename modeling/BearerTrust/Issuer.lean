import BearerTrust.Validator

namespace BearerTrust

structure TrustedIssuer where
  shortName : String
  settings : IssuerSettings
  metadata : IssuerMetadata
deriving DecidableEq, Inhabited

def JwksCacheSettings.policy (s : JwksCacheSettings) : KeyCachePolicy :=
  { lifespan := s.lifespanSecs.toNat * 1000, refreshAhead := s.refreshAheadSecs.toNat * 1000 }

namespace TrustedIssuer

def keySource (s : IssuerSettings) (m : IssuerMetadata) : KeySource :=
  ⟨m.jwksUri, s.jwksCache.map JwksCacheSettings.policy⟩

def claimChecks (s : IssuerSettings) (m : IssuerMetadata) : ClaimChecks :=
  match s.validation with
  | .default => .default ⟨m.issuer, s.acceptedAudience, s.optionalClaims, s.clockSkewSecs⟩
  | .legacy requiredClaims => .legacy ⟨m.issuer, requiredClaims, s.clockSkewSecs⟩

def ofMetadata (shortName : String) (s : IssuerSettings) (m : IssuerMetadata) : TrustedIssuer :=
  ⟨shortName, s, m⟩

def discoveryUrl (i : TrustedIssuer) : Url := i.settings.discoveryUrl

def acceptedAudiences (i : TrustedIssuer) : List String := i.settings.acceptedAudience

def cookieName (i : TrustedIssuer) : Option String := i.settings.cookieName

def optionalClaims (i : TrustedIssuer) : List String := i.settings.optionalClaims

def validator (i : TrustedIssuer) : Validator :=
  ⟨keySource i.settings i.metadata, claimChecks i.settings i.metadata⟩

/-- What the issuer calls itself, and what its tokens say in `iss`. -/
def identifier (i : TrustedIssuer) : String := i.metadata.issuer

def jwksUrl (i : TrustedIssuer) : Url := i.metadata.jwksUri

def tokenEndpoint (i : TrustedIssuer) : Option Url := i.metadata.tokenEndpoint

def hasKeyCache (i : TrustedIssuer) : Bool := i.validator.keys.cache.isSome

def toJson (i : TrustedIssuer) : Json :=
  .object
    [("accepted_audiences", writeTexts i.acceptedAudiences),
      ("cookie_name", writeOptional .string i.cookieName),
      ("discovery_url", .string i.discoveryUrl.text),
      ("issuer", .string i.identifier),
      ("jwks_url", .string i.jwksUrl.text),
      ("keys_cached", .bool i.hasKeyCache),
      ("optional_claims", writeTexts i.optionalClaims),
      ("short_name", .string i.shortName),
      ("token_endpoint", writeOptional (fun u => .string u.text) i.tokenEndpoint),
      ("validator", .string i.validator.checks.kindName)]

end TrustedIssuer
end BearerTrust

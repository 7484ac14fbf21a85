import BearerTrust.Claims.Basic
import BearerTrust.Discovery
import BearerTrust.Table

namespace BearerTrust

def defaultClockSkew : Seconds := 60

def legacyRequiredClaims : List String := ["sub", "iss", "iat", "exp"]

inductive ValidatorKind where
  | default
  | legacy (requiredClaims : List String)
deriving DecidableEq, Inhabited

structure JwksCacheSettings where
  lifespanSecs : UInt64 := 900
  refreshAheadSecs : UInt64 := 60
deriving DecidableEq, Inhabited

structure RetrievalSettings where
  connectTimeoutMillis : UInt64 := 10000
  readTimeoutMillis : UInt64 := 10000
  maxResponseBytes : UInt64 := 524288
deriving DecidableEq, Inhabited

structure Routing where
  proxyUrl : Option Url := none
  usePlaintextForHttps : Bool := false
deriving DecidableEq, Inhabited

structure IssuerSettings where
  discoveryUrl : Url
  acceptedAudience : List String := []
  cookieName : Option String := none
  optionalClaims : List String := []
  validation : ValidatorKind := .default
  proxyUrl : Option Url := none
  usePlaintextForHttps : Bool := false
  jwksCache : Option JwksCacheSettings := none
  clockSkewSecs : Seconds := defaultClockSkew
deriving DecidableEq, Inhabited

def IssuerSettings.routing (s : IssuerSettings) : Routing := ⟨s.proxyUrl, s.usePlaintextForHttps⟩

/-- The settings of all issuers under their short names, in ascending order. -/
structure ValidationSettings where
  issuers : List (String × IssuerSettings) := []
  retrieval : RetrievalSettings := {}
deriving DecidableEq, Inhabited

def readTexts : Json → Option (List String) := Json.listOf Json.asString?

namespace ValidatorKind

/-- The kind is named by the member `kind`, or by the first item of a list. -/
def ofJson? : Json → Option ValidatorKind
  | .object ms => do
    let kind ← (ms.lookup "kind") >>= Json.asString?
    if kind = "default" then some .default
    else if kind = "legacy" then
      let r : Json.Record := ⟨ms, true⟩
      some (.legacy (← r.withDefault "required_claims" legacyRequiredClaims readTexts))
    else none
  | .array (.string kind :: rest) =>
    if kind = "default" then some .default
    else if kind = "legacy" then do
      let r ← Json.Record.ofJson? ["required_claims"] (.array rest)
      some (.legacy (← r.withDefault "required_claims" legacyRequiredClaims readTexts))
    else none
  | _ => none

end ValidatorKind

def JwksCacheSettings.ofJson? (v : Json) : Option JwksCacheSettings := do
  let r ← Json.Record.ofJson? ["lifespan_secs", "refresh_ahead_secs"] v
  let usual : JwksCacheSettings := {}
  let lifespanSecs ← r.withDefault "lifespan_secs" usual.lifespanSecs Json.asNatural?
  let refreshAheadSecs ← r.withDefault "refresh_ahead_secs" usual.refreshAheadSecs Json.asNatural?
  some { lifespanSecs, refreshAheadSecs }

def RetrievalSettings.ofJson? (v : Json) : Option RetrievalSettings := do
  let r ← Json.Record.ofJson?
    ["connect_timeout_millis", "read_timeout_millis", "max_response_bytes"] v
  let usual : RetrievalSettings := {}
  let connectTimeoutMillis ←
    r.withDefault "connect_timeout_millis" usual.connectTimeoutMillis Json.asNatural?
  let readTimeoutMillis ← r.withDefault "read_timeout_millis" usual.readTimeoutMillis Json.asNatural?
  let maxResponseBytes ← r.withDefault "max_response_bytes" usual.maxResponseBytes Json.asNatural?
  some { connectTimeoutMillis, readTimeoutMillis, maxResponseBytes }

namespace IssuerSettings

def fieldNames : List String :=
  ["discovery_url", "accepted_audience", "cookie_name", "optional_claims", "validation", "proxy_url",
    "use_plaintext_for_https", "jwks_cache", "clock_skew_secs"]

def ofJson? (v : Json) : Option IssuerSettings := do
  let r ← Json.Record.ofJson? fieldNames v
  let discoveryUrl ← r.required "discovery_url" IssuerMetadata.readUrl
  let acceptedAudience ← r.withDefault "accepted_audience" [] readTexts
  let cookieName ← r.withDefault "cookie_name" none (Json.nullable Json.asString?)
  let optionalClaims ← r.withDefault "optional_claims" [] readTexts
  let validation ← r.withDefault "validation" .default ValidatorKind.ofJson?
  let proxyUrl ← r.withDefault "proxy_url" none (Json.nullable IssuerMetadata.readUrl)
  let usePlaintextForHttps ← r.withDefault "use_plaintext_for_https" false Json.asBool?
  let jwksCache ← r.withDefault "jwks_cache" none (Json.nullable JwksCacheSettings.ofJson?)
  let clockSkewSecs ← r.withDefault "clock_skew_secs" defaultClockSkew Json.asNatural?
  some { discoveryUrl, acceptedAudience, cookieName, optionalClaims, validation, proxyUrl,
         usePlaintextForHttps, jwksCache, clockSkewSecs }

end IssuerSettings

namespace ValidationSettings

def readIssuers (v : Json) : Option (List (String × IssuerSettings)) := do
  (← v.asObject?).mapM fun m => (IssuerSettings.ofJson? m.2).map fun s => (m.1, s)

def ofJson? (v : Json) : Option ValidationSettings := do
  let r ← Json.Record.ofJson? ["issuers", "retrieval"] v
  let issuers ← r.withDefault "issuers" [] readIssuers
  let retrieval ← r.withDefault "retrieval" {} RetrievalSettings.ofJson?
  some { issuers, retrieval }

def withIssuer (s : ValidationSettings) (shortName : String) (i : IssuerSettings) :
    ValidationSettings :=
  { s with issuers := Table.insertSorted shortName i s.issuers }

end ValidationSettings

def writeTexts (ss : List String) : Json := .array (ss.map .string)

def writeOptional {α : Type} (write : α → Json) (v : Option α) : Json := v.elim .null write

def ValidatorKind.toJson : ValidatorKind → Json
  | .default => .object [("kind", .string "default")]
  | .legacy requiredClaims =>
    .object [("kind", .string "legacy"), ("required_claims", writeTexts requiredClaims)]

def JwksCacheSettings.toJson (s : JwksCacheSettings) : Json :=
  .object
    [("lifespan_secs", .number (.natural s.lifespanSecs)),
      ("refresh_ahead_secs", .number (.natural s.refreshAheadSecs))]

def RetrievalSettings.toJson (s : RetrievalSettings) : Json :=
  .object
    [("connect_timeout_millis", .number (.natural s.connectTimeoutMillis)),
      ("max_response_bytes", .number (.natural s.maxResponseBytes)),
      ("read_timeout_millis", .number (.natural s.readTimeoutMillis))]

def IssuerSettings.toJson (s : IssuerSettings) : Json :=
  .object
    [("accepted_audience", writeTexts s.acceptedAudience),
      ("clock_skew_secs", .number (.natural s.clockSkewSecs)),
      ("cookie_name", writeOptional .string s.cookieName),
      ("discovery_url", .string s.discoveryUrl.text),
      ("jwks_cache", writeOptional JwksCacheSettings.toJson s.jwksCache),
      ("optional_claims", writeTexts s.optionalClaims),
      ("proxy_url", writeOptional (fun u => .string u.text) s.proxyUrl),
      ("use_plaintext_for_https", .bool s.usePlaintextForHttps),
      ("validation", s.validation.toJson)]

end BearerTrust

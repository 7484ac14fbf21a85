import BearerTrust.Discovery
import BearerTrust.Table

namespace BearerTrust

inductive GrantType where
  | clientCredentials
  | jwtBearer
  | tokenExchange
deriving DecidableEq, Inhabited

namespace GrantType

def text : GrantType → String
  | clientCredentials => "client_credentials"
  | jwtBearer => "urn:ietf:params:oauth:grant-type:jwt-bearer"
  | tokenExchange => "urn:ietf:params:oauth:grant-type:token-exchange"

def ofText? (s : String) : Option GrantType :=
  if s = "client_credentials" then some clientCredentials
  else if s = jwtBearer.text ∨ s = "jwt_bearer" then some jwtBearer
  else if s = tokenExchange.text ∨ s = "token_exchange" then some tokenExchange
  else none

def ofJson? (v : Json) : Option GrantType := Json.asName? v >>= ofText?

end GrantType

inductive AuthMethod where
  | secretBasic
  | secretPost
  | privateKeyJwt
deriving DecidableEq, Inhabited

namespace AuthMethod

def text : AuthMethod → String
  | secretBasic => "client_secret_basic"
  | secretPost => "client_secret_post"
  | privateKeyJwt => "private_key_jwt"

def ofText? (s : String) : Option AuthMethod :=
  [secretBasic, secretPost, privateKeyJwt].find? (·.text = s)

def ofJson? (v : Json) : Option AuthMethod := Json.asName? v >>= ofText?

end AuthMethod

structure ClientKeySettings where
  pem : String
  keyId : String
deriving DecidableEq, Inhabited

structure AuthSettings where
  clientId : String
  method : AuthMethod := .secretBasic
  secret : Option String := none
  key : Option ClientKeySettings := none
deriving DecidableEq, Inhabited

namespace AuthSettings

def basic (clientId secret : String) : AuthSettings := { clientId, secret := some secret }

def post (clientId secret : String) : AuthSettings :=
  { clientId, method := .secretPost, secret := some secret }

def privateKeyJwt (clientId : String) (key : ClientKeySettings) : AuthSettings :=
  { clientId, method := .privateKeyJwt, key := some key }

end AuthSettings

def defaultSubjectTokenType : String := "urn:ietf:params:oauth:token-type:jwt"

structure ExchangeSettings where
  audience : String
  resource : Option String := none
  subjectTokenType : String := defaultSubjectTokenType
deriving DecidableEq, Inhabited

structure ClientSettings where
  tokenEndpointUrl : Option Url := none
  wellKnownUrl : Option Url := none
  grantType : GrantType
  scope : List String := []
  authentication : AuthSettings
  resourceUrl : Option Url := none
  tokenExchange : Option ExchangeSettings := none
deriving DecidableEq, Inhabited

namespace ClientSettings

def trimSlashes (cs : List Char) : List Char := (cs.reverse.dropWhile (· = '/')).reverse

def isUnder (resource path : String) : Bool :=
  let top := trimSlashes resource.toList
  let rest := path.toList.drop top.length
  top.isPrefixOf path.toList && (rest.isEmpty || rest.head? == some '/')

/-- Whether a location belongs to the resource that the client's tokens are for. -/
def serves (c : ClientSettings) (u : Url) : Bool :=
  match c.resourceUrl with
  | none => false
  | some r =>
    r.scheme == u.scheme && r.hostText? == u.hostText? && r.effectivePort? == u.effectivePort? &&
      isUnder r.pathText u.pathText

end ClientSettings

structure ClientRegistrations where
  entries : List (String × ClientSettings) := []
deriving DecidableEq, Inhabited

namespace ClientRegistrations

def insert (name : String) (c : ClientSettings) (r : ClientRegistrations) : ClientRegistrations :=
  ⟨Table.insertSorted name c r.entries⟩

def get? (r : ClientRegistrations) (name : String) : Option ClientSettings :=
  Table.get? name r.entries

def serving (r : ClientRegistrations) (u : Url) : List String :=
  (r.entries.filter fun e => e.2.serves u).map Prod.fst

def forResource? (r : ClientRegistrations) (u : Url) : Option (String × ClientSettings) :=
  r.entries.find? fun e => e.2.serves u

end ClientRegistrations

structure TokenCacheSettings where
  maximumSize : UInt64 := 1000
  evictSkewSecs : UInt64 := 10
deriving DecidableEq, Inhabited

def readText (v : Json) : Option (Option String) := Json.nullable Json.asString? v

def readLocation (v : Json) : Option (Option Url) := Json.nullable IssuerMetadata.readUrl v

def ClientKeySettings.ofJson? (v : Json) : Option ClientKeySettings := do
  let r ← Json.Record.ofJson? ["pem", "key_id"] v
  let pem ← r.required "pem" Json.asString?
  let keyId ← r.required "key_id" Json.asString?
  some { pem, keyId }

def AuthSettings.ofJson? (v : Json) : Option AuthSettings := do
  let r ← Json.Record.ofJson? ["client_id", "client_auth_method", "client_secret", "client_jwk"] v
  let clientId ← r.required "client_id" Json.asString?
  let method ← r.withDefault "client_auth_method" .secretBasic AuthMethod.ofJson?
  let secret ← r.withDefault "client_secret" none readText
  let key ← r.withDefault "client_jwk" none (Json.nullable ClientKeySettings.ofJson?)
  some { clientId, method, secret, key }

def ExchangeSettings.ofJson? (v : Json) : Option ExchangeSettings := do
  let r ← Json.Record.ofJson? ["audience", "resource", "subject_token_type"] v
  let audience ← r.required "audience" Json.asString?
  let resource ← r.withDefault "resource" none readText
  let subjectTokenType ← r.withDefault "subject_token_type" defaultSubjectTokenType Json.asString?
  some { audience, resource, subjectTokenType }

def ClientSettings.fieldNames : List String :=
  ["token_endpoint_url", "well_known_url", "grant_type", "scope", "authentication", "resource_url",
    "token_exchange"]

def ClientSettings.ofJson? (v : Json) : Option ClientSettings := do
  let r ← Json.Record.ofJson? fieldNames v
  let tokenEndpointUrl ← r.withDefault "token_endpoint_url" none readLocation
  let wellKnownUrl ← r.withDefault "well_known_url" none readLocation
  let grantType ← r.required "grant_type" GrantType.ofJson?
  let scope ← r.withDefault "scope" [] (Json.listOf Json.asString?)
  let authentication ← r.required "authentication" AuthSettings.ofJson?
  let resourceUrl ← r.withDefault "resource_url" none readLocation
  let tokenExchange ← r.withDefault "token_exchange" none (Json.nullable ExchangeSettings.ofJson?)
  some { tokenEndpointUrl, wellKnownUrl, grantType, scope, authentication, resourceUrl,
         tokenExchange }

def ClientRegistrations.readEntries (v : Json) : Option (List (String × ClientSettings)) := do
  (← v.asObject?).mapM fun m => (ClientSettings.ofJson? m.2).map fun c => (m.1, c)

def ClientRegistrations.ofJson? (v : Json) : Option ClientRegistrations := do
  let r ← Json.Record.ofJson? ["registration"] v
  let entries ← r.withDefault "registration" [] readEntries
  some ⟨entries⟩

def TokenCacheSettings.ofJson? (v : Json) : Option TokenCacheSettings := do
  let r ← Json.Record.ofJson? ["maximum_size", "evict_skew_secs"] v
  let usual : TokenCacheSettings := {}
  let maximumSize ← r.withDefault "maximum_size" usual.maximumSize Json.asNatural?
  let evictSkewSecs ← r.withDefault "evict_skew_secs" usual.evictSkewSecs Json.asNatural?
  some { maximumSize, evictSkewSecs }

def optionalMember {α : Type} (name : String) (write : α → Json) (v : Option α) :
    List (String × Json) :=
  v.toList.map fun a => (name, write a)

def writeLocation (u : Url) : Json := .string u.text

def ClientKeySettings.toJson (k : ClientKeySettings) : Json :=
  .object (Json.ofMembers [("pem", .string k.pem), ("key_id", .string k.keyId)])

def AuthSettings.toJson (a : AuthSettings) : Json :=
  .object <| Json.ofMembers <|
    [("client_id", .string a.clientId), ("client_auth_method", .string a.method.text)] ++
      optionalMember "client_secret" .string a.secret ++
      optionalMember "client_jwk" ClientKeySettings.toJson a.key

def ExchangeSettings.toJson (e : ExchangeSettings) : Json :=
  .object <| Json.ofMembers <|
    [("audience", .string e.audience), ("subject_token_type", .string e.subjectTokenType)] ++
      optionalMember "resource" .string e.resource

def ClientSettings.toJson (c : ClientSettings) : Json :=
  .object <| Json.ofMembers <|
    [("grant_type", .string c.grantType.text), ("scope", .array (c.scope.map .string)),
      ("authentication", c.authentication.toJson)] ++
      optionalMember "token_endpoint_url" writeLocation c.tokenEndpointUrl ++
      optionalMember "well_known_url" writeLocation c.wellKnownUrl ++
      optionalMember "resource_url" writeLocation c.resourceUrl ++
      optionalMember "token_exchange" ExchangeSettings.toJson c.tokenExchange

def ClientRegistrations.toJson (r : ClientRegistrations) : Json :=
  .object [("registration", .object (r.entries.map fun e => (e.1, e.2.toJson)))]

def TokenCacheSettings.toJson (s : TokenCacheSettings) : Json :=
  .object <| Json.ofMembers
    [("maximum_size", .number (.natural s.maximumSize)),
      ("evict_skew_secs", .number (.natural s.evictSkewSecs))]

end BearerTrust

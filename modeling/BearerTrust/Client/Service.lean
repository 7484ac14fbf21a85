import BearerTrust.Client.Cache
import BearerTrust.Context

namespace BearerTrust

/-- The caches of a service; grants without one are requested anew each time. -/
structure TokenCaches where
  clientCredentials : Option TokenCache := none
  jwtBearer : Option TokenCache := none
  tokenExchange : Option TokenCache := none
deriving DecidableEq, Inhabited

namespace TokenCaches

def get? (c : TokenCaches) : GrantType → Option TokenCache
  | .clientCredentials => c.clientCredentials
  | .jwtBearer => c.jwtBearer
  | .tokenExchange => c.tokenExchange

def set (c : TokenCaches) (g : GrantType) (cache : TokenCache) : TokenCaches :=
  match g with
  | .clientCredentials => { c with clientCredentials := some cache }
  | .jwtBearer => { c with jwtBearer := some cache }
  | .tokenExchange => { c with tokenExchange := some cache }

end TokenCaches

structure ServiceState (σ τ : Type) where
  caches : TokenCaches := {}
  endpoints : List (Url × Url) := []
  web : σ
  outside : τ

def maxEndpoints : Nat := 100

/-- How a service reaches out. Without a resolver no endpoint can be discovered. -/
structure TokenService (σ τ : Type) where
  resolver : Option (Retriever σ)
  endpoint : TokenEndpoint τ

/-- The circumstances of a call: the caller's token, the time, an instant on the clock that caches go
by, and sixteen random octets. -/
structure CallSite where
  subject : Option String
  now : Seconds
  instant : Instant := 0
  nonce : Bytes
deriving DecidableEq, Inhabited

/-- The token of the caller that is being served: the first one in the installed context. -/
def Context.subjectToken? (installed : Option Context) : Option String :=
  (installed.bind first?).map Token.encoded

namespace TokenService

variable {σ τ : Type}

def grantFor (c : ClientSettings) (subject : Option String) : Except ClientError Grant :=
  match c.grantType with
  | .clientCredentials => .ok .clientCredentials
  | .jwtBearer =>
    match subject with
    | some token => .ok (.onBehalfOf token)
    | none => .error .noAuthenticatedToken
  | .tokenExchange =>
    match c.tokenExchange, subject with
    | none, _ => .error (.configuration (.noExchangeParameters c.authentication.clientId))
    | some _, none => .error .missingSubjectToken
    | some exchange, some token => .ok (.tokenExchange token exchange)

/-- Finds a token endpoint through a discovery document. Only successes are remembered. -/
def discoverEndpoint (web : Retriever σ) (document : Url) (st : ServiceState σ τ) :
    Except ClientError Url × ServiceState σ τ :=
  match Table.get? document st.endpoints with
  | some endpoint => (.ok endpoint, st)
  | none =>
    match discover web document st.web with
    | (.error e, w) => (.error (.metadata e), { st with web := w })
    | (.ok m, w) =>
      match m.tokenEndpoint with
      | none => (.error (.configuration (.noTokenEndpoint document)), { st with web := w })
      | some endpoint =>
        let endpoints :=
          if st.endpoints.length < maxEndpoints then st.endpoints ++ [(document, endpoint)]
          else st.endpoints
        (.ok endpoint, { st with web := w, endpoints })

def endpointFor (s : TokenService σ τ) (c : ClientSettings) (st : ServiceState σ τ) :
    Except ClientError Url × ServiceState σ τ :=
  match c.tokenEndpointUrl, c.wellKnownUrl, s.resolver with
  | some url, _, _ => (.ok url, st)
  | none, none, _ => (.error (.configuration (.noEndpoint c.authentication.clientId)), st)
  | none, some _, none => (.error (.configuration .noResolver), st)
  | none, some document, some web => discoverEndpoint web document st

def obtain (s : TokenService σ τ) (q : GrantRequest) (a : ClientAuth) (site : CallSite)
    (st : ServiceState σ τ) : Except ClientError IssuedToken × ServiceState σ τ :=
  let send := q.send s.endpoint a site.now site.nonce
  match st.caches.get? q.grant.grantType with
  | none =>
    let (result, o) := send st.outside
    (result, { st with outside := o })
  | some cache =>
    let (result, cache, o) := cache.getOrCompute site.instant q send st.outside
    (result, { st with caches := st.caches.set q.grant.grantType cache, outside := o })

/-- The grant, the credentials and the endpoint are looked at in this order, and the first that fails is
reported; then comes the cache, and last the endpoint itself. -/
def accessToken (s : TokenService σ τ) (c : ClientSettings) (site : CallSite)
    (st : ServiceState σ τ) : Except ClientError IssuedToken × ServiceState σ τ :=
  match grantFor c site.subject with
  | .error e => (.error e, st)
  | .ok grant =>
    match ClientAuth.ofSettings c.authentication with
    | .error e => (.error e, st)
    | .ok a =>
      match s.endpointFor c st with
      | (.error e, st) => (.error e, st)
      | (.ok url, st) => s.obtain ⟨url, a.credential, c.scope, grant⟩ a site st

end TokenService
end BearerTrust

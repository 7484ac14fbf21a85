import BearerTrust.Client.Authentication

namespace BearerTrust

inductive Grant where
  | clientCredentials
  | onBehalfOf (assertion : String)
  | tokenExchange (subjectToken : String) (exchange : ExchangeSettings)
deriving DecidableEq, Inhabited

namespace Grant

def grantType : Grant → GrantType
  | clientCredentials => .clientCredentials
  | onBehalfOf _ => .jwtBearer
  | tokenExchange _ _ => .tokenExchange

def fields : Grant → List (String × String)
  | clientCredentials => []
  | onBehalfOf assertion => [("assertion", assertion), ("requested_token_use", "on_behalf_of")]
  | tokenExchange subjectToken exchange =>
    [("subject_token", subjectToken), ("subject_token_type", exchange.subjectTokenType),
      ("audience", exchange.audience)] ++ exchange.resource.toList.map fun r => ("resource", r)

/-- An exchange never sends a scope. -/
def sendsScope : Grant → Bool
  | tokenExchange _ _ => false
  | _ => true

end Grant

structure GrantRequest where
  tokenUrl : Url
  credential : ClientCredential
  scope : List String
  grant : Grant
deriving DecidableEq, Inhabited

namespace GrantRequest

def scopeFields (q : GrantRequest) : List (String × String) :=
  if !q.scope.isEmpty && q.grant.sendsScope then [("scope", String.intercalate " " q.scope)] else []

def form (q : GrantRequest) : List (String × String) :=
  ("grant_type", q.grant.grantType.text) :: q.scopeFields ++ q.grant.fields

def tokenRequest (q : GrantRequest) (a : ClientAuth) (now : Seconds) (nonce : Bytes) :
    TokenRequest :=
  a.apply q.tokenUrl now nonce { url := q.tokenUrl, form := q.form }

end GrantRequest
end BearerTrust

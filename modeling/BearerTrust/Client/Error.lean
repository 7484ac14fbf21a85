import BearerTrust.Discovery

namespace BearerTrust

inductive ConfigurationFault where
  | noSecret (clientId : String)
  | noSigningKey (clientId : String)
  | noExchangeParameters (clientId : String)
  | noEndpoint (clientId : String)
  | noResolver
  | noTokenEndpoint (document : Url)
deriving DecidableEq, Inhabited

def ConfigurationFault.text : ConfigurationFault → String
  | .noSecret id => "client `" ++ id ++ "` has no client secret"
  | .noSigningKey id => "client `" ++ id ++ "` has no signing key"
  | .noExchangeParameters id => "client `" ++ id ++ "` has no token exchange parameters"
  | .noEndpoint id => "client `" ++ id ++ "` has neither a token endpoint nor a discovery document"
  | .noResolver => "no metadata resolver configured for token endpoint discovery"
  | .noTokenEndpoint document => "discovery document at " ++ document.text ++ " has no token endpoint"

inductive ResponseFault where
  | unreadable
  | missingLifetime
  | invalidLifetime (text : String)
deriving DecidableEq, Inhabited

def ResponseFault.detail? : ResponseFault → Option String
  | .unreadable => none
  | .missingLifetime => some "missing `expires_in`"
  | .invalidLifetime text => some ("invalid lifetime `" ++ text ++ "`")

inductive ClientError where
  | errorResponse (status : Nat) (body : String)
  | transport (cause : RetrievalError)
  | malformedResponse (fault : ResponseFault)
  | metadata (cause : MetadataError)
  | noAuthenticatedToken
  | missingSubjectToken
  | configuration (fault : ConfigurationFault)
  | clientAssertion
deriving DecidableEq, Inhabited

def ClientError.message : ClientError → String
  | .errorResponse status body =>
    "token endpoint responded with status " ++ Nat.repr status ++ ": " ++ body
  | .transport _ => "unable to communicate with token endpoint"
  | .malformedResponse _ => "malformed token response"
  | .metadata _ => "unable to resolve token endpoint"
  | .noAuthenticatedToken => "no authenticated token available for on-behalf-of grant"
  | .missingSubjectToken => "no subject token available for token exchange"
  | .configuration fault => "invalid client configuration: " ++ fault.text
  | .clientAssertion => "unable to create client assertion"

end BearerTrust

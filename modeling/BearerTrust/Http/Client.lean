import BearerTrust.Client.Service
import BearerTrust.Http.Message
import BearerTrust.Settings.Issuer

namespace BearerTrust.Http

structure Client where
  userAgent : String
  routing : Routing
  maxResponseBytes : Nat
deriving DecidableEq, Inhabited

/-- Whether a location can be a proxy: it has a host, or its text is that of a host without a scheme. -/
def isProxy (u : Url) : Bool :=
  u.host.isSome || ((Url.parse? ("http://" ++ u.text)).bind Url.host).isSome

def Client.build (userAgent : String) (s : RetrievalSettings) (routing : Routing) :
    Except RetrievalError Client :=
  if routing.proxyUrl.all isProxy then .ok ⟨userAgent, routing, s.maxResponseBytes.toNat⟩
  else .error .clientBuild

namespace Client

variable {ω : Type}

def effectiveUrl (c : Client) (url : Url) : Url :=
  if c.routing.usePlaintextForHttps && url.scheme = "https" then url.withScheme "http" else url

def getRequest (c : Client) (url : Url) : Request where
  method := "GET"
  url
  proxy := c.routing.proxyUrl
  headers := [("accept", "application/json"), ("user-agent", c.userAgent)]
  body := []

def document (c : Client) (url : Url) : Option Response → Except RetrievalError Bytes
  | none => .error (.requestSend url)
  | some r =>
    if r.isSuccess then r.read url c.maxResponseBytes else .error (.errorStatus url r.status)

def retriever (c : Client) (t : Transport ω) : Retriever ω where
  retrieve url s :=
    let url := c.effectiveUrl url
    let (response, s) := t.send (c.getRequest url) s
    (c.document url response, s)

def basicHeader (credentials : String × String) : String × String :=
  ("authorization",
    "Basic " ++ Text.Base64.encodeStandard (Text.utf8 (credentials.1 ++ ":" ++ credentials.2)))

def postRequest (c : Client) (q : TokenRequest) : Request where
  method := "POST"
  url := q.url
  proxy := c.routing.proxyUrl
  headers :=
    [("accept", "application/json"), ("content-type", "application/x-www-form-urlencoded"),
      ("user-agent", c.userAgent)] ++ q.basic.toList.map basicHeader
  body := Text.utf8 (Url.Percent.encodeForm q.form)

def answer (c : Client) (url : Url) : Option Response → Except RetrievalError EndpointAnswer
  | none => .error (.requestSend url)
  | some r => (r.read url c.maxResponseBytes).map fun body => ⟨r.status, body⟩

def tokenEndpoint (c : Client) (t : Transport ω) : TokenEndpoint ω where
  post q s :=
    let (response, s) := t.send (c.postRequest q) s
    (c.answer q.url response, s)

end Client

def tokenService {ω : Type} (userAgents : String × String) (s : RetrievalSettings)
    (routing : Routing) (t : Transport ω) : Except ClientError (TokenService ω ω) :=
  match Client.build userAgents.1 s routing, Client.build userAgents.2 s routing with
  | .ok documents, .ok tokens =>
    .ok ⟨some (documents.retriever t), tokens.tokenEndpoint t⟩
  | .error e, _ | _, .error e => .error (.transport e)

end BearerTrust.Http

import BearerTrust.Client.Grant
import BearerTrust.Client.Response

namespace BearerTrust

structure EndpointAnswer where
  status : Nat
  body : Bytes
deriving DecidableEq, Inhabited

def EndpointAnswer.isSuccess (a : EndpointAnswer) : Bool := 200 ≤ a.status && a.status < 300

structure TokenEndpoint (τ : Type) where
  post : TokenRequest → τ → Except RetrievalError EndpointAnswer × τ

def EndpointAnswer.token (a : EndpointAnswer) (now : Seconds) : Except ClientError IssuedToken :=
  if a.isSuccess then
    match TokenAnswer.parse a.body with
    | .ok answer => .ok (answer.receivedAt now)
    | .error fault => .error (.malformedResponse fault)
  else .error (.errorResponse a.status (Text.ofUtf8Lossy a.body))

def GrantRequest.send {τ : Type} (endpoint : TokenEndpoint τ) (q : GrantRequest) (a : ClientAuth)
    (now : Seconds) (nonce : Bytes) (s : τ) : Except ClientError IssuedToken × τ :=
  match endpoint.post (q.tokenRequest a now nonce) s with
  | (.error e, s) => (.error (.transport e), s)
  | (.ok answer, s) => (answer.token now, s)

inductive ReadyAnswer where
  | answer (a : EndpointAnswer)
  | tooLarge (limit : Nat)
deriving DecidableEq, Inhabited

/-- Answers kept ready, the last one for all further requests, and the requests sent so far. -/
structure Outbox where
  answers : List ReadyAnswer := []
  sent : List TokenRequest := []
deriving DecidableEq, Inhabited

namespace Outbox

def noAnswer : EndpointAnswer := ⟨500, Text.utf8 "no response configured"⟩

def ReadyAnswer.result (url : Url) : ReadyAnswer → Except RetrievalError EndpointAnswer
  | .answer a => .ok a
  | .tooLarge limit => .error (.tooLarge url limit)

def post (q : TokenRequest) (o : Outbox) : Except RetrievalError EndpointAnswer × Outbox :=
  let sent := o.sent ++ [q]
  match o.answers with
  | [] => (.ok noAnswer, { o with sent })
  | [a] => (ReadyAnswer.result q.url a, { o with sent })
  | a :: rest => (ReadyAnswer.result q.url a, ⟨rest, sent⟩)

def endpoint : TokenEndpoint Outbox := ⟨post⟩

end Outbox
end BearerTrust

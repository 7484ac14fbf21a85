import BearerTrust.Claims.Basic
import BearerTrust.Client.Error
import BearerTrust.Client.Settings
import BearerTrust.Crypto.Pem
import BearerTrust.Token.Compact

namespace BearerTrust

structure TokenRequest where
  url : Url
  form : List (String × String)
  basic : Option (String × String) := none
deriving DecidableEq, Inhabited

namespace TokenRequest

def param? (q : TokenRequest) (name : String) : Option String := q.form.lookup name

def describe (q : TokenRequest) : String :=
  let names := String.intercalate ", " (q.form.map fun f => Text.literal f.1)
  let client := q.basic.elim "None" fun b => "Some(" ++ Text.literal b.1 ++ ")"
  "TokenRequest \x7b url: " ++ Text.literal q.url.text ++ ", form: [" ++ names ++
    "], basic_auth: " ++ client ++ " \x7d"

end TokenRequest

structure SigningKey where
  key : Rsa.PrivateKey
  keyId : Option String
deriving DecidableEq, Inhabited

inductive ClientAuth where
  | secretBasic (clientId secret : String)
  | secretPost (clientId secret : String)
  | privateKeyJwt (clientId : String) (key : SigningKey)
deriving DecidableEq, Inhabited

inductive CredentialMaterial where
  | secret (text : String)
  | publicKey (key : Rsa.PublicKey) (keyId : Option String)
deriving DecidableEq, Inhabited

/-- What tokens are issued to: a client together with what it authenticates with. -/
structure ClientCredential where
  clientId : String
  method : AuthMethod
  material : CredentialMaterial
deriving DecidableEq, Inhabited

def assertionLifetime : Seconds := 60

def assertionType : String := "urn:ietf:params:oauth:client-assertion-type:jwt-bearer"

def assertionClaims (clientId : String) (tokenUrl : Url) (now : Seconds) (nonce : Bytes) : Json :=
  .object
    [("iss", .string clientId), ("sub", .string clientId), ("aud", .string tokenUrl.text),
      ("jti", .string (Text.Base64.encodeUrl nonce)), ("iat", .number (.natural now)),
      ("nbf", .number (.natural now)), ("exp", .number (.natural (now + assertionLifetime)))]

def SigningKey.assertion (k : SigningKey) (clientId : String) (tokenUrl : Url) (now : Seconds)
    (nonce : Bytes) : String :=
  Compact.write ⟨.rs256, k.keyId⟩ (assertionClaims clientId tokenUrl now nonce) k.key.sign

namespace ClientAuth

def clientId : ClientAuth → String
  | secretBasic id _ | secretPost id _ | privateKeyJwt id _ => id

def method : ClientAuth → AuthMethod
  | secretBasic _ _ => .secretBasic
  | secretPost _ _ => .secretPost
  | privateKeyJwt _ _ => .privateKeyJwt

def ofSettings (s : AuthSettings) : Except ClientError ClientAuth :=
  match s.method, s.secret, s.key with
  | .secretBasic, some secret, _ => .ok (secretBasic s.clientId secret)
  | .secretPost, some secret, _ => .ok (secretPost s.clientId secret)
  | .secretBasic, none, _ | .secretPost, none, _ =>
    .error (.configuration (.noSecret s.clientId))
  | .privateKeyJwt, _, none => .error (.configuration (.noSigningKey s.clientId))
  | .privateKeyJwt, _, some k =>
    match Pem.privateKey? k.pem with
    | some key => .ok (privateKeyJwt s.clientId ⟨key, some k.keyId⟩)
    | none => .error .clientAssertion

def material : ClientAuth → CredentialMaterial
  | secretBasic _ secret | secretPost _ secret => .secret secret
  | privateKeyJwt _ k => .publicKey k.key.publicKey k.keyId

def credential (a : ClientAuth) : ClientCredential := ⟨a.clientId, a.method, a.material⟩

def formFields (tokenUrl : Url) (now : Seconds) (nonce : Bytes) :
    ClientAuth → List (String × String)
  | secretBasic _ _ => []
  | secretPost id secret => [("client_id", id), ("client_secret", secret)]
  | privateKeyJwt id k =>
    [("client_id", id), ("client_assertion_type", assertionType),
      ("client_assertion", k.assertion id tokenUrl now nonce)]

def basicCredentials? : ClientAuth → Option (String × String)
  | secretBasic id secret => some (id, secret)
  | _ => none

def apply (a : ClientAuth) (tokenUrl : Url) (now : Seconds) (nonce : Bytes) (q : TokenRequest) :
    TokenRequest :=
  { q with
    form := q.form ++ a.formFields tokenUrl now nonce
    basic := a.basicCredentials? <|> q.basic }

end ClientAuth
end BearerTrust

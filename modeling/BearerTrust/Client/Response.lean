import BearerTrust.Claims.Basic
import BearerTrust.Client.Error
import BearerTrust.Text.Blank

namespace BearerTrust

inductive LenientSeconds where
  | number (value : Seconds)
  | text (value : String)
deriving DecidableEq, Inhabited

namespace LenientSeconds

def ofJson? : Json → Option LenientSeconds
  | .number (.natural n) => some (.number n)
  | .string s => some (.text s)
  | _ => none

def digits? (cs : List Char) : Option Nat :=
  if cs.isEmpty then none
  else cs.foldlM (fun n c => if c.isDigit then some (n * 10 + (c.toNat - 48)) else none) 0

def readDigits? (cs : List Char) : Option Seconds := do
  let n ← digits? (if cs.head? = some '+' then cs.tail else cs)
  if n < 2 ^ 64 then some n.toUInt64 else none

def seconds : LenientSeconds → Except ResponseFault Seconds
  | .number n => .ok n
  | .text s =>
    match readDigits? (Text.trim s.toList) with
    | some n => .ok n
    | none => .error (.invalidLifetime s)

end LenientSeconds

structure TokenAnswer where
  accessToken : String
  tokenType : Option String
  expiresIn : Seconds
  expiresAt : Option Seconds
deriving DecidableEq, Inhabited

structure IssuedToken where
  accessToken : String
  tokenType : Option String
  expiresIn : Seconds
  expiresAt : Seconds
deriving DecidableEq, Inhabited

namespace TokenAnswer

def fieldNames : List String :=
  ["access_token", "token_type", "expires_in", "ext_expires_in", "expires_at"]

def times (expiresIn extExpiresIn expiresAt : Option LenientSeconds) :
    Except ResponseFault (Seconds × Option Seconds) :=
  match expiresIn <|> extExpiresIn with
  | none => .error .missingLifetime
  | some lifetime => do
    let lifetime ← lifetime.seconds
    match expiresAt with
    | none => .ok (lifetime, none)
    | some t => (t.seconds).map fun t => (lifetime, some t)

def ofRecord (r : Json.Record) : Except ResponseFault TokenAnswer :=
  let fields := do
    let accessToken ← r.required "access_token" Json.asString?
    let tokenType ← r.withDefault "token_type" none (Json.nullable Json.asString?)
    let expiresIn ← r.withDefault "expires_in" none (Json.nullable LenientSeconds.ofJson?)
    let extExpiresIn ← r.withDefault "ext_expires_in" none (Json.nullable LenientSeconds.ofJson?)
    let expiresAt ← r.withDefault "expires_at" none (Json.nullable LenientSeconds.ofJson?)
    some (accessToken, tokenType, expiresIn, extExpiresIn, expiresAt)
  match fields with
  | none => .error .unreadable
  | some (accessToken, tokenType, expiresIn, extExpiresIn, expiresAt) => do
    let (expiresIn, expiresAt) ← times expiresIn extExpiresIn expiresAt
    .ok { accessToken, tokenType, expiresIn, expiresAt }

/-- Reads the body of an answer. A missing or invalid lifetime is reported even when more text
follows. -/
def parse (bs : Bytes) : Except ResponseFault TokenAnswer :=
  match Json.Written.scan? bs with
  | none => .error .unreadable
  | some (w, rest) =>
    match Json.Record.ofWritten? fieldNames w with
    | none => .error .unreadable
    | some r => do
      let answer ← ofRecord r
      if Json.Written.isBlank rest then .ok answer else .error .unreadable

def receivedAt (a : TokenAnswer) (now : Seconds) : IssuedToken where
  accessToken := a.accessToken
  tokenType := a.tokenType
  expiresIn := a.expiresIn
  expiresAt := a.expiresAt.getD (now.saturatingAdd a.expiresIn)

end TokenAnswer

def IssuedToken.toMembers (t : IssuedToken) : Json.Members :=
  [("access_token", .string t.accessToken), ("expires_at", .number (.natural t.expiresAt)),
    ("expires_in", .number (.natural t.expiresIn)), ("token_type", t.tokenType.elim .null .string)]

/-- How long a token may be served from a cache that drops it `skew` before it expires: all its
lifetime, if that is shorter than `skew`. -/
def IssuedToken.cacheLifetime (t : IssuedToken) (skew : Seconds) : Seconds :=
  if t.expiresIn < skew then t.expiresIn else t.expiresIn - skew

end BearerTrust

import BearerTrust.Registry
import BearerTrust.Request

namespace BearerTrust

structure Candidate where
  shortName : String
  token : String
deriving DecidableEq, Inhabited

namespace Registry

def bearer? (credential : List Char) : Option String := do
  let (scheme, token) ← ClaimRequirement.cut? ' ' credential
  if Text.sameUpToCase (String.ofList scheme) "bearer" then some (String.ofList (Text.trim token))
  else none

def route? (r : Registry) (token : String) : Option Candidate := do
  let claims ← (Claims.peek token).toOption
  let i ← r.byIssuer? (← claims.issuer)
  some ⟨i.shortName, token⟩

def ofCredential? (r : Registry) (credential : List Char) : Option Candidate :=
  bearer? (Text.trim credential) >>= r.route?

def ofHeader (r : Registry) (v : String) : List Candidate :=
  (v.toList.splitOn ',').filterMap r.ofCredential?

def ofCookies (cookies : List Cookie) (i : TrustedIssuer) : List Candidate :=
  match i.cookieName with
  | none => []
  | some name =>
    (cookies.filter fun c => Text.sameUpToCase c.name name && !c.value.isEmpty).map
      fun c => ⟨i.shortName, c.value⟩

/-- The tokens of a request: those in the header in the order sent, then those in cookies in the
order in which the issuers were registered. -/
def candidates (r : Registry) (q : Request) : List Candidate :=
  (q.header? "authorization").elim [] r.ofHeader ++ r.issuers.flatMap (ofCookies q.cookies)

end Registry
end BearerTrust

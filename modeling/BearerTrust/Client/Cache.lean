import BearerTrust.Client.Endpoint
import BearerTrust.KeySource.Basic

namespace BearerTrust

structure CachedToken where
  token : IssuedToken
  deadline : Instant
deriving DecidableEq, Inhabited

/-- Tokens under the requests that they answered. Failures are never kept, and nothing that lives is
pushed out by something new. -/
structure TokenCache where
  settings : TokenCacheSettings := {}
  entries : List (GrantRequest × CachedToken) := []
deriving DecidableEq, Inhabited

namespace TokenCache

def live (c : TokenCache) (instant : Instant) : TokenCache :=
  { c with entries := c.entries.filter fun e => instant < e.2.deadline }

def get? (c : TokenCache) (instant : Instant) (q : GrantRequest) : Option IssuedToken :=
  (Table.get? q (c.live instant).entries).map CachedToken.token

def insert (c : TokenCache) (instant : Instant) (q : GrantRequest) (t : IssuedToken) : TokenCache :=
  let c := c.live instant
  let lifetime := t.cacheLifetime c.settings.evictSkewSecs
  if c.entries.length < c.settings.maximumSize.toNat then
    { c with entries := Table.put q ⟨t, instant + lifetime.toNat * 1000⟩ c.entries }
  else c

def clear (c : TokenCache) : TokenCache := { c with entries := [] }

variable {τ : Type}

def getOrCompute (c : TokenCache) (instant : Instant) (q : GrantRequest)
    (compute : τ → Except ClientError IssuedToken × τ) (s : τ) :
    Except ClientError IssuedToken × TokenCache × τ :=
  match c.get? instant q with
  | some t => (.ok t, c, s)
  | none =>
    match compute s with
    | (.ok t, s) => (.ok t, c.insert instant q t, s)
    | (.error e, s) => (.error e, c, s)

/-- What so many callers at once get: all the same, from one computation. -/
def getOrComputeTogether (count : Nat) (c : TokenCache) (instant : Instant) (q : GrantRequest)
    (compute : τ → Except ClientError IssuedToken × τ) (s : τ) :
    List (Except ClientError IssuedToken) × TokenCache × τ :=
  if count = 0 then ([], c, s)
  else
    let (result, c, s) := c.getOrCompute instant q compute s
    (List.replicate count result, c, s)

end TokenCache
end BearerTrust

import BearerTrust.Abort
import BearerTrust.Keys.Jwk
import BearerTrust.Retrieval

namespace BearerTrust

/-- Milliseconds on a clock that only moves forward. -/
abbrev Instant := Nat

abbrev Span := Nat

/-- The first instant past the clock's range, which is `2 ^ 63` seconds. -/
def Instant.limit : Nat := 2 ^ 63 * 1000

structure KeyCachePolicy where
  lifespan : Span
  refreshAhead : Span := 60000
  minRefreshInterval : Span := 15000
deriving DecidableEq, Inhabited

structure StoredKeys where
  keys : KeySet
  fetchedAt : Instant
  expiresAt : Instant
deriving DecidableEq, Inhabited

inductive KeySourceError where
  | retrieval (cause : RetrievalError)
  | malformed
deriving DecidableEq, Inhabited

def KeySourceError.message : KeySourceError → String
  | .retrieval _ => "unable to retrieve JWKS"
  | .malformed => "malformed JWKS"

inductive RefreshReason where
  | expiry
  | unknownKey
  | ahead
deriving DecidableEq, Inhabited

def RefreshReason.isSettledBy (policy : KeyCachePolicy) (now : Instant) (c : StoredKeys) :
    RefreshReason → Bool
  | .expiry => now < c.expiresAt
  | .unknownKey => now - c.fetchedAt < policy.minRefreshInterval
  | .ahead => c.expiresAt - now > policy.refreshAhead

structure KeySource where
  jwksUrl : Url
  cache : Option KeyCachePolicy
deriving DecidableEq, Inhabited

/-- What a source has stored, and the state of the place it retrieves from. -/
structure KeyState (σ : Type) where
  stored : Option StoredKeys
  web : σ

namespace KeySource

variable {σ : Type}

def readAnswer : Except RetrievalError Bytes → Except KeySourceError KeySet
  | .error e => .error (.retrieval e)
  | .ok body =>
    match KeySet.parse? body with
    | some keys => .ok keys
    | none => .error .malformed

def fetch (web : Retriever σ) (source : KeySource) (s : σ) : Except KeySourceError KeySet × σ :=
  let (answer, s) := web.retrieve source.jwksUrl s
  (readAnswer answer, s)

def storedAt (policy : KeyCachePolicy) (now : Instant) (keys : KeySet) : Except Abort StoredKeys :=
  if now + policy.lifespan < Instant.limit then .ok ⟨keys, now, now + policy.lifespan⟩
  else .error .instantOverflow

/-- Retrieves and stores a set. A failure leaves the stored set as it was. -/
def renew (web : Retriever σ) (source : KeySource) (policy : KeyCachePolicy) (now : Instant)
    (st : KeyState σ) : Except Abort (Except KeySourceError KeySet × KeyState σ) :=
  match fetch web source st.web with
  | (.error e, s) => .ok (.error e, { st with web := s })
  | (.ok keys, s) => do
    let c ← storedAt policy now keys
    .ok (.ok keys, { stored := some c, web := s })

def refresh (web : Retriever σ) (source : KeySource) (policy : KeyCachePolicy)
    (why : RefreshReason) (now : Instant) (st : KeyState σ) :
    Except Abort (Except KeySourceError KeySet × KeyState σ) :=
  match st.stored with
  | some c =>
    if why.isSettledBy policy now c then .ok (.ok c.keys, st)
    else renew web source policy now st
  | none => renew web source policy now st

def keys (web : Retriever σ) (source : KeySource) (now : Instant) (st : KeyState σ) :
    Except Abort (Except KeySourceError KeySet × KeyState σ) :=
  match source.cache with
  | none =>
    let (r, s) := fetch web source st.web
    .ok (r, { st with web := s })
  | some policy => refresh web source policy .expiry now st

/-- The key for a key id and an algorithm. When it is not in the stored set, the set is refreshed
once, unless it was fetched within the least interval. -/
def verificationKey (web : Retriever σ) (source : KeySource) (id : Option String)
    (algorithm : Algorithm) (now : Instant) (st : KeyState σ) :
    Except Abort (Except KeySourceError (Option Jwk) × KeyState σ) := do
  match ← keys web source now st with
  | (.error e, st) => .ok (.error e, st)
  | (.ok ks, st) =>
    match ks.choose id algorithm, source.cache with
    | some k, _ => .ok (.ok (some k), st)
    | none, none => .ok (.ok none, st)
    | none, some policy =>
      match ← refresh web source policy .unknownKey now st with
      | (.error e, st) => .ok (.error e, st)
      | (.ok ks, st) => .ok (.ok (ks.choose id algorithm), st)

def refreshAhead (web : Retriever σ) (source : KeySource) (now : Instant) (st : KeyState σ) :
    Except Abort (Except KeySourceError Unit × KeyState σ) :=
  match source.cache with
  | none => .ok (.ok (), st)
  | some policy => do
    let (r, st) ← refresh web source policy .ahead now st
    .ok (r.map fun _ => (), st)

/-- How long the background task waits before it refreshes: until the set expires soon, and at least
the least interval. -/
def nextRefresh (policy : KeyCachePolicy) (now : Instant) (stored : Option StoredKeys) : Span :=
  match stored with
  | none => policy.minRefreshInterval
  | some c => max (c.expiresAt - policy.refreshAhead - now) policy.minRefreshInterval

end KeySource
end BearerTrust

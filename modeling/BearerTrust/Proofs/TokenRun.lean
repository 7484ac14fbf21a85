import BearerTrust.Client.Service
import Mathlib.Data.List.Induction

namespace BearerTrust

variable {σ τ υ : Type}

/-- What was posted to a token endpoint and what came back, the latest last. -/
abbrev Posts := List (TokenRequest × Except RetrievalError EndpointAnswer)

def TokenEndpoint.recording (e : TokenEndpoint τ) : TokenEndpoint (τ × Posts) where
  post q s := ((e.post q s.1).1, ((e.post q s.1).2, s.2 ++ [(q, (e.post q s.1).1)]))

/-- What the reply to a token request comes to. -/
def received (now : Seconds) : Except RetrievalError EndpointAnswer → Except ClientError IssuedToken
  | .error e => .error (.transport e)
  | .ok a => a.token now

theorem GrantRequest.send_eq (endpoint : TokenEndpoint τ) (q : GrantRequest) (a : ClientAuth)
    (now : Seconds) (nonce : Bytes) (s : τ) :
    q.send endpoint a now nonce s =
      (received now (endpoint.post (q.tokenRequest a now nonce) s).1,
        (endpoint.post (q.tokenRequest a now nonce) s).2) := by
  unfold send
  split
  · next h => rw [h]; rfl
  · next h => rw [h]; rfl

theorem TokenCaches.set_self {caches : TokenCaches} {g : GrantType} {cache : TokenCache}
    (h : caches.get? g = some cache) : caches.set g cache = caches := by
  cases g with
  | clientCredentials | jwtBearer | tokenExchange =>
    simp only [TokenCaches.get?] at h
    simp only [TokenCaches.set, ← h]

theorem TokenCaches.get?_set (caches : TokenCaches) (g j : GrantType) (cache : TokenCache) :
    (caches.set g cache).get? j = if j = g then some cache else caches.get? j := by
  cases g <;> cases j <;> rfl

def ServiceState.withOutside (st : ServiceState σ τ) (o : υ) : ServiceState σ υ :=
  ⟨st.caches, st.endpoints, st.web, o⟩

structure TokenCall where
  settings : ClientSettings
  site : CallSite
  request? : Option GrantRequest
  posts : Posts
  result : Except ClientError IssuedToken

/-- The request that a client's settings make for a caller, but for the place it goes to. -/
inductive Prepared (c : ClientSettings) (subject : Option String) : GrantRequest → Prop
  | mk (url : Url) (a : ClientAuth) (grant : Grant)
      (hgrant : TokenService.grantFor c subject = .ok grant)
      (hauth : ClientAuth.ofSettings c.authentication = .ok a) :
      Prepared c subject ⟨url, a.credential, c.scope, grant⟩

namespace TokenService

def recording (s : TokenService σ τ) : TokenService σ (τ × Posts) := ⟨s.resolver, s.endpoint.recording⟩

/-- What a call does before it asks a cache or the endpoint. -/
def prepare (s : TokenService σ τ) (c : ClientSettings) (subject : Option String)
    (st : ServiceState σ τ) : Except ClientError (GrantRequest × ClientAuth) × ServiceState σ τ :=
  match grantFor c subject with
  | .error e => (.error e, st)
  | .ok grant =>
    match ClientAuth.ofSettings c.authentication with
    | .error e => (.error e, st)
    | .ok a =>
      match s.endpointFor c st with
      | (.error e, st) => (.error e, st)
      | (.ok url, st) => (.ok (⟨url, a.credential, c.scope, grant⟩, a), st)

theorem accessToken_eq (s : TokenService σ τ) (c : ClientSettings) (site : CallSite)
    (st : ServiceState σ τ) :
    s.accessToken c site st =
      match s.prepare c site.subject st with
      | (.error e, st) => (.error e, st)
      | (.ok (q, a), st) => s.obtain q a site st := by
  unfold accessToken prepare
  cases grantFor c site.subject with
  | error e => rfl
  | ok grant =>
    cases ClientAuth.ofSettings c.authentication with
    | error e => rfl
    | ok a =>
      dsimp only
      rcases s.endpointFor c st with ⟨e | url, st'⟩
      · rfl
      · rfl

theorem endpointFor_withOutside (s : TokenService σ τ) (r : TokenService σ υ)
    (hr : r.resolver = s.resolver) (c : ClientSettings) (st : ServiceState σ τ) (o : υ) :
    r.endpointFor c (st.withOutside o) =
        ((s.endpointFor c st).1, (s.endpointFor c st).2.withOutside o) ∧
      (s.endpointFor c st).2.caches = st.caches ∧ (s.endpointFor c st).2.outside = st.outside := by
  unfold endpointFor
  rw [hr]
  split
  · exact ⟨rfl, rfl, rfl⟩
  · exact ⟨rfl, rfl, rfl⟩
  · exact ⟨rfl, rfl, rfl⟩
  · unfold discoverEndpoint ServiceState.withOutside
    dsimp only
    split
    · exact ⟨rfl, rfl, rfl⟩
    · split
      · exact ⟨rfl, rfl, rfl⟩
      · split
        · exact ⟨rfl, rfl, rfl⟩
        · exact ⟨rfl, rfl, rfl⟩

theorem prepare_withOutside (s : TokenService σ τ) (r : TokenService σ υ)
    (hr : r.resolver = s.resolver) (c : ClientSettings) (subject : Option String)
    (st : ServiceState σ τ) (o : υ) :
    r.prepare c subject (st.withOutside o) =
        ((s.prepare c subject st).1, (s.prepare c subject st).2.withOutside o) ∧
      (s.prepare c subject st).2.caches = st.caches ∧
      (s.prepare c subject st).2.outside = st.outside := by
  obtain ⟨hendpoint, hcaches, houtside⟩ := endpointFor_withOutside s r hr c st o
  unfold prepare
  split
  · exact ⟨rfl, rfl, rfl⟩
  · split
    · exact ⟨rfl, rfl, rfl⟩
    · rw [hendpoint]
      rcases he : s.endpointFor c st with ⟨e | url, st'⟩
      · rw [he] at hcaches houtside
        exact ⟨rfl, hcaches, houtside⟩
      · rw [he] at hcaches houtside
        exact ⟨rfl, hcaches, houtside⟩

theorem prepare_eq_ok {s : TokenService σ τ} {c : ClientSettings} {subject : Option String}
    {st st' : ServiceState σ τ} {q : GrantRequest} {a : ClientAuth}
    (h : s.prepare c subject st = (.ok (q, a), st')) :
    grantFor c subject = .ok q.grant ∧ ClientAuth.ofSettings c.authentication = .ok a ∧
      q.credential = a.credential ∧ q.scope = c.scope := by
  unfold prepare at h
  split at h
  · cases h
  · next grant hgrant =>
    split at h
    · cases h
    · next a' hauth =>
      split at h
      · cases h
      · cases h
        exact ⟨hgrant, hauth, rfl, rfl⟩

theorem prepared_of_prepare {s : TokenService σ τ} {c : ClientSettings} {subject : Option String}
    {st st' : ServiceState σ τ} {q : GrantRequest} {a : ClientAuth}
    (h : s.prepare c subject st = (.ok (q, a), st')) : Prepared c subject q := by
  obtain ⟨url, credential, scope, grant⟩ := q
  obtain ⟨hgrant, hauth, rfl, rfl⟩ := prepare_eq_ok h
  exact .mk url a grant hgrant hauth

section Obtain

variable {s : TokenService σ τ} {q : GrantRequest} {a : ClientAuth} {site : CallSite}
  {st : ServiceState σ τ} {cache : TokenCache} {t : IssuedToken} {e : ClientError}

def reply (s : TokenService σ τ) (q : GrantRequest) (a : ClientAuth) (site : CallSite) (o : τ) :
    Except RetrievalError EndpointAnswer × τ :=
  s.endpoint.post (q.tokenRequest a site.now site.nonce) o

theorem obtain_uncached (hcache : st.caches.get? q.grant.grantType = none) :
    s.obtain q a site st = (received site.now (s.reply q a site st.outside).1,
      { st with outside := (s.reply q a site st.outside).2 }) := by
  unfold obtain
  rw [hcache]
  dsimp only
  rw [GrantRequest.send_eq]
  rfl

theorem obtain_served (hcache : st.caches.get? q.grant.grantType = some cache)
    (hhit : cache.get? site.instant q = some t) : s.obtain q a site st = (.ok t, st) := by
  unfold obtain
  rw [hcache]
  dsimp only
  rw [TokenCache.getOrCompute, hhit]
  dsimp only
  rw [TokenCaches.set_self hcache]

theorem obtain_kept (hcache : st.caches.get? q.grant.grantType = some cache)
    (hmiss : cache.get? site.instant q = none)
    (ht : received site.now (s.reply q a site st.outside).1 = .ok t) :
    s.obtain q a site st = (.ok t,
      { st with caches := st.caches.set q.grant.grantType (cache.insert site.instant q t),
                outside := (s.reply q a site st.outside).2 }) := by
  unfold reply at ht
  unfold obtain
  rw [hcache]
  dsimp only
  rw [TokenCache.getOrCompute, hmiss]
  dsimp only
  rw [GrantRequest.send_eq, ht]
  rfl

theorem obtain_failed (hcache : st.caches.get? q.grant.grantType = some cache)
    (hmiss : cache.get? site.instant q = none)
    (he : received site.now (s.reply q a site st.outside).1 = .error e) :
    s.obtain q a site st = (.error e, { st with outside := (s.reply q a site st.outside).2 }) := by
  unfold reply at he
  unfold obtain
  rw [hcache]
  dsimp only
  rw [TokenCache.getOrCompute, hmiss]
  dsimp only
  rw [GrantRequest.send_eq, he]
  dsimp only
  rw [TokenCaches.set_self hcache]
  rfl

end Obtain

def record (s : TokenService σ τ) (c : ClientSettings) (site : CallSite) (st : ServiceState σ τ) :
    TokenCall where
  settings := c
  site := site
  request? := (s.prepare c site.subject st).1.toOption.map Prod.fst
  posts := (s.recording.accessToken c site (st.withOutside (st.outside, []))).2.outside.2
  result := (s.accessToken c site st).1

theorem posts_obtain (s : TokenService σ τ) (q : GrantRequest) (a : ClientAuth) (site : CallSite)
    (st : ServiceState σ τ) :
    (s.recording.obtain q a site (st.withOutside (st.outside, []))).2.outside.2 = [] ∨
      ∃ r, (s.recording.obtain q a site (st.withOutside (st.outside, []))).2.outside.2 =
        [(q.tokenRequest a site.now site.nonce, r)] := by
  have hposted : (s.recording.reply q a site (st.outside, [])).2.2 =
      [(q.tokenRequest a site.now site.nonce, (s.reply q a site st.outside).1)] := rfl
  cases hcache : (st.withOutside (st.outside, ([] : Posts))).caches.get? q.grant.grantType with
  | none =>
    rw [obtain_uncached hcache]
    exact .inr ⟨_, hposted⟩
  | some cache =>
    cases hhit : cache.get? site.instant q with
    | some t =>
      rw [obtain_served hcache hhit]
      exact .inl rfl
    | none =>
      cases hr : received site.now
          (s.recording.reply q a site (st.withOutside (st.outside, ([] : Posts))).outside).1 with
      | ok t =>
        rw [obtain_kept hcache hhit hr]
        exact .inr ⟨_, hposted⟩
      | error e =>
        rw [obtain_failed hcache hhit hr]
        exact .inr ⟨_, hposted⟩

theorem posts_record (s : TokenService σ τ) {c : ClientSettings} {site : CallSite}
    {st : ServiceState σ τ} {p : TokenRequest × Except RetrievalError EndpointAnswer}
    (hp : p ∈ (s.record c site st).posts) :
    ∃ q a st', s.prepare c site.subject st = (.ok (q, a), st') ∧
      p.1 = q.tokenRequest a site.now site.nonce := by
  obtain ⟨hrecording, -, houtside⟩ :=
    prepare_withOutside s s.recording rfl c site.subject st (st.outside, ([] : Posts))
  unfold record at hp
  dsimp only at hp
  rw [accessToken_eq, hrecording, ← houtside] at hp
  rcases hprepare : s.prepare c site.subject st with ⟨e | ⟨q, a⟩, st'⟩
  · rw [hprepare] at hp
    cases hp
  · rw [hprepare] at hp
    dsimp only at hp
    refine ⟨q, a, st', rfl, ?_⟩
    rcases posts_obtain s q a site st' with hnone | ⟨r, hone⟩
    · rw [hnone] at hp
      cases hp
    · rw [hone] at hp
      rw [List.mem_singleton.1 hp]

/-- The ways a call can go. It may fail before it comes to a request; a request is posted if there is no
cache for it, or if its cache has nothing for it; and a cache keeps what it had posted for. -/
inductive Goes (c : ClientSettings) (site : CallSite) (caches : TokenCaches) :
    TokenCall → TokenCaches → Prop
  | refused (e : ClientError) : Goes c site caches ⟨c, site, none, [], .error e⟩ caches
  | posted (q : GrantRequest) (p : TokenRequest × Except RetrievalError EndpointAnswer)
      (hq : Prepared c site.subject q) (hcache : caches.get? q.grant.grantType = none) :
      Goes c site caches ⟨c, site, some q, [p], received site.now p.2⟩ caches
  | served (q : GrantRequest) (cache : TokenCache) (t : IssuedToken)
      (hq : Prepared c site.subject q) (hcache : caches.get? q.grant.grantType = some cache)
      (hhit : cache.get? site.instant q = some t) :
      Goes c site caches ⟨c, site, some q, [], .ok t⟩ caches
  | kept (q : GrantRequest) (cache : TokenCache) (t : IssuedToken)
      (p : TokenRequest × Except RetrievalError EndpointAnswer)
      (hq : Prepared c site.subject q) (hcache : caches.get? q.grant.grantType = some cache)
      (hmiss : cache.get? site.instant q = none) (ht : received site.now p.2 = .ok t) :
      Goes c site caches ⟨c, site, some q, [p], .ok t⟩
        (caches.set q.grant.grantType (cache.insert site.instant q t))
  | failed (q : GrantRequest) (cache : TokenCache) (e : ClientError)
      (p : TokenRequest × Except RetrievalError EndpointAnswer)
      (hq : Prepared c site.subject q) (hcache : caches.get? q.grant.grantType = some cache)
      (hmiss : cache.get? site.instant q = none) (he : received site.now p.2 = .error e) :
      Goes c site caches ⟨c, site, some q, [p], .error e⟩ caches

theorem goes_obtain (s : TokenService σ τ) {c : ClientSettings} {q : GrantRequest} (a : ClientAuth)
    {site : CallSite} (st : ServiceState σ τ) (hq : Prepared c site.subject q) :
    Goes c site st.caches
      ⟨c, site, some q, (s.recording.obtain q a site (st.withOutside (st.outside, []))).2.outside.2,
        (s.obtain q a site st).1⟩
      (s.obtain q a site st).2.caches := by
  -- The recording service sees the same caches, and the same replies.
  have hsame {x : Option TokenCache} (h : st.caches.get? q.grant.grantType = x) :
      (st.withOutside (st.outside, ([] : Posts))).caches.get? q.grant.grantType = x := h
  have hreply {r : Except ClientError IssuedToken}
      (h : received site.now (s.reply q a site st.outside).1 = r) :
      received site.now
        (s.recording.reply q a site (st.withOutside (st.outside, ([] : Posts))).outside).1 = r := h
  cases hcache : st.caches.get? q.grant.grantType with
  | none =>
    rw [obtain_uncached hcache, obtain_uncached (hsame hcache)]
    exact .posted q (_, (s.reply q a site st.outside).1) hq hcache
  | some cache =>
    cases hhit : cache.get? site.instant q with
    | some t =>
      rw [obtain_served hcache hhit, obtain_served (hsame hcache) hhit]
      exact .served q cache t hq hcache hhit
    | none =>
      cases hr : received site.now (s.reply q a site st.outside).1 with
      | ok t =>
        rw [obtain_kept hcache hhit hr, obtain_kept (hsame hcache) hhit (hreply hr)]
        exact .kept q cache t (_, (s.reply q a site st.outside).1) hq hcache hhit hr
      | error e =>
        rw [obtain_failed hcache hhit hr, obtain_failed (hsame hcache) hhit (hreply hr)]
        exact .failed q cache e (_, (s.reply q a site st.outside).1) hq hcache hhit hr

theorem goes_accessToken (s : TokenService σ τ) (c : ClientSettings) (site : CallSite)
    (st : ServiceState σ τ) :
    Goes c site st.caches (s.record c site st) (s.accessToken c site st).2.caches := by
  obtain ⟨hrecording, hcaches, houtside⟩ :=
    prepare_withOutside s s.recording rfl c site.subject st (st.outside, ([] : Posts))
  unfold record
  rw [accessToken_eq, accessToken_eq, hrecording, ← hcaches, ← houtside]
  rcases hp : s.prepare c site.subject st with ⟨e | ⟨q, a⟩, st'⟩
  · exact .refused e
  · exact goes_obtain s a st' (prepared_of_prepare hp)

end TokenService

inductive TokenMove where
  | call (c : ClientSettings) (site : CallSite)
  | forget (keeps : GrantRequest → Bool) (knows : Url → Bool)

def TokenMove.IsCall : TokenMove → Prop
  | call _ _ => True
  | forget _ _ => False

def TokenCache.retain (keeps : GrantRequest → Bool) (c : TokenCache) : TokenCache :=
  { c with entries := c.entries.filter fun e => keeps e.1 }

def TokenCaches.retain (keeps : GrantRequest → Bool) (c : TokenCaches) : TokenCaches :=
  ⟨c.clientCredentials.map (·.retain keeps), c.jwtBearer.map (·.retain keeps),
    c.tokenExchange.map (·.retain keeps)⟩

theorem TokenCaches.get?_retain (keeps : GrantRequest → Bool) (c : TokenCaches) (g : GrantType) :
    (c.retain keeps).get? g = (c.get? g).map (·.retain keeps) := by
  cases g <;> rfl

namespace TokenService

/-- A service that starts out with a choice of caches, and nothing in them. -/
def start (choice : GrantType → Option TokenCacheSettings) (web : σ) (outside : τ) :
    ServiceState σ τ where
  caches := ⟨(choice .clientCredentials).map (⟨·, []⟩), (choice .jwtBearer).map (⟨·, []⟩),
    (choice .tokenExchange).map (⟨·, []⟩)⟩
  web
  outside

def apply (s : TokenService σ τ) (st : ServiceState σ τ) : TokenMove → ServiceState σ τ
  | .call c site => (s.accessToken c site st).2
  | .forget keeps knows =>
    { st with caches := st.caches.retain keeps, endpoints := st.endpoints.filter fun e => knows e.1 }

def run (s : TokenService σ τ) (st : ServiceState σ τ) (ms : List TokenMove) : ServiceState σ τ :=
  ms.foldl s.apply st

def recordOf (s : TokenService σ τ) (st : ServiceState σ τ) : TokenMove → List TokenCall
  | .call c site => [s.record c site st]
  | .forget _ _ => []

def calls (s : TokenService σ τ) : ServiceState σ τ → List TokenMove → List TokenCall
  | _, [] => []
  | st, m :: ms => s.recordOf st m ++ s.calls (s.apply st m) ms

theorem get?_start (choice : GrantType → Option TokenCacheSettings) (web : σ) (outside : τ)
    (g : GrantType) : (start choice web outside).caches.get? g = (choice g).map (⟨·, []⟩) := by
  cases g <;> rfl

theorem run_concat (s : TokenService σ τ) (st : ServiceState σ τ) (ms : List TokenMove)
    (m : TokenMove) : s.run st (ms ++ [m]) = s.apply (s.run st ms) m := by
  unfold run
  rw [List.foldl_append]
  rfl

theorem calls_concat (s : TokenService σ τ) (st : ServiceState σ τ) (ms : List TokenMove)
    (m : TokenMove) : s.calls st (ms ++ [m]) = s.calls st ms ++ s.recordOf (s.run st ms) m := by
  induction ms generalizing st with
  | nil => simp [calls, run]
  | cons n ms ih =>
    rw [List.cons_append, calls, calls, ih, List.append_assoc]
    rfl

theorem run_invariant {P : List TokenMove → List TokenCall → TokenCaches → Prop} (s : TokenService σ τ)
    (st : ServiceState σ τ) (h₀ : P [] [] st.caches)
    (hcall : ∀ ms ks caches c site k caches', P ms ks caches → Goes c site caches k caches' →
      P (ms ++ [.call c site]) (ks ++ [k]) caches')
    (hforget : ∀ ms ks caches keeps knows, P ms ks caches →
      P (ms ++ [.forget keeps knows]) ks (caches.retain keeps))
    (ms : List TokenMove) : P ms (s.calls st ms) (s.run st ms).caches := by
  induction ms using List.reverseRecOn with
  | nil => exact h₀
  | append_singleton ms m ih =>
    rw [run_concat, calls_concat]
    cases m with
    | call c site => exact hcall _ _ _ _ _ _ _ ih (goes_accessToken s c site _)
    | forget keeps knows =>
      rw [recordOf, List.append_nil]
      exact hforget _ _ _ _ _ ih

end TokenService
end BearerTrust

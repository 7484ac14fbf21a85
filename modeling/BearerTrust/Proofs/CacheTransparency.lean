import BearerTrust.Proofs.RetrievalRecord
import BearerTrust.Proofs.TokenReuse
import BearerTrust.Proofs.WireRequest

namespace BearerTrust

variable {σ τ : Type}

/-- From here on every discovery document always comes to the same. -/
def Retriever.Tells (web : Retriever σ) (metadata : Url → Except MetadataError IssuerMetadata) (w : σ) :
    Prop :=
  ∀ asked url, (discover web url (web.after asked w)).1 = metadata url

theorem discover_snd (web : Retriever σ) (url : Url) (w : σ) :
    (discover web url w).2 = (web.retrieve url w).2 := by
  unfold discover
  split
  · next h => rw [h]
  · next h =>
    rw [h]
    split <;> rfl

theorem Retriever.Tells.answer {web : Retriever σ} {metadata : Url → Except MetadataError IssuerMetadata}
    {w : σ} (h : web.Tells metadata w) (url : Url) : (discover web url w).1 = metadata url := h [] url

theorem Retriever.Tells.next {web : Retriever σ} {metadata : Url → Except MetadataError IssuerMetadata}
    {w : σ} (h : web.Tells metadata w) (url : Url) : web.Tells metadata (discover web url w).2 := by
  rw [discover_snd]
  exact fun asked => h (url :: asked)

namespace TokenEndpoint

def after (e : TokenEndpoint τ) (sent : List TokenRequest) (o : τ) : τ :=
  sent.foldl (fun o q => (e.post q o).2) o

/-- From here on the same request always gets the same reply. -/
def Steady (e : TokenEndpoint τ) (replies : TokenRequest → Except RetrievalError EndpointAnswer) (o : τ) :
    Prop :=
  ∀ sent q, (e.post q (e.after sent o)).1 = replies q

variable {e : TokenEndpoint τ} {replies : TokenRequest → Except RetrievalError EndpointAnswer} {o : τ}

theorem Steady.reply (h : e.Steady replies o) (q : TokenRequest) : (e.post q o).1 = replies q := h [] q

theorem Steady.next (h : e.Steady replies o) (q : TokenRequest) : e.Steady replies (e.post q o).2 :=
  fun sent => h (q :: sent)

end TokenEndpoint

def located (document : Url) : Except MetadataError IssuerMetadata → Except ClientError Url
  | .error e => .error (.metadata e)
  | .ok m =>
    match m.tokenEndpoint with
    | none => .error (.configuration (.noTokenEndpoint document))
    | some endpoint => .ok endpoint

/-- What a cache has for a request is what any client with the request's secret would receive now. -/
def TokenCache.Faithful (replies : TokenRequest → Except RetrievalError EndpointAnswer) (now : Seconds)
    (cache : TokenCache) : Prop :=
  ∀ q v, (q, v) ∈ cache.entries → ∀ a nonce, q.credential = a.credential → a.method ≠ .privateKeyJwt →
    received now (replies (q.tokenRequest a now nonce)) = .ok v.token

section

variable {replies : TokenRequest → Except RetrievalError EndpointAnswer} {now : Seconds}
  {q : GrantRequest} {a b : ClientAuth}

theorem received_eq (ha : q.credential = a.credential) (hb : q.credential = b.credential)
    (hsecret : a.method ≠ .privateKeyJwt) (nonce nonce' : Bytes) :
    received now (replies (q.tokenRequest a now nonce)) =
      received now (replies (q.tokenRequest b now nonce')) := by
  rw [(GrantRequest.SameOnWire.refl q).tokenRequest_eq ha hb hsecret now now nonce nonce']

theorem TokenCache.Faithful.insert {cache : TokenCache} {instant : Instant} {t : IssuedToken}
    (h : cache.Faithful replies now)
    (ht : ∀ a nonce, q.credential = a.credential → a.method ≠ .privateKeyJwt →
      received now (replies (q.tokenRequest a now nonce)) = .ok t) :
    (cache.insert instant q t).Faithful replies now := by
  intro r v hmem
  rcases TokenCache.mem_insert hmem with he | hmem
  · cases he
    exact ht
  · exact h r v hmem

theorem TokenCache.Faithful.retain {cache : TokenCache} (h : cache.Faithful replies now)
    (keeps : GrantRequest → Bool) : (cache.retain keeps).Faithful replies now :=
  fun r v hmem => h r v (List.mem_of_mem_filter hmem)

end

namespace TokenService

/-- The answers to a service never change, and what it remembers agrees with them. -/
structure Faithful (s : TokenService σ τ) (metadata : Url → Except MetadataError IssuerMetadata)
    (replies : TokenRequest → Except RetrievalError EndpointAnswer) (now : Seconds)
    (st : ServiceState σ τ) : Prop where
  web : ∀ web, s.resolver = some web → web.Tells metadata st.web
  outside : s.endpoint.Steady replies st.outside
  endpoints : ∀ e ∈ st.endpoints, located e.1 (metadata e.1) = .ok e.2
  cached : ∀ g cache, st.caches.get? g = some cache → cache.Faithful replies now

section Faithful

variable {s : TokenService σ τ} {metadata : Url → Except MetadataError IssuerMetadata}
  {replies : TokenRequest → Except RetrievalError EndpointAnswer} {now : Seconds}
  {st st' : ServiceState σ τ} {c : ClientSettings} {q : GrantRequest} {a : ClientAuth} {site : CallSite}

theorem Faithful.withWeb (h : s.Faithful metadata replies now st) {w : σ} {endpoints : List (Url × Url)}
    (hweb : ∀ web, s.resolver = some web → web.Tells metadata w)
    (hendpoints : ∀ e ∈ endpoints, located e.1 (metadata e.1) = .ok e.2) :
    s.Faithful metadata replies now { st with web := w, endpoints } :=
  ⟨hweb, h.outside, hendpoints, h.cached⟩

theorem Faithful.discoverEndpoint (h : s.Faithful metadata replies now st) {web : Retriever σ}
    (hweb : s.resolver = some web) (document : Url) :
    (discoverEndpoint web document st).1 = located document (metadata document) ∧
      s.Faithful metadata replies now (discoverEndpoint web document st).2 := by
  unfold TokenService.discoverEndpoint
  cases hmemo : Table.get? document st.endpoints with
  | some endpoint => exact ⟨(h.endpoints _ (Table.mem_of_get? hmemo)).symm, h⟩
  | none =>
    have htold := (h.web web hweb).answer document
    have hasked : ∀ v, s.resolver = some v → v.Tells metadata (discover web document st.web).2 := by
      intro v hv
      cases hweb.symm.trans hv
      exact (h.web web hweb).next document
    rcases hd : discover web document st.web with ⟨e | m, w⟩
    · rw [hd] at htold hasked
      rw [← htold]
      exact ⟨rfl, h.withWeb hasked h.endpoints⟩
    · rw [hd] at htold hasked
      rw [← htold]
      dsimp only [located]
      cases hm : m.tokenEndpoint with
      | none => exact ⟨rfl, h.withWeb hasked h.endpoints⟩
      | some endpoint =>
        refine ⟨rfl, h.withWeb hasked ?_⟩
        have hnew : located document (metadata document) = .ok endpoint := by
          rw [← htold]
          dsimp only [located]
          rw [hm]
        intro e he
        split at he
        · rcases List.mem_append.1 he with he | he
          · exact h.endpoints e he
          · rw [List.mem_singleton.1 he]
            exact hnew
        · exact h.endpoints e he

theorem Faithful.endpointFor (h : s.Faithful metadata replies now st) (c : ClientSettings) :
    s.Faithful metadata replies now (s.endpointFor c st).2 := by
  unfold TokenService.endpointFor
  split
  · exact h
  · exact h
  · exact h
  · next hweb => exact (h.discoverEndpoint hweb _).2

theorem Faithful.endpointFor_eq (h : s.Faithful metadata replies now st)
    (h' : s.Faithful metadata replies now st') (c : ClientSettings) :
    (s.endpointFor c st).1 = (s.endpointFor c st').1 := by
  unfold TokenService.endpointFor
  split
  · rfl
  · rfl
  · rfl
  · next hweb => rw [(h.discoverEndpoint hweb _).1, (h'.discoverEndpoint hweb _).1]

theorem Faithful.prepare (h : s.Faithful metadata replies now st) (c : ClientSettings)
    (subject : Option String) : s.Faithful metadata replies now (s.prepare c subject st).2 := by
  have hendpoint := h.endpointFor c
  unfold TokenService.prepare
  split
  · exact h
  · split
    · exact h
    · split
      · next he => rwa [he] at hendpoint
      · next he => rwa [he] at hendpoint

theorem Faithful.prepare_eq (h : s.Faithful metadata replies now st)
    (h' : s.Faithful metadata replies now st') (c : ClientSettings) (subject : Option String) :
    (s.prepare c subject st).1 = (s.prepare c subject st').1 := by
  have hendpoint := h.endpointFor_eq h' c
  unfold TokenService.prepare
  split
  · rfl
  · split
    · rfl
    · rcases hx : s.endpointFor c st with ⟨x, _⟩
      rcases hy : s.endpointFor c st' with ⟨y, _⟩
      rw [hx, hy] at hendpoint
      obtain rfl : x = y := hendpoint
      cases x with
      | error e => rfl
      | ok url => rfl

theorem Faithful.withCache (h : s.Faithful metadata replies now st) {g : GrantType} {cache : TokenCache}
    {o : τ} (hcache : cache.Faithful replies now) (ho : s.endpoint.Steady replies o) :
    s.Faithful metadata replies now { st with caches := st.caches.set g cache, outside := o } := by
  refine ⟨h.web, ho, h.endpoints, ?_⟩
  intro g' cache' hg'
  rw [TokenCaches.get?_set] at hg'
  split at hg'
  · cases hg'
    exact hcache
  · exact h.cached g' cache' hg'

theorem Faithful.obtain (h : s.Faithful metadata replies now st) (hsite : site.now = now)
    (hq : q.credential = a.credential) (ha : a.method ≠ .privateKeyJwt) :
    (s.obtain q a site st).1 = received now (replies (q.tokenRequest a now site.nonce)) ∧
      s.Faithful metadata replies now (s.obtain q a site st).2 := by
  subst hsite
  have hreply : (s.reply q a site st.outside).1 = replies (q.tokenRequest a site.now site.nonce) :=
    h.outside.reply _
  have hnext : s.endpoint.Steady replies (s.reply q a site st.outside).2 := h.outside.next _
  have hposted : s.Faithful metadata replies site.now
      { st with outside := (s.reply q a site st.outside).2 } :=
    ⟨h.web, hnext, h.endpoints, h.cached⟩
  cases hcache : st.caches.get? q.grant.grantType with
  | none =>
    rw [obtain_uncached hcache, hreply]
    exact ⟨rfl, hposted⟩
  | some cache =>
    cases hhit : cache.get? site.instant q with
    | some t =>
      obtain ⟨v, hmem, rfl, -⟩ := TokenCache.mem_of_get? hhit
      rw [obtain_served hcache hhit]
      -- The entry is from an earlier call, and holds what would be received now.
      exact ⟨(h.cached _ cache hcache q v hmem a site.nonce hq ha).symm, h⟩
    | none =>
      cases hr : received site.now (s.reply q a site st.outside).1 with
      | error e =>
        rw [obtain_failed hcache hhit hr, ← hr, hreply]
        exact ⟨rfl, hposted⟩
      | ok t =>
        rw [obtain_kept hcache hhit hr, ← hr, hreply]
        rw [hreply] at hr
        refine ⟨rfl, h.withCache ((h.cached _ cache hcache).insert ?_) hnext⟩
        intro b nonce hb hbmethod
        rw [received_eq hb hq hbmethod nonce site.nonce, hr]

theorem secret_of_ofSettings (ha : ClientAuth.ofSettings c.authentication = .ok a)
    (hc : c.authentication.method ≠ .privateKeyJwt) : a.method ≠ .privateKeyJwt := by
  have hmethod : a.method = c.authentication.method := (ClientAuth.ofSettings_suits ha).method
  rw [hmethod]
  exact hc

theorem Faithful.accessToken (h : s.Faithful metadata replies now st) (hsite : site.now = now)
    (hc : c.authentication.method ≠ .privateKeyJwt) :
    s.Faithful metadata replies now (s.accessToken c site st).2 := by
  have hprepared := h.prepare c site.subject
  rw [accessToken_eq]
  rcases hp : s.prepare c site.subject st with ⟨e | ⟨q, a⟩, st₁⟩
  · rw [hp] at hprepared
    exact hprepared
  · rw [hp] at hprepared
    obtain ⟨-, hauth, hq, -⟩ := prepare_eq_ok hp
    exact (hprepared.obtain hsite hq (secret_of_ofSettings hauth hc)).2

theorem Faithful.accessToken_eq {site' : CallSite} (h : s.Faithful metadata replies now st)
    (h' : s.Faithful metadata replies now st') (hsite : site.now = now) (hsite' : site'.now = now)
    (hsubject : site.subject = site'.subject) (hc : c.authentication.method ≠ .privateKeyJwt) :
    (s.accessToken c site st).1 = (s.accessToken c site' st').1 := by
  have hsame := h.prepare_eq h' c site.subject
  have hfirst := h.prepare c site.subject
  have hsecond := h'.prepare c site'.subject
  rw [TokenService.accessToken_eq, TokenService.accessToken_eq]
  rw [← hsubject] at hsecond ⊢
  rcases hp : s.prepare c site.subject st with ⟨x, st₁⟩
  rcases hp' : s.prepare c site.subject st' with ⟨y, st₂⟩
  rw [hp] at hfirst hsame
  rw [hp'] at hsecond hsame
  obtain rfl : x = y := hsame
  cases x with
  | error e => rfl
  | ok p =>
    obtain ⟨q, a⟩ := p
    obtain ⟨-, hauth, hq, -⟩ := prepare_eq_ok hp
    have hsecret := secret_of_ofSettings hauth hc
    dsimp only
    rw [(hfirst.obtain hsite hq hsecret).1, (hsecond.obtain hsite' hq hsecret).1]
    exact received_eq hq hq hsecret _ _

theorem Faithful.forget (h : s.Faithful metadata replies now st) (keeps : GrantRequest → Bool)
    (knows : Url → Bool) : s.Faithful metadata replies now (s.apply st (.forget keeps knows)) := by
  refine ⟨h.web, h.outside, fun e he => h.endpoints e (List.mem_of_mem_filter he), ?_⟩
  intro g cache hg
  obtain ⟨cache', hg', rfl⟩ := Option.map_eq_some_iff.1 ((TokenCaches.get?_retain _ _ _).symm.trans hg)
  exact (h.cached g cache' hg').retain keeps

end Faithful

def outcome (s : TokenService σ τ) (now : Seconds) (st : ServiceState σ τ)
    (asked : ClientSettings × Option String) : Except ClientError IssuedToken :=
  (s.accessToken asked.1 { subject := asked.2, now, nonce := [] } st).1

end TokenService

def TokenMove.asks? : TokenMove → Option (ClientSettings × Option String)
  | call c site => some (c, site.subject)
  | forget _ _ => none

def TokenMove.IsSecretAt (now : Seconds) : TokenMove → Prop
  | call c site => site.now = now ∧ c.authentication.method ≠ .privateKeyJwt
  | forget _ _ => True

namespace TokenService

variable {s : TokenService σ τ} {metadata : Url → Except MetadataError IssuerMetadata}
  {replies : TokenRequest → Except RetrievalError EndpointAnswer} {now : Seconds}

theorem Faithful.apply {st : ServiceState σ τ} (h : s.Faithful metadata replies now st) {m : TokenMove}
    (hm : m.IsSecretAt now) : s.Faithful metadata replies now (s.apply st m) := by
  cases m with
  | call c site => exact h.accessToken hm.1 hm.2
  | forget keeps knows => exact h.forget keeps knows

/-- A call of a run comes to what it would come to in any other state that agrees with the answers. -/
theorem results_eq {st first : ServiceState σ τ} (h : s.Faithful metadata replies now st)
    (hfirst : s.Faithful metadata replies now first) {ms : List TokenMove}
    (hms : ∀ m ∈ ms, m.IsSecretAt now) :
    (s.calls st ms).map TokenCall.result = (ms.filterMap TokenMove.asks?).map (s.outcome now first) := by
  -- `first` stays while `st` moves on, so every call is compared with one in the same state.
  induction ms generalizing st with
  | nil => rfl
  | cons m ms ih =>
    obtain ⟨hm, hms⟩ := List.forall_mem_cons.1 hms
    rw [calls, List.map_append, ih (h.apply hm) hms]
    cases m with
    | call c site =>
      have hresult : (s.accessToken c site st).1 = s.outcome now first (c, site.subject) :=
        h.accessToken_eq hfirst hm.1 rfl rfl hm.2
      change (s.accessToken c site st).1 :: _ = s.outcome now first (c, site.subject) :: _
      rw [hresult]
      rfl
    | forget keeps knows => rfl

structure Steady (s : TokenService σ τ) (metadata : Url → Except MetadataError IssuerMetadata)
    (replies : TokenRequest → Except RetrievalError EndpointAnswer) (web : σ) (outside : τ) : Prop where
  web : ∀ resolver, s.resolver = some resolver → resolver.Tells metadata web
  outside : s.endpoint.Steady replies outside

theorem Steady.start {web : σ} {outside : τ} (h : s.Steady metadata replies web outside)
    (choice : GrantType → Option TokenCacheSettings) (now : Seconds) :
    s.Faithful metadata replies now (start choice web outside) := by
  refine ⟨h.web, h.outside, List.forall_mem_nil _, ?_⟩
  intro g cache hg
  rw [get?_start] at hg
  obtain ⟨settings, -, rfl⟩ := Option.map_eq_some_iff.1 hg
  exact fun q v hmem => absurd hmem List.not_mem_nil

/-- Whatever caches a service has and whatever they lose, the same calls have the same results, one by
one, as with a service that has none. -/
theorem caches_invisible {web web' : σ} {outside outside' : τ}
    (hs : s.Steady metadata replies web outside) (hs' : s.Steady metadata replies web' outside')
    (choice : GrantType → Option TokenCacheSettings) (now : Seconds) {ms ms' : List TokenMove}
    (hms : ∀ m ∈ ms, m.IsSecretAt now) (hms' : ∀ m ∈ ms', m.IsSecretAt now)
    (hsame : ms.filterMap TokenMove.asks? = ms'.filterMap TokenMove.asks?) :
    (s.calls (start choice web outside) ms).map TokenCall.result =
      (s.calls (start (fun _ => none) web' outside') ms').map TokenCall.result := by
  have hplain := hs'.start (fun _ => none) now
  rw [results_eq (hs.start choice now) hplain hms, results_eq hplain hplain hms', hsame]

end TokenService

namespace Sample

open TokenService

theorem caches_invisible_twice :
    TokenMove.IsSecretAt 0 (.call machine alone) ∧
    (generous.record machine alone afterOne).posts = [] ∧
    (generous.calls (start ownCache () ()) [.call machine alone, .call machine alone]).map
        TokenCall.result =
      (generous.calls (start (fun _ => none) () ())
        [.call machine alone, .forget (fun _ => false) (fun _ => false),
          .call machine { alone with nonce := [1] }]).map TokenCall.result := by
  have hsteady : generous.Steady (fun _ => .error .malformed) (fun q => (generous.endpoint.post q ()).1)
      () () :=
    ⟨nofun, fun _ _ => rfl⟩
  have hcall (nonce : Bytes) :
      TokenMove.IsSecretAt 0 (.call machine { alone with nonce := nonce }) :=
    ⟨rfl, by decide⟩
  refine ⟨hcall [], second_call.1, caches_invisible hsteady hsteady ownCache 0 ?_ ?_ rfl⟩
  · exact List.forall_mem_cons.2 ⟨hcall [], List.forall_mem_singleton.2 (hcall [])⟩
  · exact List.forall_mem_cons.2 ⟨hcall [], List.forall_mem_cons.2
      ⟨trivial, List.forall_mem_singleton.2 (hcall [1])⟩⟩

end Sample
end BearerTrust

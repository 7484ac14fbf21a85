import BearerTrust.Proofs.EndpointSearch

namespace BearerTrust

variable {σ τ : Type}

inductive GrantDefect (c : ClientSettings) (subject : Option String) : ClientError → Prop
  | noCaller (h : c.grantType = .jwtBearer) (hs : subject = none) :
      GrantDefect c subject .noAuthenticatedToken
  | noExchange (h : c.grantType = .tokenExchange) (hx : c.tokenExchange = none) :
      GrantDefect c subject (.configuration (.noExchangeParameters c.authentication.clientId))
  | noSubject (h : c.grantType = .tokenExchange) (hx : c.tokenExchange ≠ none) (hs : subject = none) :
      GrantDefect c subject .missingSubjectToken

inductive CredentialDefect (s : AuthSettings) : ClientError → Prop
  | noSecret (h : s.method ≠ .privateKeyJwt) (hs : s.secret = none) :
      CredentialDefect s (.configuration (.noSecret s.clientId))
  | noKey (h : s.method = .privateKeyJwt) (hk : s.key = none) :
      CredentialDefect s (.configuration (.noSigningKey s.clientId))
  | unreadableKey (k : ClientKeySettings) (h : s.method = .privateKeyJwt) (hk : s.key = some k)
      (hpem : Pem.privateKey? k.pem = none) : CredentialDefect s .clientAssertion

/-- Why the endpoint of a client cannot be determined in a given state. -/
inductive EndpointDefect (s : TokenService σ τ) (c : ClientSettings) (st : ServiceState σ τ) :
    ClientError → Prop
  | nowhere (h : c.tokenEndpointUrl = none) (hw : c.wellKnownUrl = none) :
      EndpointDefect s c st (.configuration (.noEndpoint c.authentication.clientId))
  | noResolver (document : Url) (h : c.tokenEndpointUrl = none) (hw : c.wellKnownUrl = some document)
      (hr : s.resolver = none) : EndpointDefect s c st (.configuration .noResolver)
  | undiscovered (document : Url) (web : Retriever σ) (e : ClientError) (h : c.tokenEndpointUrl = none)
      (hw : c.wellKnownUrl = some document) (hr : s.resolver = some web)
      (hk : Table.get? document st.endpoints = none)
      (ha : endpointIn document (web.retrieve document st.web).1 = .error e) : EndpointDefect s c st e

namespace TokenService

variable {s : TokenService σ τ} {c : ClientSettings} {subject : Option String} {site : CallSite}
  {st : ServiceState σ τ} {e : ClientError}

theorem grantFor_eq_error_iff : grantFor c subject = .error e ↔ GrantDefect c subject e := by
  constructor
  · intro h
    unfold grantFor at h
    split at h
    · cases h
    · next hg =>
      split at h
      · cases h
      · cases h
        exact .noCaller hg rfl
    · next hg =>
      split at h
      · next hx =>
        cases h
        exact .noExchange hg hx
      · next exchange hx =>
        cases h
        exact .noSubject hg (by simp [hx]) rfl
      · cases h
  · rintro (⟨hg, rfl⟩ | ⟨hg, hx⟩ | ⟨hg, hx, rfl⟩)
    · simp [grantFor, hg]
    · simp [grantFor, hg, hx]
    · obtain ⟨exchange, hx⟩ := Option.ne_none_iff_exists'.1 hx
      simp [grantFor, hg, hx]

theorem ofSettings_eq_error_iff {a : AuthSettings} :
    ClientAuth.ofSettings a = .error e ↔ CredentialDefect a e := by
  constructor
  · intro h
    unfold ClientAuth.ofSettings at h
    split at h
    · cases h
    · cases h
    · next hm hs =>
      cases h
      exact .noSecret (by simp [hm]) hs
    · next hm hs =>
      cases h
      exact .noSecret (by simp [hm]) hs
    · next hm hk =>
      cases h
      exact .noKey hm hk
    · next k hm hk =>
      split at h
      · cases h
      · next hpem =>
        cases h
        exact .unreadableKey k hm hk hpem
  · rintro (⟨hm, hs⟩ | ⟨hm, hk⟩ | ⟨k, hm, hk, hpem⟩)
    · cases hmethod : a.method with
      | secretBasic | secretPost => simp [ClientAuth.ofSettings, hmethod, hs]
      | privateKeyJwt => exact absurd hmethod hm
    · simp [ClientAuth.ofSettings, hm, hk]
    · simp [ClientAuth.ofSettings, hm, hk, hpem]

theorem endpointFor_eq_error_iff : (s.endpointFor c st).1 = .error e ↔ EndpointDefect s c st e := by
  constructor
  · intro h
    unfold endpointFor at h
    split at h
    · cases h
    · next hurl hw =>
      cases h
      exact .nowhere hurl hw
    · next document hurl hw hr =>
      cases h
      exact .noResolver document hurl hw hr
    · next document web hurl hw hr =>
      cases hk : Table.get? document st.endpoints with
      | some endpoint =>
        rw [discoverEndpoint_known hk] at h
        cases h
      | none =>
        rw [discoverEndpoint_unknown hk] at h
        exact .undiscovered document web e hurl hw hr hk h
  · rintro (⟨hurl, hw⟩ | ⟨document, hurl, hw, hr⟩ | ⟨document, web, e, hurl, hw, hr, hk, ha⟩)
    · simp only [endpointFor, hurl, hw]
    · simp only [endpointFor, hurl, hw, hr]
    · simp only [endpointFor, hurl, hw, hr, discoverEndpoint_unknown hk, ha]

theorem exists_grant (h : ∀ e, ¬GrantDefect c subject e) : ∃ grant, grantFor c subject = .ok grant := by
  cases hgrant : grantFor c subject with
  | error e => exact absurd (grantFor_eq_error_iff.1 hgrant) (h e)
  | ok grant => exact ⟨grant, rfl⟩

theorem exists_auth {a : AuthSettings} (h : ∀ e, ¬CredentialDefect a e) :
    ∃ auth, ClientAuth.ofSettings a = .ok auth := by
  cases hauth : ClientAuth.ofSettings a with
  | error e => exact absurd (ofSettings_eq_error_iff.1 hauth) (h e)
  | ok auth => exact ⟨auth, rfl⟩

theorem prepare_eq_error_iff : (∃ e, (s.prepare c subject st).1 = .error e) ↔
    ∃ e, GrantDefect c subject e ∨ CredentialDefect c.authentication e ∨ EndpointDefect s c st e := by
  simp only [← grantFor_eq_error_iff, ← ofSettings_eq_error_iff, ← endpointFor_eq_error_iff]
  cases hgrant : grantFor c subject with
  | error e => simp [prepare_ungranted hgrant]
  | ok grant =>
    cases hauth : ClientAuth.ofSettings c.authentication with
    | error e => simp [prepare_unauthenticated hgrant hauth]
    | ok a => simp [prepare_located hgrant hauth, map_eq_error_iff]

theorem accessToken_of_prepare (h : (s.prepare c site.subject st).1 = .error e) :
    s.accessToken c site st = (.error e, (s.prepare c site.subject st).2) := by
  rw [accessToken_eq]
  rcases hprepare : s.prepare c site.subject st with ⟨r, st'⟩
  rw [hprepare] at h
  cases h
  rfl

theorem posts_of_prepare (h : (s.prepare c site.subject st).1 = .error e) :
    (s.record c site st).posts = [] := by
  rw [List.eq_nil_iff_forall_not_mem]
  intro p hp
  obtain ⟨q, a, st', hprepare, -⟩ := posts_record s hp
  rw [hprepare] at h
  cases h

theorem url_of_posts {p : TokenRequest × Except RetrievalError EndpointAnswer}
    (hp : p ∈ (s.record c site st).posts) : ∃ q a, (s.prepare c site.subject st).1 = .ok (q, a) ∧
      p.1.url = q.tokenUrl := by
  obtain ⟨q, a, st', hprepare, hrequest⟩ := posts_record s hp
  refine ⟨q, a, congrArg Prod.fst hprepare, ?_⟩
  rw [hrequest]
  rfl

theorem request?_eq_some {q : GrantRequest} (h : (s.record c site st).request? = some q) :
    ∃ a, (s.prepare c site.subject st).1 = .ok (q, a) := by
  change (s.prepare c site.subject st).1.toOption.map Prod.fst = some q at h
  cases hprepare : (s.prepare c site.subject st).1 with
  | error e =>
    rw [hprepare] at h
    cases h
  | ok p =>
    rw [hprepare] at h
    cases h
    exact ⟨p.2, rfl⟩

theorem request?_eq_none_iff :
    (s.record c site st).request? = none ↔ ∃ e, (s.prepare c site.subject st).1 = .error e := by
  change (s.prepare c site.subject st).1.toOption.map Prod.fst = none ↔ _
  cases (s.prepare c site.subject st).1 with
  | error e => simp [Except.toOption]
  | ok p => simp [Except.toOption]

theorem Goes.caches_of_error {k : TokenCall} {caches caches' : TokenCaches}
    (hk : Goes c site caches k caches') (h : k.result = .error e) : caches' = caches := by
  cases hk with
  | refused | posted | failed => rfl
  | served | kept => cases h

/-- A call fails before anything is retrieved or sent, and everything stays as it was. -/
structure Untouched (s : TokenService σ τ) (c : ClientSettings) (site : CallSite)
    (st : ServiceState σ τ) (e : ClientError) : Prop where
  fails : s.accessToken c site st = (.error e, st)
  retrievals : s.retrievals c site st = []
  posts : (s.record c site st).posts = []

theorem untouched_of_grant (h : GrantDefect c site.subject e) : s.Untouched c site st e := by
  have hgrant := grantFor_eq_error_iff.2 h
  exact ⟨accessToken_refused hgrant, retrievals_refused hgrant, posts_refused hgrant⟩

theorem untouched_of_credentials (hgrant : ∀ e, ¬GrantDefect c site.subject e)
    (h : CredentialDefect c.authentication e) : s.Untouched c site st e := by
  obtain ⟨grant, hgrant⟩ := exists_grant hgrant
  have hauth := ofSettings_eq_error_iff.2 h
  have hprepare : s.prepare c site.subject st = (.error e, st) := prepare_unauthenticated hgrant hauth
  refine ⟨?_, (s.prepares c site st).unauthenticated_eq hauth, posts_of_prepare (congrArg Prod.fst hprepare)⟩
  rw [accessToken_of_prepare (congrArg Prod.fst hprepare), hprepare]

/-- What is true of a call of a client, in whatever state the service is. -/
structure Checked (s : TokenService σ τ) (c : ClientSettings) (site : CallSite)
    (st : ServiceState σ τ) : Prop where
  grant : ∀ e, GrantDefect c site.subject e → s.Untouched c site st e
  credentials : ∀ e, (∀ e', ¬GrantDefect c site.subject e') → CredentialDefect c.authentication e →
    s.Untouched c site st e
  endpoint : ∀ e, (∀ e', ¬GrantDefect c site.subject e') →
    (∀ e', ¬CredentialDefect c.authentication e') → EndpointDefect s c st e →
      (s.accessToken c site st).1 = .error e ∧ (s.record c site st).posts = []
  requests : (s.record c site st).request? = none ↔
    ∃ e, GrantDefect c site.subject e ∨ CredentialDefect c.authentication e ∨ EndpointDefect s c st e
  configured : ∀ url, c.tokenEndpointUrl = some url → s.retrievals c site st = [] ∧
    (∀ q, (s.record c site st).request? = some q → q.tokenUrl = url) ∧
      ∀ p ∈ (s.record c site st).posts, p.1.url = url
  failed : ∀ e st', s.accessToken c site st = (.error e, st') → st'.caches = st.caches ∧
    (st'.endpoints = st.endpoints ∨ ∃ document answer endpoint,
      s.retrievals c site st = [(document, answer)] ∧ endpointIn document answer = .ok endpoint ∧
        st'.endpoints = st.endpoints ++ [(document, endpoint)])

/-- The grant comes before the credentials, and both before anything that others could notice. -/
theorem accessToken_checked (s : TokenService σ τ) (c : ClientSettings) (site : CallSite)
    (st : ServiceState σ τ) : s.Checked c site st where
  grant _ h := untouched_of_grant h
  credentials _ hgrant h := untouched_of_credentials hgrant h
  endpoint e hgrant hauth h := by
    obtain ⟨grant, hgrant⟩ := exists_grant hgrant
    obtain ⟨a, hauth⟩ := exists_auth hauth
    have hprepare : (s.prepare c site.subject st).1 = .error e := by
      rw [prepare_located hgrant hauth, endpointFor_eq_error_iff.2 h]
      rfl
    exact ⟨congrArg Prod.fst (accessToken_of_prepare hprepare), posts_of_prepare hprepare⟩
  requests := by rw [request?_eq_none_iff, prepare_eq_error_iff]
  configured url hurl := by
    obtain ⟨hes, hrequest⟩ := (s.prepares c site st).configured_eq hurl
    refine ⟨hes, fun q hq => ?_, fun p hp => ?_⟩
    · obtain ⟨a, hprepare⟩ := request?_eq_some hq
      exact hrequest q a hprepare
    · obtain ⟨q, a, hprepare, hsame⟩ := url_of_posts hp
      rw [hsame, hrequest q a hprepare]
  failed e st' h := by
    have hresult : (s.record c site st).result = .error e := congrArg Prod.fst h
    have hcaches := (s.goes_accessToken c site st).caches_of_error hresult
    have hknown := (s.prepares c site st).known_eq
    rw [h] at hcaches hknown
    exact ⟨hcaches, hknown⟩

end TokenService

namespace Sample

open TokenService

def unfinished : ClientSettings where
  grantType := .tokenExchange
  authentication := { clientId := "id" }

def withoutSecret : ClientSettings := { unfinished with grantType := .clientCredentials }

def withoutEndpoint : ClientSettings := { withoutSecret with authentication := .basic "id" "secret" }

theorem no_grantDefect {c : ClientSettings} (h : c.grantType = .clientCredentials)
    (subject : Option String) (e : ClientError) : ¬GrantDefect c subject e := by
  rintro (⟨hg, -⟩ | ⟨hg, -⟩ | ⟨hg, -, -⟩)
  · cases h.symm.trans hg
  · cases h.symm.trans hg
  · cases h.symm.trans hg

theorem basic_no_credentialDefect (e : ClientError) : ¬CredentialDefect (.basic "id" "secret") e := by
  rintro (⟨-, hs⟩ | ⟨hm, -⟩ | ⟨-, hm, -, -⟩)
  · cases hs
  · cases hm
  · cases hm

theorem accessToken_checked_unfinished :
    (GrantDefect unfinished none (.configuration (.noExchangeParameters "id")) ∧
      CredentialDefect unfinished.authentication (.configuration (.noSecret "id")) ∧
      EndpointDefect generous unfinished fresh (.configuration (.noEndpoint "id"))) ∧
    generous.Untouched unfinished alone fresh (.configuration (.noExchangeParameters "id")) ∧
    generous.Untouched withoutSecret alone fresh (.configuration (.noSecret "id")) ∧
    ((generous.accessToken withoutEndpoint alone fresh).1 = .error (.configuration (.noEndpoint "id")) ∧
      (generous.record withoutEndpoint alone fresh).posts = []) ∧
    generous.retrievals machine alone fresh = [] ∧
    (generous.accessToken withoutEndpoint alone fresh).2.caches = fresh.caches := by
  have hgrant : GrantDefect unfinished none (.configuration (.noExchangeParameters "id")) :=
    .noExchange rfl rfl
  have hsecret : CredentialDefect unfinished.authentication (.configuration (.noSecret "id")) :=
    .noSecret nofun rfl
  have hendpoint (c : ClientSettings) (hurl : c.tokenEndpointUrl = none) (hw : c.wellKnownUrl = none)
      (hid : c.authentication.clientId = "id") :
      EndpointDefect generous c fresh (.configuration (.noEndpoint "id")) := by
    rw [← hid]
    exact .nowhere hurl hw
  have hlast := (accessToken_checked generous withoutEndpoint alone fresh).endpoint _
    (no_grantDefect rfl none) basic_no_credentialDefect (hendpoint _ rfl rfl rfl)
  refine ⟨⟨hgrant, hsecret, hendpoint _ rfl rfl rfl⟩, ?_, ?_, hlast, ?_, ?_⟩
  · exact (accessToken_checked generous unfinished alone fresh).grant _ hgrant
  · exact (accessToken_checked generous withoutSecret alone fresh).credentials _ (no_grantDefect rfl none)
      hsecret
  · exact ((accessToken_checked generous machine alone fresh).configured tokenUrl rfl).1
  · exact ((accessToken_checked generous withoutEndpoint alone fresh).failed _ _
      (Prod.ext hlast.1 rfl)).1

end Sample
end BearerTrust

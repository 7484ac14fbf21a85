import BearerTrust.Proofs.Delegation

namespace BearerTrust

variable {σ τ : Type}

/-- The token endpoint that an answer names, for clients that go by the document. -/
def endpointIn (document : Url) : Except RetrievalError Bytes → Except ClientError Url
  | .error e => .error (.metadata (.retrieval e))
  | .ok body =>
    match IssuerMetadata.parse? body with
    | none => .error (.metadata .malformed)
    | some m =>
      match m.tokenEndpoint with
      | none => .error (.configuration (.noTokenEndpoint document))
      | some endpoint => .ok endpoint

/-- The endpoints that are known once a document has been looked at. -/
def learned (document : Url) (known : List (Url × Url)) : Except ClientError Url → List (Url × Url)
  | .error _ => known
  | .ok endpoint => if known.length < maxEndpoints then known ++ [(document, endpoint)] else known

/-- The ways to look for a client's endpoint, where `resolves` says whether documents can be retrieved
and `known` which endpoints are known: what is retrieved, what comes of it, and what is known after it. -/
inductive Finds (resolves : Bool) (c : ClientSettings) (known : List (Url × Url)) :
    Exchanges → Except ClientError Url → List (Url × Url) → Prop
  | configured (url : Url) (h : c.tokenEndpointUrl = some url) : Finds resolves c known [] (.ok url) known
  | nowhere (h : c.tokenEndpointUrl = none) (hw : c.wellKnownUrl = none) :
      Finds resolves c known [] (.error (.configuration (.noEndpoint c.authentication.clientId))) known
  | noResolver (document : Url) (h : c.tokenEndpointUrl = none) (hw : c.wellKnownUrl = some document)
      (hr : resolves = false) : Finds resolves c known [] (.error (.configuration .noResolver)) known
  | known (document endpoint : Url) (h : c.tokenEndpointUrl = none) (hw : c.wellKnownUrl = some document)
      (hr : resolves = true) (hk : Table.get? document known = some endpoint) :
      Finds resolves c known [] (.ok endpoint) known
  | asked (document : Url) (answer : Except RetrievalError Bytes) (h : c.tokenEndpointUrl = none)
      (hw : c.wellKnownUrl = some document) (hr : resolves = true)
      (hk : Table.get? document known = none) :
      Finds resolves c known [(document, answer)] (endpointIn document answer)
        (learned document known (endpointIn document answer))

/-- The ways of a call up to its request. -/
inductive Prepares (resolves : Bool) (c : ClientSettings) (subject : Option String)
    (known : List (Url × Url)) :
    Exchanges → Except ClientError (GrantRequest × ClientAuth) → List (Url × Url) → Prop
  | ungranted (e : ClientError) (h : TokenService.grantFor c subject = .error e) :
      Prepares resolves c subject known [] (.error e) known
  | unauthenticated (grant : Grant) (e : ClientError)
      (hgrant : TokenService.grantFor c subject = .ok grant)
      (h : ClientAuth.ofSettings c.authentication = .error e) :
      Prepares resolves c subject known [] (.error e) known
  | unlocated (grant : Grant) (a : ClientAuth) (es : Exchanges) (e : ClientError)
      (known' : List (Url × Url)) (hgrant : TokenService.grantFor c subject = .ok grant)
      (hauth : ClientAuth.ofSettings c.authentication = .ok a)
      (h : Finds resolves c known es (.error e) known') :
      Prepares resolves c subject known es (.error e) known'
  | ready (grant : Grant) (a : ClientAuth) (es : Exchanges) (url : Url) (known' : List (Url × Url))
      (hgrant : TokenService.grantFor c subject = .ok grant)
      (hauth : ClientAuth.ofSettings c.authentication = .ok a)
      (h : Finds resolves c known es (.ok url) known') :
      Prepares resolves c subject known es (.ok (⟨url, a.credential, c.scope, grant⟩, a)) known'

def ServiceState.noting (st : ServiceState σ τ) : ServiceState (σ × Exchanges) τ :=
  ⟨st.caches, st.endpoints, (st.web, []), st.outside⟩

namespace TokenService

variable {s : TokenService σ τ} {c : ClientSettings} {site : CallSite} {st : ServiceState σ τ}

theorem discoverEndpoint_known {web : Retriever σ} {document endpoint : Url}
    (h : Table.get? document st.endpoints = some endpoint) :
    discoverEndpoint web document st = (.ok endpoint, st) := by
  rw [discoverEndpoint, h]

theorem discoverEndpoint_unknown {web : Retriever σ} {document : Url}
    (h : Table.get? document st.endpoints = none) :
    discoverEndpoint web document st =
      (endpointIn document (web.retrieve document st.web).1,
        { st with
          web := (web.retrieve document st.web).2
          endpoints := learned document st.endpoints
            (endpointIn document (web.retrieve document st.web).1) }) := by
  rw [discoverEndpoint, h]
  dsimp only
  rw [discover]
  rcases web.retrieve document st.web with ⟨e | body, w⟩
  · rfl
  · dsimp only [endpointIn]
    cases IssuerMetadata.parse? body with
    | none => rfl
    | some m =>
      dsimp only
      cases m.tokenEndpoint with
      | none => rfl
      | some endpoint => rfl

theorem finds_endpointFor (s : TokenService σ τ) (c : ClientSettings) (st : ServiceState σ τ) :
    Finds s.resolver.isSome c st.endpoints (s.webRecording.endpointFor c st.noting).2.web.2
      (s.endpointFor c st).1 (s.endpointFor c st).2.endpoints := by
  unfold endpointFor webRecording
  cases hurl : c.tokenEndpointUrl with
  | some url => exact .configured url hurl
  | none =>
    cases hw : c.wellKnownUrl with
    | none => exact .nowhere hurl hw
    | some document =>
      cases hr : s.resolver with
      | none => exact .noResolver document hurl hw rfl
      | some web =>
        dsimp only [Option.map_some]
        cases hk : Table.get? document st.endpoints with
        | some endpoint =>
          -- The recording service knows the same endpoints.
          have hk' : Table.get? document st.noting.endpoints = some endpoint := hk
          rw [discoverEndpoint_known hk, discoverEndpoint_known hk']
          exact .known document endpoint hurl hw rfl hk
        | none =>
          have hk' : Table.get? document st.noting.endpoints = none := hk
          rw [discoverEndpoint_unknown hk, discoverEndpoint_unknown hk']
          exact .asked document _ hurl hw rfl hk

theorem obtain_search (s : TokenService σ τ) (q : GrantRequest) (a : ClientAuth) (site : CallSite)
    (st : ServiceState σ τ) :
    (s.obtain q a site st).2.web = st.web ∧ (s.obtain q a site st).2.endpoints = st.endpoints := by
  unfold obtain
  split
  · exact ⟨rfl, rfl⟩
  · exact ⟨rfl, rfl⟩

theorem accessToken_search (s : TokenService σ τ) (c : ClientSettings) (site : CallSite)
    (st : ServiceState σ τ) :
    (s.accessToken c site st).2.web = (s.prepare c site.subject st).2.web ∧
      (s.accessToken c site st).2.endpoints = (s.prepare c site.subject st).2.endpoints := by
  rw [accessToken_eq]
  rcases s.prepare c site.subject st with ⟨e | ⟨q, a⟩, st'⟩
  · exact ⟨rfl, rfl⟩
  · exact s.obtain_search q a site st'

theorem prepare_ungranted {subject : Option String} {e : ClientError}
    (h : grantFor c subject = .error e) : s.prepare c subject st = (.error e, st) := by
  rw [prepare, h]

theorem prepare_unauthenticated {subject : Option String} {grant : Grant} {e : ClientError}
    (hgrant : grantFor c subject = .ok grant) (h : ClientAuth.ofSettings c.authentication = .error e) :
    s.prepare c subject st = (.error e, st) := by
  rw [prepare, hgrant, h]

theorem prepare_located {subject : Option String} {grant : Grant} {a : ClientAuth}
    (hgrant : grantFor c subject = .ok grant) (hauth : ClientAuth.ofSettings c.authentication = .ok a) :
    s.prepare c subject st = ((s.endpointFor c st).1.map fun url => (⟨url, a.credential, c.scope, grant⟩, a),
      (s.endpointFor c st).2) := by
  rw [prepare, hgrant, hauth]
  dsimp only
  rcases s.endpointFor c st with ⟨e | url, st'⟩
  · rfl
  · rfl

theorem prepares (s : TokenService σ τ) (c : ClientSettings) (site : CallSite) (st : ServiceState σ τ) :
    Prepares s.resolver.isSome c site.subject st.endpoints (s.retrievals c site st)
      (s.prepare c site.subject st).1 (s.accessToken c site st).2.endpoints := by
  have hretrievals : s.retrievals c site st = (s.webRecording.prepare c site.subject st.noting).2.web.2 :=
    congrArg Prod.snd (s.webRecording.accessToken_search c site st.noting).1
  rw [(s.accessToken_search c site st).2, hretrievals]
  cases hgrant : grantFor c site.subject with
  | error e =>
    rw [prepare_ungranted hgrant, prepare_ungranted hgrant]
    exact .ungranted e hgrant
  | ok grant =>
    cases hauth : ClientAuth.ofSettings c.authentication with
    | error e =>
      rw [prepare_unauthenticated hgrant hauth, prepare_unauthenticated hgrant hauth]
      exact .unauthenticated grant e hgrant hauth
    | ok a =>
      have hfinds := s.finds_endpointFor c st
      rw [prepare_located hgrant hauth, prepare_located hgrant hauth]
      dsimp only
      cases hfound : (s.endpointFor c st).1 with
      | error e =>
        rw [hfound] at hfinds
        exact .unlocated grant a _ e _ hgrant hauth hfinds
      | ok url =>
        rw [hfound] at hfinds
        exact .ready grant a _ url _ hgrant hauth hfinds

end TokenService

section

variable {resolves : Bool} {c : ClientSettings} {subject : Option String} {known known' : List (Url × Url)}
  {es : Exchanges} {r : Except ClientError (GrantRequest × ClientAuth)}

theorem Finds.known_eq {found : Except ClientError Url} (h : Finds resolves c known es found known') :
    known' = known ∨ ∃ document answer endpoint, es = [(document, answer)] ∧
      endpointIn document answer = .ok endpoint ∧ known' = known ++ [(document, endpoint)] := by
  cases h with
  | configured | nowhere | noResolver | known => exact .inl rfl
  | asked document answer =>
    cases hanswer : endpointIn document answer with
    | error e => exact .inl rfl
    | ok endpoint =>
      rw [learned]
      split
      · exact .inr ⟨document, answer, endpoint, rfl, hanswer, rfl⟩
      · exact .inl rfl

theorem Prepares.known_eq (h : Prepares resolves c subject known es r known') :
    known' = known ∨ ∃ document answer endpoint, es = [(document, answer)] ∧
      endpointIn document answer = .ok endpoint ∧ known' = known ++ [(document, endpoint)] := by
  cases h with
  | ungranted | unauthenticated => exact .inl rfl
  | unlocated _ _ _ _ _ _ _ hfinds | ready _ _ _ _ _ _ _ hfinds => exact hfinds.known_eq

theorem Prepares.unauthenticated_eq {e : ClientError} (h : Prepares resolves c subject known es r known')
    (he : ClientAuth.ofSettings c.authentication = .error e) : es = [] := by
  cases h with
  | ungranted | unauthenticated => rfl
  | unlocated _ _ _ _ _ _ hauth | ready _ _ _ _ _ _ hauth =>
    rw [he] at hauth
    cases hauth

theorem Finds.configured_eq {url : Url} {found : Except ClientError Url}
    (h : Finds resolves c known es found known') (hurl : c.tokenEndpointUrl = some url) :
    es = [] ∧ found = .ok url := by
  cases h with
  | configured url' hurl' =>
    cases hurl.symm.trans hurl'
    exact ⟨rfl, rfl⟩
  | nowhere hnone | noResolver _ hnone | known _ _ hnone | asked _ _ hnone =>
    rw [hurl] at hnone
    cases hnone

theorem Prepares.configured_eq {url : Url} (h : Prepares resolves c subject known es r known')
    (hurl : c.tokenEndpointUrl = some url) : es = [] ∧ ∀ q a, r = .ok (q, a) → q.tokenUrl = url := by
  cases h with
  | ungranted | unauthenticated => exact ⟨rfl, fun _ _ h => nomatch h⟩
  | unlocated _ _ _ _ _ _ _ hfinds => exact ⟨(hfinds.configured_eq hurl).1, fun _ _ h => nomatch h⟩
  | ready _ _ _ _ _ _ _ hfinds =>
    obtain ⟨hes, hfound⟩ := hfinds.configured_eq hurl
    cases hfound
    refine ⟨hes, ?_⟩
    rintro q a ⟨⟩
    rfl

end
end BearerTrust

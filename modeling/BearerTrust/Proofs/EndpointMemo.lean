import Mathlib.Data.List.Dedup
import BearerTrust.Proofs.CallDefects

namespace BearerTrust

variable {σ τ : Type}

/-- The endpoint in the first answer of a document that names one. -/
def Exchanges.firstEndpoint? (es : Exchanges) (document : Url) : Option Url :=
  es.findSome? fun x => if x.1 = document then (endpointIn document x.2).toOption else none

theorem Exchanges.firstEndpoint?_append (es fs : Exchanges) (document : Url) :
    firstEndpoint? (es ++ fs) document = (firstEndpoint? es document).or (firstEndpoint? fs document) :=
  List.findSome?_append

theorem Exchanges.firstEndpoint?_singleton (document other : Url)
    (answer : Except RetrievalError Bytes) :
    firstEndpoint? [(document, answer)] other =
      if document = other then (endpointIn document answer).toOption else none := by
  by_cases h : document = other <;> simp [firstEndpoint?, h]

theorem endpointIn_eq_error {document : Url} {answer : Except RetrievalError Bytes} {e : ClientError}
    (h : endpointIn document answer = .error e) :
    (∃ cause, e = .metadata cause) ∨ e = .configuration (.noTokenEndpoint document) := by
  unfold endpointIn at h
  split at h
  · cases h
    exact .inl ⟨_, rfl⟩
  · split at h
    · cases h
      exact .inl ⟨_, rfl⟩
    · split at h
      · cases h
        exact .inr rfl
      · cases h

theorem Table.get?_append {κ α : Type} [DecidableEq κ] (k : κ) (t u : List (κ × α)) :
    Table.get? k (t ++ u) = (Table.get? k t).or (Table.get? k u) := by
  rw [Table.get?, List.find?_append, Option.map_or]
  rfl

/-- The endpoints that are known are those that the answers so far have named first; and after an answer
that named one, its document was not retrieved. The known documents are among `documents`. -/
structure Memorises (documents : List Url) (es : Exchanges) (known : List (Url × Url)) : Prop where
  nodup : (known.map Prod.fst).Nodup
  among : known.map Prod.fst ⊆ documents
  first : ∀ document, Table.get? document known = es.firstEndpoint? document
  once : es.Pairwise fun x y => (∃ endpoint, endpointIn x.1 x.2 = .ok endpoint) → y.1 ≠ x.1

section

variable {documents : List Url} {es fs : Exchanges} {known known' : List (Url × Url)} {document : Url}
  {answer : Except RetrievalError Bytes} {resolves : Bool} {c : ClientSettings} {subject : Option String}

theorem Memorises.nil (documents : List Url) : Memorises documents [] [] :=
  ⟨List.nodup_nil, List.nil_subset _, fun _ => rfl, List.Pairwise.nil⟩

theorem Memorises.has_room (h : Memorises documents es known) (hfew : documents.length < maxEndpoints)
    (hdocument : document ∈ documents) (hnew : Table.get? document known = none) :
    known.length < maxEndpoints := by
  have hnodup : (document :: known.map Prod.fst).Nodup :=
    List.nodup_cons.2 ⟨Table.get?_eq_none_iff.1 hnew, h.nodup⟩
  have hle := (List.subperm_of_subset hnodup (List.cons_subset.2 ⟨hdocument, h.among⟩)).length_le
  rw [List.length_cons, List.length_map] at hle
  omega

theorem Memorises.not_again (h : Memorises documents es known)
    (hnew : Table.get? document known = none) (answer : Except RetrievalError Bytes) :
    (es ++ [(document, answer)]).Pairwise
      fun x y => (∃ endpoint, endpointIn x.1 x.2 = .ok endpoint) → y.1 ≠ x.1 := by
  refine List.pairwise_append.2 ⟨h.once, List.pairwise_singleton _ _, ?_⟩
  rintro x hx y hy ⟨endpoint, hendpoint⟩ hsame
  obtain rfl := List.mem_singleton.1 hy
  rw [h.first, Exchanges.firstEndpoint?, List.findSome?_eq_none_iff] at hnew
  have hsame : document = x.1 := hsame
  have hnone := hnew x hx
  rw [if_pos hsame.symm, hsame, hendpoint] at hnone
  cases hnone

theorem Memorises.asked (h : Memorises documents es known) (hfew : documents.length < maxEndpoints)
    (hdocument : document ∈ documents) (hnew : Table.get? document known = none) :
    Memorises documents (es ++ [(document, answer)])
      (learned document known (endpointIn document answer)) := by
  have honce := h.not_again hnew answer
  have hfirst (other : Url) : Exchanges.firstEndpoint? (es ++ [(document, answer)]) other =
      (Table.get? other known).or
        (if document = other then (endpointIn document answer).toOption else none) := by
    rw [Exchanges.firstEndpoint?_append, Exchanges.firstEndpoint?_singleton, h.first]
  cases hanswer : endpointIn document answer with
  | error e =>
    -- A failure leaves no trace in what is known.
    refine ⟨h.nodup, h.among, fun other => ?_, honce⟩
    rw [hfirst, hanswer]
    simp [learned, Except.toOption]
  | ok endpoint =>
    rw [learned, if_pos (h.has_room hfew hdocument hnew)]
    refine ⟨?_, ?_, fun other => ?_, honce⟩
    · rw [List.map_append, List.nodup_append]
      refine ⟨h.nodup, List.nodup_singleton _, ?_⟩
      rintro u hu v hv rfl
      obtain rfl := List.mem_singleton.1 hv
      exact Table.get?_eq_none_iff.1 hnew hu
    · rw [List.map_append]
      exact List.append_subset.2 ⟨h.among, by simpa using hdocument⟩
    · rw [hfirst, hanswer, Table.get?_append, Table.get?_cons]
      rfl

theorem Memorises.finds {found : Except ClientError Url} (h : Memorises documents es known)
    (hfew : documents.length < maxEndpoints) (hc : ∀ d, c.wellKnownUrl = some d → d ∈ documents)
    (hfinds : Finds resolves c known fs found known') : Memorises documents (es ++ fs) known' := by
  cases hfinds with
  | configured | nowhere | noResolver | known =>
    rw [List.append_nil]
    exact h
  | asked document answer _ hw _ hk => exact h.asked hfew (hc document hw) hk

theorem Memorises.prepares {r : Except ClientError (GrantRequest × ClientAuth)}
    (h : Memorises documents es known) (hfew : documents.length < maxEndpoints)
    (hc : ∀ d, c.wellKnownUrl = some d → d ∈ documents)
    (hprepares : Prepares resolves c subject known fs r known') : Memorises documents (es ++ fs) known' := by
  cases hprepares with
  | ungranted | unauthenticated =>
    rw [List.append_nil]
    exact h
  | unlocated _ _ _ _ _ _ _ hfinds | ready _ _ _ _ _ _ _ hfinds => exact h.finds hfew hc hfinds

end

namespace TokenMove

def document? : TokenMove → Option Url
  | call c _ => c.wellKnownUrl
  | forget _ _ => none

/-- Tokens may be lost, but no endpoint is. -/
def KeepsEndpoints : TokenMove → Prop
  | call _ _ => True
  | forget _ knows => ∀ u, knows u = true

end TokenMove

namespace TokenService

def retrievalsOf (s : TokenService σ τ) (st : ServiceState σ τ) : TokenMove → Exchanges
  | .call c site => s.retrievals c site st
  | .forget _ _ => []

/-- All that a run retrieves, the latest last. -/
def exchanges (s : TokenService σ τ) : ServiceState σ τ → List TokenMove → Exchanges
  | _, [] => []
  | st, m :: ms => s.retrievalsOf st m ++ s.exchanges (s.apply st m) ms

theorem exchanges_concat (s : TokenService σ τ) (st : ServiceState σ τ) (ms : List TokenMove)
    (m : TokenMove) :
    s.exchanges st (ms ++ [m]) = s.exchanges st ms ++ s.retrievalsOf (s.run st ms) m := by
  induction ms generalizing st with
  | nil => simp [exchanges, run]
  | cons n ms ih =>
    rw [List.cons_append, exchanges, exchanges, ih, List.append_assoc]
    rfl

variable {s : TokenService σ τ} {c : ClientSettings} {site : CallSite} {documents : List Url}

theorem apply_memorises {st : ServiceState σ τ} {es : Exchanges} {m : TokenMove}
    (h : Memorises documents es st.endpoints) (hfew : documents.length < maxEndpoints)
    (hkeeps : m.KeepsEndpoints) (hm : ∀ d, m.document? = some d → d ∈ documents) :
    Memorises documents (es ++ s.retrievalsOf st m) (s.apply st m).endpoints := by
  cases m with
  | call c site => exact h.prepares hfew hm (s.prepares c site st)
  | forget keeps knows =>
    have hall : st.endpoints.filter (fun e => knows e.1) = st.endpoints :=
      List.filter_eq_self.2 fun e _ => hkeeps e.1
    rw [retrievalsOf, List.append_nil, apply, hall]
    exact h

theorem run_memorises (s : TokenService σ τ) (choice : GrantType → Option TokenCacheSettings) (web : σ)
    (outside : τ) (hfew : documents.length < maxEndpoints) {ms : List TokenMove}
    (hkeeps : ∀ m ∈ ms, m.KeepsEndpoints) (hms : ∀ m ∈ ms, ∀ d, m.document? = some d → d ∈ documents) :
    Memorises documents (s.exchanges (start choice web outside) ms)
      (s.run (start choice web outside) ms).endpoints := by
  -- From the end: what the last move retrieves comes after all that was retrieved before it.
  induction ms using List.reverseRecOn with
  | nil => exact .nil documents
  | append_singleton ms m ih =>
    have hlast : m ∈ ms ++ [m] := List.mem_append_right _ (List.mem_singleton_self m)
    have hbefore := ih (fun n hn => hkeeps n (List.mem_append_left _ hn))
      (fun n hn => hms n (List.mem_append_left _ hn))
    rw [exchanges_concat, run_concat]
    exact apply_memorises hbefore hfew (hkeeps m hlast) (hms m hlast)

/-- A call goes by a document: it has a grant and credentials, and its endpoint is not configured. -/
structure GoesBy (c : ClientSettings) (subject : Option String) (document : Url) : Prop where
  grant : ∃ grant, grantFor c subject = .ok grant
  credentials : ∃ a, ClientAuth.ofSettings c.authentication = .ok a
  unconfigured : c.tokenEndpointUrl = none
  document : c.wellKnownUrl = some document

/-- A call comes to a request for an endpoint, and sends to no other. -/
structure Uses (s : TokenService σ τ) (c : ClientSettings) (site : CallSite) (st : ServiceState σ τ)
    (endpoint : Url) : Prop where
  request : (s.record c site st).request?.map GrantRequest.tokenUrl = some endpoint
  posts : ∀ p ∈ (s.record c site st).posts, p.1.url = endpoint

/-- What is true of a call, in a state in which `es` has been retrieved so far. -/
structure DiscoversOnce (s : TokenService σ τ) (c : ClientSettings) (site : CallSite)
    (st : ServiceState σ τ) (es : Exchanges) : Prop where
  known : ∀ document endpoint, GoesBy c site.subject document →
    es.firstEndpoint? document = some endpoint →
      s.retrievals c site st = [] ∧ s.Uses c site st endpoint
  unknown : ∀ document, GoesBy c site.subject document → es.firstEndpoint? document = none →
    ∃ answer, s.retrievals c site st = [(document, answer)] ∧
      (∀ endpoint, endpointIn document answer = .ok endpoint → s.Uses c site st endpoint) ∧
      ∀ e, endpointIn document answer = .error e → (s.accessToken c site st).1 = .error e ∧
        ((∃ cause, e = .metadata cause) ∨ e = .configuration (.noTokenEndpoint document))
  other : (∀ document, ¬GoesBy c site.subject document) → s.retrievals c site st = []
  once : (es ++ s.retrievals c site st).Pairwise
    fun x y => (∃ endpoint, endpointIn x.1 x.2 = .ok endpoint) → y.1 ≠ x.1

end TokenService

section

variable {resolves : Bool} {c : ClientSettings} {subject : Option String} {document : Url}
  {known known' : List (Url × Url)} {es : Exchanges} {found : Except ClientError Url}
  {r : Except ClientError (GrantRequest × ClientAuth)}

theorem Prepares.finds (h : Prepares resolves c subject known es r known')
    (hby : TokenService.GoesBy c subject document) :
    Finds resolves c known es (r.map fun p => p.1.tokenUrl) known' := by
  obtain ⟨grant, hgrant⟩ := hby.grant
  obtain ⟨a, hauth⟩ := hby.credentials
  cases h with
  | ungranted e he => cases hgrant.symm.trans he
  | unauthenticated _ e _ he => cases hauth.symm.trans he
  | unlocated _ _ _ _ _ _ _ hfinds | ready _ _ _ _ _ _ _ hfinds => exact hfinds

theorem Finds.recalls {endpoint : Url} (h : Finds true c known es found known')
    (hurl : c.tokenEndpointUrl = none) (hw : c.wellKnownUrl = some document)
    (hknown : Table.get? document known = some endpoint) : es = [] ∧ found = .ok endpoint := by
  cases h with
  | configured _ h => cases hurl.symm.trans h
  | nowhere _ h => cases hw.symm.trans h
  | noResolver _ _ _ hr => cases hr
  | known _ _ _ hw' _ hk =>
    cases hw.symm.trans hw'
    cases hknown.symm.trans hk
    exact ⟨rfl, rfl⟩
  | asked _ _ _ hw' _ hk =>
    cases hw.symm.trans hw'
    cases hknown.symm.trans hk

theorem Finds.asks (h : Finds true c known es found known') (hurl : c.tokenEndpointUrl = none)
    (hw : c.wellKnownUrl = some document) (hnew : Table.get? document known = none) :
    ∃ answer, es = [(document, answer)] ∧ found = endpointIn document answer := by
  cases h with
  | configured _ h => cases hurl.symm.trans h
  | nowhere _ h => cases hw.symm.trans h
  | noResolver _ _ _ hr => cases hr
  | known _ _ _ hw' _ hk =>
    cases hw.symm.trans hw'
    cases hnew.symm.trans hk
  | asked _ answer _ hw' _ _ =>
    cases hw.symm.trans hw'
    exact ⟨answer, rfl, rfl⟩

theorem Finds.retrieves_nothing (h : Finds resolves c known es found known')
    (hnot : ∀ document, c.tokenEndpointUrl = none → c.wellKnownUrl ≠ some document) : es = [] := by
  cases h with
  | configured | nowhere | noResolver | known => rfl
  | asked document _ hurl hw => exact absurd hw (hnot document hurl)

theorem Prepares.retrieves_nothing (h : Prepares resolves c subject known es r known')
    (hnot : ∀ document, ¬TokenService.GoesBy c subject document) : es = [] := by
  cases h with
  | ungranted | unauthenticated => rfl
  | unlocated grant a _ _ _ hgrant hauth hfinds | ready grant a _ _ _ hgrant hauth hfinds =>
    exact hfinds.retrieves_nothing fun document hurl hw =>
      hnot document ⟨⟨grant, hgrant⟩, ⟨a, hauth⟩, hurl, hw⟩

end

namespace TokenService

variable {s : TokenService σ τ} {c : ClientSettings} {site : CallSite} {st : ServiceState σ τ}

theorem uses_of_prepare {endpoint : Url}
    (h : ((s.prepare c site.subject st).1.map fun p => p.1.tokenUrl) = .ok endpoint) :
    s.Uses c site st endpoint := by
  obtain ⟨⟨q, a⟩, hprepare, hurl⟩ := map_eq_ok_iff.1 h
  refine ⟨?_, fun p hp => ?_⟩
  · change ((s.prepare c site.subject st).1.toOption.map Prod.fst).map _ = _
    rw [hprepare]
    exact congrArg some hurl
  · obtain ⟨q', a', hprepare', hsame⟩ := url_of_posts hp
    cases hprepare.symm.trans hprepare'
    rw [hsame]
    exact hurl

/-- However the answers change over time, the first endpoint that one of them names is the one that all
clients go by from then on. -/
theorem discovered_once (s : TokenService σ τ) (choice : GrantType → Option TokenCacheSettings) (web : σ)
    (outside : τ) (c : ClientSettings) (site : CallSite) (ms : List TokenMove)
    (hresolver : s.resolver.isSome = true) (hkeeps : ∀ m ∈ ms, m.KeepsEndpoints)
    (hfew : ((ms ++ [TokenMove.call c site]).filterMap TokenMove.document?).dedup.length < maxEndpoints) :
    s.DiscoversOnce c site (s.run (start choice web outside) ms)
      (s.exchanges (start choice web outside) ms) := by
  have hnamed : ∀ m ∈ ms ++ [TokenMove.call c site], ∀ d, m.document? = some d →
      d ∈ ((ms ++ [TokenMove.call c site]).filterMap TokenMove.document?).dedup :=
    fun m hm d hd => List.mem_dedup.2 (List.mem_filterMap.2 ⟨m, hm, hd⟩)
  have hmemo := s.run_memorises choice web outside hfew hkeeps
    fun m hm => hnamed m (List.mem_append_left _ hm)
  have hprepares := s.prepares c site (s.run (start choice web outside) ms)
  have hlast := hmemo.prepares hfew
    (hnamed (.call c site) (List.mem_append_right _ (List.mem_singleton_self _))) hprepares
  rw [hresolver] at hprepares
  refine ⟨fun document endpoint hby hfirst => ?_, fun document hby hfirst => ?_,
    hprepares.retrieves_nothing, hlast.once⟩
  · rw [← hmemo.first] at hfirst
    obtain ⟨hnone, hurl⟩ := (hprepares.finds hby).recalls hby.unconfigured hby.document hfirst
    exact ⟨hnone, uses_of_prepare hurl⟩
  · rw [← hmemo.first] at hfirst
    obtain ⟨answer, hasked, hurl⟩ := (hprepares.finds hby).asks hby.unconfigured hby.document hfirst
    refine ⟨answer, hasked, fun endpoint hanswer => uses_of_prepare (hurl.trans hanswer),
      fun e hanswer => ⟨?_, endpointIn_eq_error hanswer⟩⟩
    rw [hanswer, map_eq_error_iff] at hurl
    rw [accessToken_of_prepare hurl]

end TokenService

namespace Sample

open TokenService

def wellKnown : Url := { scheme := "https", path := .segments ["well-known"] }

def foundUrl : Url := { scheme := "a", path := .rootless "t" }

def seeker : ClientSettings := { machine with tokenEndpointUrl := none, wellKnownUrl := some wellKnown }

def endpointDocument : Bytes :=
  "\x7b\"issuer\":\"a\",\"jwks_uri\":\"a:k\",\"token_endpoint\":\"a:t\"\x7d".toUTF8.toList

def late : TokenService Nat Unit where
  resolver := some (.script fun n => if n = 0 then .error .clientBuild else .ok endpointDocument)
  endpoint := generous.endpoint

def twice : List TokenMove := [.call seeker alone, .call seeker alone]

theorem twice_exchanges : late.exchanges (start (fun _ => none) 0 ()) twice =
    [(wellKnown, .error .clientBuild), (wellKnown, .ok endpointDocument)] := by
  decide +kernel

theorem endpointIn_document : endpointIn wellKnown (.ok endpointDocument) = .ok foundUrl := by
  decide +kernel

theorem discovered_once_late :
    late.resolver.isSome = true ∧ (∀ m ∈ twice, m.KeepsEndpoints) ∧
      ((twice ++ [TokenMove.call seeker alone]).filterMap TokenMove.document?).dedup.length < maxEndpoints ∧
      late.exchanges (start (fun _ => none) 0 ()) twice =
        [(wellKnown, .error .clientBuild), (wellKnown, .ok endpointDocument)] ∧
      late.retrievals seeker alone (late.run (start (fun _ => none) 0 ()) twice) = [] ∧
      late.Uses seeker alone (late.run (start (fun _ => none) 0 ()) twice) foundUrl := by
  have hkeeps : ∀ m ∈ twice, m.KeepsEndpoints := by simp [twice, TokenMove.KeepsEndpoints]
  have hfew : ((twice ++ [TokenMove.call seeker alone]).filterMap TokenMove.document?).dedup.length <
      maxEndpoints := by
    decide
  have honce := discovered_once late (fun _ => none) 0 () seeker alone twice rfl hkeeps hfew
  refine ⟨rfl, hkeeps, hfew, twice_exchanges, honce.known wellKnown foundUrl ?_ ?_⟩
  · exact ⟨⟨_, rfl⟩, ⟨_, rfl⟩, rfl, rfl⟩
  · rw [twice_exchanges]
    rw [Exchanges.firstEndpoint?, List.findSome?_cons, List.findSome?_cons, endpointIn_document]
    rfl

end Sample
end BearerTrust

import BearerTrust.Proofs.Soundness
import BearerTrust.Proofs.TokenReuse
import BearerTrust.Proofs.WireRequest
import BearerTrust.Scope

namespace BearerTrust

variable {σ υ τ : Type}

structure Arrival (σ : Type) where
  registry : Registry
  web : Retriever σ
  now : Seconds
  instant : Instant
  request : Request
  trust : TrustState σ

namespace Arrival

def validate (a : Arrival σ) : Except Abort (Context × TrustState σ) :=
  a.registry.validate a.web a.now a.instant a.request a.trust

def serve (a : Arrival σ) (body : List (Work τ)) : Work τ :=
  a.registry.serve a.web a.now a.instant a.request a.trust body

/-- A token that the request carries passes the validator of its issuer when its turn comes. -/
def Accepts (a : Arrival σ) (c : Candidate) (t : Token) : Prop :=
  ∃ before after mid st i k, a.registry.candidates a.request = before ++ c :: after ∧
    a.registry.validateAll a.web a.now a.instant before {} a.trust = .ok (mid, st) ∧
    a.registry.byShortName? c.shortName = some i ∧
    i.validator.validate a.web a.now a.instant c.token (st.keys c.shortName) = .ok (.ok t, k)

variable {a : Arrival σ} {c : Candidate} {t : Token} {ctx : Context} {st : TrustState σ}

theorem Accepts.encoded (h : a.Accepts c t) : t.encoded = c.token := by
  obtain ⟨-, -, -, st, i, k, -, -, hi, hv⟩ := h
  have hcandidate : a.registry.validateCandidate a.web a.now a.instant c st =
      .ok (some (.ok t), st.withKeys c.shortName k) := by
    rw [Registry.validateCandidate_known hi, hv]
    rfl
  exact Registry.validateCandidate_encoded hcandidate

theorem serve_of_validate (h : a.validate = .ok (ctx, st)) (body : List (Work τ)) :
    a.serve body = .scope ctx body := by
  unfold validate at h
  unfold serve Registry.serve
  rw [h]

theorem accepts_of_mem {n : String} (h : a.validate = .ok (ctx, st)) (ht : (n, t) ∈ ctx.tokens) :
    ∃ c, a.Accepts c t := by
  rcases Registry.validateAll_mem h ht with hnone | ⟨before, c, after, mid, st₁, st₂, hq, -, hb, hc, -⟩
  · cases hnone
  · cases hi : a.registry.byShortName? c.shortName with
    | none =>
      rw [Registry.validateCandidate_unknown hi] at hc
      cases hc
    | some i =>
      rw [Registry.validateCandidate_known hi] at hc
      obtain ⟨⟨result, k⟩, hv, hc⟩ := map_eq_ok_iff.1 hc
      cases hc
      exact ⟨c, before, after, mid, st₁, i, k, hq, hb, hi, hv⟩

end Arrival

/-- What a service does: it serves requests, runs parts in scopes of its own making or in tasks of their
own, and at any point may request a token. -/
inductive Job (σ : Type) where
  | call (settings : ClientSettings) (site : CallSite)
  | serve (a : Arrival σ) (body : List (Job σ))
  | scope (c : Context) (body : List (Job σ))
  | spawn (body : List (Job σ))
  | raise (abort : Abort)
  | guard (body : List (Job σ))

/-- What a call stands in: the innermost scope around it in its own task. -/
inductive Surroundings (σ : Type) where
  | nothing
  | request (a : Arrival σ)
  | scope (c : Context)

structure Order (σ : Type) where
  around : Surroundings σ
  settings : ClientSettings
  site : CallSite

inductive JobEntry (σ : Type) where
  | ordered (o : Order σ)
  | ended (abort : Option Abort)

namespace Job

mutual
def work (around : Surroundings σ) : Job σ → Work (JobEntry σ)
  | .call settings site => .observe fun installed =>
    .ordered ⟨around, settings, { site with subject := Context.subjectToken? installed }⟩
  | .serve a body => a.serve (workAll (.request a) body)
  | .scope c body => .scope c (workAll (.scope c) body)
  | .spawn body => .spawn (workAll .nothing body)
  | .raise abort => .raise abort
  | .guard body => .guard (workAll around body) .ended

def workAll (around : Surroundings σ) : List (Job σ) → List (Work (JobEntry σ))
  | [] => []
  | j :: js => work around j :: workAll around js
end

def log (js : List (Job σ)) : List (JobEntry σ) := (Task.runAll (workAll .nothing js) {}).2.log

end Job

inductive Surroundings.Installs : Surroundings σ → Option Context → Prop
  | nothing : Installs .nothing none
  | request {a : Arrival σ} {c : Context} {st : TrustState σ} (h : a.validate = .ok (c, st)) :
      Installs (.request a) (some c)
  | scope (c : Context) : Installs (.scope c) (some c)

theorem Surroundings.Installs.subject_none {installed : Option Context}
    (h : Installs (.nothing : Surroundings σ) installed) : Context.subjectToken? installed = none := by
  cases h
  rfl

theorem Surroundings.Installs.accepts {a : Arrival σ} {installed : Option Context} {text : String}
    (h : Installs (.request a) installed) (ht : Context.subjectToken? installed = some text) :
    ∃ c t, a.Accepts c t ∧ text = c.token := by
  cases h with
  | request h =>
    obtain ⟨t, hfirst, rfl⟩ := Option.map_eq_some_iff.1 ht
    obtain ⟨⟨n, t'⟩, hhead, rfl⟩ := Option.map_eq_some_iff.1 hfirst
    obtain ⟨c, hc⟩ := Arrival.accepts_of_mem h (List.mem_of_head? hhead)
    exact ⟨c, _, hc, hc.encoded⟩

/-- A call has the token of the context that its surroundings install. -/
def JobEntry.Sound : JobEntry σ → Prop
  | .ordered o => ∃ installed, o.around.Installs installed ∧
      o.site.subject = Context.subjectToken? installed
  | .ended _ => True

namespace Job

mutual
theorem log_work : ∀ (j : Job σ) {around : Surroundings σ} {t : Task (JobEntry σ)},
    around.Installs t.installed → (∀ e ∈ t.log, e.Sound) → ∀ e ∈ (Task.run (j.work around) t).2.log, e.Sound
  | .call settings site, around, t, h, ht => by
    intro e he
    rcases List.mem_append.1 he with he | he
    · exact ht e he
    · rw [List.mem_singleton.1 he]
      exact ⟨t.installed, h, rfl⟩
  | .serve a body, around, t, h, ht => by
    intro e he
    unfold work Arrival.serve Registry.serve at he
    split at he
    · exact ht e he
    · next c st hc =>
      -- Entered or refused: within another scope the body is not done at all.
      rcases Task.mem_log_scope he with he | he
      · exact ht e he
      · exact log_workAll body (t := { t with installed := some c }) (.request hc) ht e he
  | .scope c body, around, t, h, ht => by
    intro e he
    rcases Task.mem_log_scope he with he | he
    · exact ht e he
    · exact log_workAll body (t := { t with installed := some c }) (.scope c) ht e he
  | .spawn body, around, t, h, ht => log_workAll body (t := { t with installed := none }) .nothing ht
  | .raise abort, around, t, h, ht => ht
  | .guard body, around, t, h, ht => by
    intro e he
    rcases List.mem_append.1 he with he | he
    · exact log_workAll body h ht e he
    · rw [List.mem_singleton.1 he]
      trivial

theorem log_workAll : ∀ (js : List (Job σ)) {around : Surroundings σ} {t : Task (JobEntry σ)},
    around.Installs t.installed → (∀ e ∈ t.log, e.Sound) →
      ∀ e ∈ (Task.runAll (workAll around js) t).2.log, e.Sound
  | [], around, t, h, ht => ht
  | j :: js, around, t, h, ht => by
    have hj := log_work j h ht
    have hinstalled := Task.run_installed (j.work around) t
    unfold workAll Task.runAll
    split
    · next u hu =>
      rw [hu] at hj
      exact hj
    · next u hu =>
      rw [hu] at hj hinstalled
      exact log_workAll js (hinstalled ▸ h) hj
end

end Job

theorem Job.log_sound (js : List (Job σ)) : ∀ e ∈ Job.log js, e.Sound :=
  Job.log_workAll js .nothing (List.forall_mem_nil _)

/-- The form has the text, and only it, where a grant has the caller's token. -/
def TokenRequest.Carries (r : TokenRequest) (text : String) : GrantType → Prop
  | .clientCredentials => False
  | .jwtBearer => ∀ v, ("assertion", v) ∈ r.form ↔ v = text
  | .tokenExchange => ∀ v, ("subject_token", v) ∈ r.form ↔ v = text

theorem GrantRequest.mem_form_iff {q : GrantRequest} {a : ClientAuth} {now : Seconds} {nonce : Bytes}
    {name text : String} (hname : name ∈ Grant.fieldNames) (h : q.grant.fields.lookup name = some text)
    (v : String) : (name, v) ∈ (q.tokenRequest a now nonce).form ↔ v = text := by
  rw [← TokenRequest.param?_eq_some_iff (q.names_tokenRequest a now nonce),
    q.param?_of_grant a now nonce hname, h, Option.some_inj]
  exact eq_comm

theorem Grant.Suits.carries {c : ClientSettings} {subject : Option String} {q : GrantRequest}
    (h : q.grant.Suits c subject) (hc : c.grantType ≠ .clientCredentials) :
    ∃ text, subject = some text ∧ ∀ a now nonce,
      (q.tokenRequest a now nonce).Carries text c.grantType := by
  match hg : q.grant with
  | .clientCredentials =>
    rw [hg] at h
    exact absurd h hc
  | .onBehalfOf text =>
    rw [hg] at h
    obtain ⟨htype, hsubject⟩ := h
    rw [htype]
    exact ⟨text, hsubject, fun _ _ _ => GrantRequest.mem_form_iff (by decide) (by rw [hg]; rfl)⟩
  | .tokenExchange text exchange =>
    rw [hg] at h
    obtain ⟨htype, hsubject, -⟩ := h
    rw [htype]
    exact ⟨text, hsubject, fun _ _ _ => GrantRequest.mem_form_iff (by decide) (by rw [hg]; rfl)⟩

/-- How a grant for a caller fails when there is no token of a caller. -/
inductive Unserved (c : ClientSettings) : ClientError → Prop
  | onBehalfOf (h : c.grantType = .jwtBearer) : Unserved c .noAuthenticatedToken
  | unconfigured (h : c.grantType = .tokenExchange) (hx : c.tokenExchange = none) :
      Unserved c (.configuration (.noExchangeParameters c.authentication.clientId))
  | exchange (h : c.grantType = .tokenExchange) (hx : c.tokenExchange ≠ none) :
      Unserved c .missingSubjectToken

namespace TokenService

theorem unserved_grantFor {c : ClientSettings} (hc : c.grantType ≠ .clientCredentials) :
    ∃ e, grantFor c none = .error e ∧ Unserved c e := by
  unfold grantFor
  split
  · next h => exact absurd h hc
  · next h => exact ⟨_, rfl, .onBehalfOf h⟩
  · next h =>
    cases hx : c.tokenExchange with
    | none => exact ⟨_, rfl, .unconfigured h hx⟩
    | some exchange =>
      refine ⟨_, rfl, .exchange h ?_⟩
      rw [hx]
      exact Option.some_ne_none _

theorem accessToken_refused {s : TokenService υ τ} {c : ClientSettings} {site : CallSite}
    {st : ServiceState υ τ} {e : ClientError} (h : grantFor c site.subject = .error e) :
    s.accessToken c site st = (.error e, st) := by
  unfold accessToken
  rw [h]

def webRecording (s : TokenService υ τ) : TokenService (υ × Exchanges) τ :=
  ⟨s.resolver.map Retriever.recording, s.endpoint⟩

/-- What a call retrieves while it looks for its endpoint, and the answers. -/
def retrievals (s : TokenService υ τ) (c : ClientSettings) (site : CallSite) (st : ServiceState υ τ) :
    Exchanges :=
  (s.webRecording.accessToken c site ⟨st.caches, st.endpoints, (st.web, []), st.outside⟩).2.web.2

theorem retrievals_refused {s : TokenService υ τ} {c : ClientSettings} {site : CallSite}
    {st : ServiceState υ τ} {e : ClientError} (h : grantFor c site.subject = .error e) :
    s.retrievals c site st = [] := by
  unfold retrievals
  rw [accessToken_refused h]

theorem posts_refused {s : TokenService υ τ} {c : ClientSettings} {site : CallSite}
    {st : ServiceState υ τ} {e : ClientError} (h : grantFor c site.subject = .error e) :
    (s.record c site st).posts = [] := by
  unfold record
  rw [accessToken_refused h]
  rfl

theorem posts_carry {s : TokenService υ τ} {c : ClientSettings} {site : CallSite}
    {st : ServiceState υ τ} {p : TokenRequest × Except RetrievalError EndpointAnswer}
    (hp : p ∈ (s.record c site st).posts) (hc : c.grantType ≠ .clientCredentials) :
    ∃ text, site.subject = some text ∧ p.1.Carries text c.grantType := by
  obtain ⟨q, a, st', hprepare, hrequest⟩ := posts_record s hp
  obtain ⟨hgrant, -⟩ := prepare_eq_ok hprepare
  obtain ⟨text, hsubject, hcarries⟩ := (grantFor_suits hgrant).carries hc
  rw [hrequest]
  exact ⟨text, hsubject, hcarries _ _ _⟩

/-- In whatever state a token is requested for a caller: while a request is served, what is sent carries
the text of a token of the request that passed the validator of its issuer. If none passed, and where no
request is served, the call fails: nothing is retrieved or sent, and everything stays as it was. -/
theorem delegates_validated (js : List (Job σ)) (s : TokenService υ τ) (st : ServiceState υ τ)
    {o : Order σ} (ho : .ordered o ∈ Job.log js) (hgrant : o.settings.grantType ≠ .clientCredentials) :
    (∀ a, o.around = .request a → ∀ p ∈ (s.record o.settings o.site st).posts,
      ∃ c t, a.Accepts c t ∧ p.1.Carries c.token o.settings.grantType) ∧
    (o.around = .nothing ∨ (∃ a, o.around = .request a ∧ ∀ c t, ¬a.Accepts c t) →
      ∃ e, Unserved o.settings e ∧ s.accessToken o.settings o.site st = (.error e, st) ∧
        s.retrievals o.settings o.site st = [] ∧ (s.record o.settings o.site st).posts = []) := by
  obtain ⟨installed, hinstalled, hsubject⟩ := Job.log_sound js _ ho
  constructor
  · intro a ha p hp
    obtain ⟨text, htext, hcarries⟩ := posts_carry hp hgrant
    rw [ha] at hinstalled
    obtain ⟨c, t, hc, rfl⟩ := hinstalled.accepts (hsubject.symm.trans htext)
    exact ⟨c, t, hc, hcarries⟩
  · intro haround
    have hnone : o.site.subject = none := by
      rw [hsubject]
      rcases haround with ha | ⟨a, ha, hrefused⟩
      · rw [ha] at hinstalled
        exact hinstalled.subject_none
      · rw [ha] at hinstalled
        rw [Option.eq_none_iff_forall_not_mem]
        intro text htext
        obtain ⟨c, t, hc, -⟩ := hinstalled.accepts htext
        exact hrefused c t hc
    obtain ⟨e, he, hunserved⟩ := unserved_grantFor hgrant
    rw [← hnone] at he
    exact ⟨e, hunserved, accessToken_refused he, retrievals_refused he, posts_refused he⟩

end TokenService

namespace Sample

def arrival : Arrival Unit := ⟨registry, .constant (.ok document), 0, 0, request, ⟨[], ()⟩⟩

def delegate : ClientSettings := { machine with grantType := .jwtBearer }

def errands (a : Arrival Unit) : List (Job Unit) :=
  [.serve a [.call delegate alone, .spawn [.call delegate alone]]]

def forCaller : Order Unit := ⟨.request arrival, delegate, { alone with subject := some token.encoded }⟩

def forNobody : Order Unit := ⟨.nothing, delegate, alone⟩

def fresh : ServiceState Unit Unit := TokenService.start (fun _ => none) () ()

-- For every request: evaluating `errands arrival` would validate it once more at each step.
theorem errands_log {a : Arrival Unit} {c : Context} {st : TrustState Unit}
    (h : a.validate = .ok (c, st)) :
    Job.log (errands a) =
      [.ordered ⟨.request a, delegate, { alone with subject := Context.subjectToken? (some c) }⟩,
        .ordered forNobody] := by
  unfold Job.log errands
  simp only [Job.workAll, Job.work, a.serve_of_validate h]
  rfl

theorem arrival_validate : arrival.validate = .ok (⟨[("a", token)]⟩, ⟨[], ()⟩) :=
  registry_validate

theorem arrival_log : Job.log (errands arrival) = [.ordered forCaller, .ordered forNobody] :=
  errands_log arrival_validate

theorem forCaller_posts : ∃ p, (generous.record delegate forCaller.site fresh).posts = [p] :=
  ⟨_, rfl⟩

theorem delegates_validated_cookie :
    .ordered forCaller ∈ Job.log (errands arrival) ∧ .ordered forNobody ∈ Job.log (errands arrival) ∧
    (∃ p, (generous.record delegate forCaller.site fresh).posts = [p] ∧
      ∃ c t, arrival.Accepts c t ∧ p.1.Carries c.token .jwtBearer) ∧
    ∃ e, Unserved delegate e ∧ generous.accessToken delegate alone fresh = (.error e, fresh) := by
  have hcaller : .ordered forCaller ∈ Job.log (errands arrival) := by
    rw [arrival_log]
    exact List.mem_cons_self
  have hnobody : .ordered forNobody ∈ Job.log (errands arrival) := by
    rw [arrival_log]
    exact List.mem_cons_of_mem _ (List.mem_singleton_self _)
  have hgrant : delegate.grantType ≠ .clientCredentials := by decide
  refine ⟨hcaller, hnobody, ?_, ?_⟩
  · obtain ⟨p, hp⟩ := forCaller_posts
    have hsent := (TokenService.delegates_validated (errands arrival) generous fresh hcaller hgrant).1
    refine ⟨p, hp, hsent arrival rfl p ?_⟩
    change p ∈ (generous.record delegate forCaller.site fresh).posts
    rw [hp]
    exact List.mem_singleton_self p
  · obtain ⟨e, he, hfailed, -⟩ :=
      (TokenService.delegates_validated (errands arrival) generous fresh hnobody hgrant).2 (.inl rfl)
    exact ⟨e, he, hfailed⟩

end Sample
end BearerTrust

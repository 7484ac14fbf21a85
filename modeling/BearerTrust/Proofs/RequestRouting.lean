import BearerTrust.Http.Client

namespace BearerTrust.Http

variable {ω : Type}

/-- The location that a routing leads to. In plain text it is the same but for the scheme; a port is written
unless the scheme implies it. -/
inductive Leads (routing : Routing) (u : Url) : Url → Prop
  | plain (hplain : routing.usePlaintextForHttps = true) (hscheme : u.scheme = "https") :
      Leads routing u { u with scheme := "http", port := if u.port = some 80 then none else u.port }
  | direct (h : routing.usePlaintextForHttps = true → u.scheme ≠ "https") : Leads routing u u

section

variable {routing : Routing} {u v w : Url}

theorem Leads.unique (hv : Leads routing u v) (hw : Leads routing u w) : v = w := by
  cases hv with
  | plain hplain hscheme =>
    cases hw with
    | plain => rfl
    | direct h => exact absurd hscheme (h hplain)
  | direct h =>
    cases hw with
    | plain hplain hscheme => exact absurd hscheme (h hplain)
    | direct => rfl

theorem Leads.eq_iff (h : Leads routing u v) :
    v = u ↔ (routing.usePlaintextForHttps = true → u.scheme ≠ "https") := by
  refine ⟨fun hsame hplain hscheme => ?_, fun hdirect => h.unique (.direct hdirect)⟩
  have hhttp : v.scheme = "http" := by rw [h.unique (.plain hplain hscheme)]
  rw [hsame, hscheme] at hhttp
  exact absurd hhttp (by decide)

theorem Leads.effectivePort (h : Leads routing u v) {port : Nat} (hport : u.port = some port) :
    v.effectivePort? = some port := by
  cases h with
  | plain =>
    by_cases h80 : port = 80
    · simp [Url.effectivePort?, hport, h80, Url.defaultPort?]
    · simp [Url.effectivePort?, hport, h80]
  | direct => simp [Url.effectivePort?, hport]

end

theorem Client.effectiveUrl_leads (c : Client) (u : Url) : Leads c.routing u (c.effectiveUrl u) := by
  by_cases h : c.routing.usePlaintextForHttps = true ∧ u.scheme = "https"
  · have hplain : c.effectiveUrl u = u.withScheme "http" := by
      rw [effectiveUrl, if_pos (by simpa using h)]
    rw [hplain]
    exact .plain h.1 h.2
  · have hdirect : c.effectiveUrl u = u := by
      rw [effectiveUrl, if_neg (by simpa using h)]
    rw [hdirect]
    exact .direct fun hplain hscheme => h ⟨hplain, hscheme⟩

def Transport.recording (t : Transport ω) : Transport (ω × List Request) where
  send q s := ((t.send q s.1).1, ((t.send q s.1).2, s.2 ++ [q]))

theorem Client.build_eq_ok {agent : String} {s : RetrievalSettings} {routing : Routing}
    (h : routing.proxyUrl.all isProxy = true) :
    build agent s routing = .ok ⟨agent, routing, s.maxResponseBytes.toNat⟩ := by
  rw [build, if_pos h]

theorem Client.build_eq_error {agent : String} {s : RetrievalSettings} {routing : Routing}
    (h : ¬routing.proxyUrl.all isProxy = true) : build agent s routing = .error .clientBuild := by
  rw [build, if_neg h]

/-- A service asks for the document at a location where the routing leads to, and for a token at the location
itself; so both at one place, unless it is one under `https` that is to be asked in plain text. Both requests
go through the proxy of the routing. There is no service only where that proxy cannot be one. -/
theorem tokenService_routes (agents : String × String) (s : RetrievalSettings) (routing : Routing)
    (t : Transport ω) :
    (tokenService agents s routing t.recording = .error (.transport .clientBuild) ∧
      ∃ p, routing.proxyUrl = some p ∧ isProxy p = false) ∨
    ∃ service documents, tokenService agents s routing t.recording = .ok service ∧
      service.resolver = some documents ∧
      ∀ (q : TokenRequest) (w : ω) (sent : List Request), ∃ g p : Request,
        (documents.retrieve q.url (w, sent)).2.2 = sent ++ [g] ∧
        (service.endpoint.post q (w, sent)).2.2 = sent ++ [p] ∧
        g.proxy = routing.proxyUrl ∧ p.proxy = routing.proxyUrl ∧
        Leads routing q.url g.url ∧
        (∀ port, q.url.port = some port → g.url.effectivePort? = some port) ∧
        p.url = q.url ∧
        (g.url = p.url ↔ (routing.usePlaintextForHttps = true → q.url.scheme ≠ "https")) := by
  by_cases hproxy : routing.proxyUrl.all isProxy = true
  · right
    have hservice : tokenService agents s routing t.recording = .ok
        ⟨some (Client.retriever ⟨agents.1, routing, s.maxResponseBytes.toNat⟩ t.recording),
          Client.tokenEndpoint ⟨agents.2, routing, s.maxResponseBytes.toNat⟩ t.recording⟩ := by
      rw [tokenService, Client.build_eq_ok hproxy, Client.build_eq_ok hproxy]
    refine ⟨_, _, hservice, rfl, fun q w sent => ⟨_, _, rfl, rfl, rfl, rfl, ?_⟩⟩
    have hleads := Client.effectiveUrl_leads ⟨agents.1, routing, s.maxResponseBytes.toNat⟩ q.url
    exact ⟨hleads, fun _ => hleads.effectivePort, rfl, hleads.eq_iff⟩
  · left
    refine ⟨?_, ?_⟩
    · rw [tokenService, Client.build_eq_error hproxy]
    · cases hp : routing.proxyUrl with
      | none => simp [hp] at hproxy
      | some p => exact ⟨p, rfl, by simpa [hp] using hproxy⟩

namespace Sample

def tokenPlace : Url where
  scheme := "https"
  host := some (.domain "login.example")
  path := .segments ["oauth2", "token"]

def inPlainText : Routing := { usePlaintextForHttps := true }

/-- What the routing says holds for documents, and is not looked at for tokens. -/
theorem token_unrouted :
    ∃ service documents, tokenService ("documents", "tokens") {} inPlainText
        Transport.unreachable.recording = .ok service ∧ service.resolver = some documents ∧
      (documents.retrieve tokenPlace ((), [])).2.2.map (·.url.text) =
        ["http://login.example/oauth2/token"] ∧
      (service.endpoint.post ⟨tokenPlace, [], none⟩ ((), [])).2.2.map (·.url.text) =
        ["https://login.example/oauth2/token"] ∧
      ¬Leads inPlainText tokenPlace tokenPlace := by
  refine ⟨_, _, rfl, rfl, by decide +kernel, by decide +kernel, fun h => ?_⟩
  exact h.eq_iff.1 rfl rfl rfl

end Sample
end BearerTrust.Http

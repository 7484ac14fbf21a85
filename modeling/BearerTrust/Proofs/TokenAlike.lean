import BearerTrust.Proofs.TokenRun

namespace BearerTrust

def AuthSettings.publicKey? (s : AuthSettings) : Option (Rsa.PublicKey × String) :=
  s.key.bind fun k => (Pem.privateKey? k.pem).map fun key => (key.publicKey, k.keyId)

namespace TokenCall

/-- Calls that may share a token. -/
structure Alike (k k' : TokenCall) : Prop where
  grantType : k.settings.grantType = k'.settings.grantType
  tokenUrl : k.request?.map GrantRequest.tokenUrl = k'.request?.map GrantRequest.tokenUrl
  clientId : k.settings.authentication.clientId = k'.settings.authentication.clientId
  method : k.settings.authentication.method = k'.settings.authentication.method
  secret : k.settings.authentication.method ≠ .privateKeyJwt →
    k.settings.authentication.secret = k'.settings.authentication.secret
  publicKey : k.settings.authentication.method = .privateKeyJwt →
    k.settings.authentication.publicKey? = k'.settings.authentication.publicKey?
  scope : k.settings.scope = k'.settings.scope
  subject : k.settings.grantType ≠ .clientCredentials → k.site.subject = k'.site.subject
  exchange : k.settings.grantType = .tokenExchange → k.settings.tokenExchange = k'.settings.tokenExchange

/-- A call comes to a request that its settings make. -/
structure Requests (k : TokenCall) (q : GrantRequest) : Prop where
  request : k.request? = some q
  prepared : Prepared k.settings k.site.subject q

end TokenCall

/-- What settings and a caller's token say of the grant that is built from them. -/
def Grant.Suits (c : ClientSettings) (subject : Option String) : Grant → Prop
  | .clientCredentials => c.grantType = .clientCredentials
  | .onBehalfOf token => c.grantType = .jwtBearer ∧ subject = some token
  | .tokenExchange token exchange =>
    c.grantType = .tokenExchange ∧ subject = some token ∧ c.tokenExchange = some exchange

theorem TokenService.grantFor_suits {c : ClientSettings} {subject : Option String} {grant : Grant}
    (h : TokenService.grantFor c subject = .ok grant) : grant.Suits c subject := by
  unfold grantFor at h
  split at h
  · next hg =>
    cases h
    exact hg
  · next hg =>
    split at h
    · cases h
      exact ⟨hg, rfl⟩
    · cases h
  · next hg =>
    split at h
    · cases h
    · cases h
    · next hexchange =>
      cases h
      exact ⟨hg, rfl, hexchange⟩

theorem Grant.Suits.grantType {c : ClientSettings} {subject : Option String} {grant : Grant}
    (h : grant.Suits c subject) : grant.grantType = c.grantType := by
  cases grant with
  | clientCredentials => exact h.symm
  | onBehalfOf | tokenExchange => exact h.1.symm

theorem Grant.Suits.eq_iff {c c' : ClientSettings} {subject subject' : Option String}
    {grant grant' : Grant} (h : grant.Suits c subject) (h' : grant'.Suits c' subject') :
    grant = grant' ↔ c.grantType = c'.grantType ∧
      (c.grantType ≠ .clientCredentials → subject = subject') ∧
      (c.grantType = .tokenExchange → c.tokenExchange = c'.tokenExchange) := by
  have hg := h.grantType
  have hg' := h'.grantType
  constructor
  · rintro rfl
    refine ⟨hg.symm.trans hg', ?_, ?_⟩
    · intro hne
      cases grant with
      | clientCredentials => exact absurd h hne
      | onBehalfOf => exact h.2.trans h'.2.symm
      | tokenExchange => exact h.2.1.trans h'.2.1.symm
    · intro heq
      cases grant with
      | clientCredentials | onBehalfOf =>
        rw [heq] at hg
        cases hg
      | tokenExchange => exact h.2.2.trans h'.2.2.symm
  · rintro ⟨htype, hsubject, hexchange⟩
    rw [← hg, ← hg'] at htype
    rw [← hg] at hsubject hexchange
    cases grant with
    | clientCredentials =>
      cases grant' with
      | clientCredentials => rfl
      | onBehalfOf | tokenExchange => cases htype
    | onBehalfOf token =>
      cases grant' with
      | clientCredentials | tokenExchange => cases htype
      | onBehalfOf token' =>
        cases h.2.symm.trans ((hsubject nofun).trans h'.2)
        rfl
    | tokenExchange token exchange =>
      cases grant' with
      | clientCredentials | onBehalfOf => cases htype
      | tokenExchange token' exchange' =>
        cases h.2.1.symm.trans ((hsubject nofun).trans h'.2.1)
        cases h.2.2.symm.trans ((hexchange rfl).trans h'.2.2)
        rfl

structure ClientCredential.Suits (s : AuthSettings) (cr : ClientCredential) : Prop where
  clientId : cr.clientId = s.clientId
  method : cr.method = s.method
  secret : s.method ≠ .privateKeyJwt → some cr.material = s.secret.map .secret
  publicKey : s.method = .privateKeyJwt →
    some cr.material = s.publicKey?.map fun k => .publicKey k.1 (some k.2)

theorem ClientAuth.ofSettings_suits {s : AuthSettings} {a : ClientAuth}
    (h : ClientAuth.ofSettings s = .ok a) : a.credential.Suits s := by
  unfold ofSettings at h
  split at h
  · next hmethod hsecret =>
    cases h
    exact ⟨rfl, hmethod.symm, fun _ => by rw [hsecret]; rfl, fun hkey => nomatch hmethod.symm.trans hkey⟩
  · next hmethod hsecret =>
    cases h
    exact ⟨rfl, hmethod.symm, fun _ => by rw [hsecret]; rfl, fun hkey => nomatch hmethod.symm.trans hkey⟩
  · cases h
  · cases h
  · cases h
  · next k hmethod hk =>
    split at h
    · next key hkey =>
      cases h
      refine ⟨rfl, hmethod.symm, fun hne => absurd hmethod hne, fun _ => ?_⟩
      rw [AuthSettings.publicKey?, hk, Option.bind_some, hkey]
      rfl
    · cases h

theorem ClientCredential.Suits.eq_iff {s s' : AuthSettings} {cr cr' : ClientCredential}
    (h : cr.Suits s) (h' : cr'.Suits s') :
    cr = cr' ↔ s.clientId = s'.clientId ∧ s.method = s'.method ∧
      (s.method ≠ .privateKeyJwt → s.secret = s'.secret) ∧
      (s.method = .privateKeyJwt → s.publicKey? = s'.publicKey?) := by
  have hsecrets : Function.Injective CredentialMaterial.secret := by
    rintro x y ⟨⟩
    rfl
  have hkeys : Function.Injective
      fun k : Rsa.PublicKey × String => CredentialMaterial.publicKey k.1 (some k.2) := by
    rintro ⟨key, id⟩ ⟨key', id'⟩ ⟨⟩
    rfl
  constructor
  · rintro rfl
    have hmethod : s.method = s'.method := h.method.symm.trans h'.method
    refine ⟨h.clientId.symm.trans h'.clientId, hmethod, fun hne => ?_, fun heq => ?_⟩
    · have hne' : s'.method ≠ .privateKeyJwt := hmethod ▸ hne
      exact Option.map_injective hsecrets ((h.secret hne).symm.trans (h'.secret hne'))
    · have heq' : s'.method = .privateKeyJwt := hmethod ▸ heq
      exact Option.map_injective hkeys ((h.publicKey heq).symm.trans (h'.publicKey heq'))
  · rintro ⟨hid, hmethod, hsecret, hkey⟩
    have hmaterial : cr.material = cr'.material := by
      apply Option.some.inj
      by_cases heq : s.method = .privateKeyJwt
      · have heq' : s'.method = .privateKeyJwt := hmethod ▸ heq
        rw [h.publicKey heq, h'.publicKey heq', hkey heq]
      · have hne' : s'.method ≠ .privateKeyJwt := hmethod ▸ heq
        rw [h.secret heq, h'.secret hne', hsecret heq]
    cases cr with
    | mk id method material =>
      cases cr' with
      | mk id' method' material' =>
        cases hmaterial
        cases h.clientId.trans (hid.trans h'.clientId.symm)
        cases h.method.trans (hmethod.trans h'.method.symm)
        rfl

theorem Prepared.grantType {c : ClientSettings} {subject : Option String} {q : GrantRequest}
    (h : Prepared c subject q) : q.grant.grantType = c.grantType := by
  cases h with
  | mk url a grant hgrant hauth => exact (TokenService.grantFor_suits hgrant).grantType

/-- Calls are alike when they come to the same request. -/
theorem TokenCall.alike_iff {k k' : TokenCall} {q q' : GrantRequest} (h : k.Requests q)
    (h' : k'.Requests q') : k.Alike k' ↔ q = q' := by
  obtain ⟨hrequest, hprepared⟩ := h
  obtain ⟨hrequest', hprepared'⟩ := h'
  cases hprepared with
  | mk url a grant hgrant hauth =>
    cases hprepared' with
    | mk url' a' grant' hgrant' hauth' =>
      have hgrants := (TokenService.grantFor_suits hgrant).eq_iff (TokenService.grantFor_suits hgrant')
      have hcredentials :=
        (ClientAuth.ofSettings_suits hauth).eq_iff (ClientAuth.ofSettings_suits hauth')
      constructor
      · intro ha
        have hurl : url = url' := by
          have := ha.tokenUrl
          rw [hrequest, hrequest'] at this
          exact Option.some.inj this
        have hcredential := hcredentials.2 ⟨ha.clientId, ha.method, ha.secret, ha.publicKey⟩
        have hgrant := hgrants.2 ⟨ha.grantType, ha.subject, ha.exchange⟩
        rw [hurl, hcredential, ha.scope, hgrant]
      · intro hq
        simp only [GrantRequest.mk.injEq] at hq
        obtain ⟨hurl, hcredential, hscope, hgrant⟩ := hq
        obtain ⟨hid, hmethod, hsecret, hkey⟩ := hcredentials.1 hcredential
        obtain ⟨htype, hsubject, hexchange⟩ := hgrants.1 hgrant
        refine ⟨htype, ?_, hid, hmethod, hsecret, hkey, hscope, hsubject, hexchange⟩
        rw [hrequest, hrequest', hurl]
        rfl

end BearerTrust

import BearerTrust.Client.Grant
import Mathlib.Data.List.Nodup

namespace BearerTrust

def Grant.fieldNames : List String :=
  ["assertion", "requested_token_use", "subject_token", "subject_token_type", "audience", "resource"]

def ClientAuth.fieldNames : List String :=
  ["client_id", "client_secret", "client_assertion_type", "client_assertion"]

/-- The names of all fields that a token request may have, in their order. -/
def TokenRequest.fieldNames : List String :=
  "grant_type" :: ["scope"] ++ Grant.fieldNames ++ ClientAuth.fieldNames

theorem Grant.names_fields (g : Grant) : (g.fields.map Prod.fst).Sublist Grant.fieldNames := by
  match g with
  | clientCredentials => exact List.nil_sublist _
  | onBehalfOf assertion =>
    change ["assertion", "requested_token_use"].Sublist _
    decide
  | tokenExchange token ⟨audience, none, type⟩ =>
    change ["subject_token", "subject_token_type", "audience"].Sublist _
    decide
  | tokenExchange token ⟨audience, some resource, type⟩ =>
    change ["subject_token", "subject_token_type", "audience", "resource"].Sublist _
    decide

theorem ClientAuth.names_formFields (a : ClientAuth) (url : Url) (now : Seconds) (nonce : Bytes) :
    ((a.formFields url now nonce).map Prod.fst).Sublist ClientAuth.fieldNames := by
  cases a with
  | secretBasic id secret => exact List.nil_sublist _
  | secretPost id secret =>
    change ["client_id", "client_secret"].Sublist _
    decide
  | privateKeyJwt id k =>
    change ["client_id", "client_assertion_type", "client_assertion"].Sublist _
    decide

namespace GrantRequest

variable (q : GrantRequest) (a : ClientAuth) (now : Seconds) (nonce : Bytes)

theorem scopeFields_eq : q.scopeFields =
    if q.scope ≠ [] ∧ q.grant.sendsScope then [("scope", String.intercalate " " q.scope)] else [] := by
  simp [scopeFields]

theorem names_scopeFields : (q.scopeFields.map Prod.fst).Sublist ["scope"] := by
  unfold scopeFields
  split
  · exact List.Sublist.refl _
  · exact List.nil_sublist _

theorem names_form : (q.form.map Prod.fst).Sublist ("grant_type" :: ["scope"] ++ Grant.fieldNames) := by
  rw [form, List.map_append, List.map_cons]
  exact (q.names_scopeFields.cons_cons _).append q.grant.names_fields

theorem form_tokenRequest :
    (q.tokenRequest a now nonce).form = q.form ++ a.formFields q.tokenUrl now nonce := rfl

theorem basic_tokenRequest : (q.tokenRequest a now nonce).basic = a.basicCredentials? := by
  cases a with
  | secretBasic | secretPost | privateKeyJwt => rfl

theorem names_tokenRequest : ((q.tokenRequest a now nonce).form.map Prod.fst).Nodup := by
  have hnames : TokenRequest.fieldNames.Nodup := by decide
  refine List.Nodup.sublist ?_ hnames
  rw [form_tokenRequest, List.map_append]
  exact q.names_form.append (a.names_formFields _ _ _)

theorem prefix_tokenRequest : q.form <+: (q.tokenRequest a now nonce).form :=
  List.prefix_append _ _

end GrantRequest

namespace TokenRequest

theorem param?_eq_some_iff {r : TokenRequest} (h : (r.form.map Prod.fst).Nodup) {name v : String} :
    r.param? name = some v ↔ (name, v) ∈ r.form := by
  rw [param?, List.lookup_eq_some_iff]
  constructor
  · rintro ⟨before, after, hform, -⟩
    rw [hform]
    exact List.mem_append_right _ List.mem_cons_self
  · intro hmem
    obtain ⟨before, after, hform⟩ := List.append_of_mem hmem
    refine ⟨before, after, hform, fun e he => bne_iff_ne.2 ?_⟩
    rintro rfl
    rw [hform, List.map_append, List.map_cons] at h
    exact List.disjoint_of_nodup_append h (List.mem_map_of_mem he) List.mem_cons_self

def grant? (r : TokenRequest) : Option Grant := do
  match ← r.param? "grant_type" >>= GrantType.ofText? with
  | .clientCredentials => some .clientCredentials
  | .jwtBearer => (r.param? "assertion").map .onBehalfOf
  | .tokenExchange =>
    let token ← r.param? "subject_token"
    let subjectTokenType ← r.param? "subject_token_type"
    let audience ← r.param? "audience"
    some (.tokenExchange token { audience, resource := r.param? "resource", subjectTokenType })

def scope? (r : TokenRequest) : Option String := r.param? "scope"

/-- The client and its secret, from the header or else from the form. -/
def credential? (r : TokenRequest) : Option ClientCredential :=
  match r.basic with
  | some (id, secret) => some ⟨id, .secretBasic, .secret secret⟩
  | none => do
    let id ← r.param? "client_id"
    let secret ← r.param? "client_secret"
    some ⟨id, .secretPost, .secret secret⟩

end TokenRequest

theorem lookup_eq_none {form : List (String × String)} {name : String} (h : name ∉ form.map Prod.fst) :
    form.lookup name = none := by
  rw [List.lookup_eq_none_iff]
  intro e he
  exact bne_iff_ne.2 fun hname => h (hname ▸ List.mem_map_of_mem he)

namespace GrantRequest

variable (q : GrantRequest) (a : ClientAuth) (now : Seconds) (nonce : Bytes)

theorem param?_tokenRequest (name : String) : (q.tokenRequest a now nonce).param? name =
    (q.form.lookup name).or ((a.formFields q.tokenUrl now nonce).lookup name) := by
  rw [TokenRequest.param?, form_tokenRequest, List.lookup_append]

theorem param?_grantType :
    (q.tokenRequest a now nonce).param? "grant_type" = some q.grant.grantType.text := by
  rw [param?_tokenRequest, form, List.cons_append, List.lookup_cons_self, Option.some_or]

variable {name : String}

theorem param?_of_grant (h : name ∈ Grant.fieldNames) :
    (q.tokenRequest a now nonce).param? name = q.grant.fields.lookup name := by
  -- Fields before and after those of the grant have other names, so a lookup passes over them.
  have hseparate : ∀ n ∈ Grant.fieldNames, n ∉ "grant_type" :: ["scope"] ∧
      n ∉ ClientAuth.fieldNames := by
    decide
  obtain ⟨hscope, hauth⟩ := hseparate name h
  have hbefore : (("grant_type", q.grant.grantType.text) :: q.scopeFields).lookup name = none := by
    apply lookup_eq_none
    intro hmem
    exact hscope ((q.names_scopeFields.cons_cons _).subset hmem)
  have hafter : (a.formFields q.tokenUrl now nonce).lookup name = none :=
    lookup_eq_none fun hmem => hauth ((a.names_formFields _ _ _).subset hmem)
  rw [param?_tokenRequest, form, List.lookup_append, hbefore, hafter, Option.or_none, Option.none_or]

theorem param?_of_auth (h : name ∈ ClientAuth.fieldNames) :
    (q.tokenRequest a now nonce).param? name = (a.formFields q.tokenUrl now nonce).lookup name := by
  have hseparate : ∀ n ∈ ClientAuth.fieldNames, n ∉ "grant_type" :: ["scope"] ++ Grant.fieldNames := by
    decide
  have hform : q.form.lookup name = none :=
    lookup_eq_none fun hmem => hseparate name h (q.names_form.subset hmem)
  rw [param?_tokenRequest, hform, Option.none_or]

theorem grant?_tokenRequest : (q.tokenRequest a now nonce).grant? = some q.grant := by
  have hread {n : String} (hn : n ∈ Grant.fieldNames) := q.param?_of_grant a now nonce hn
  unfold TokenRequest.grant?
  rw [param?_grantType, hread (by decide), hread (by decide), hread (by decide), hread (by decide),
    hread (by decide)]
  match hg : q.grant with
  | .clientCredentials => rfl
  | .onBehalfOf assertion => rfl
  | .tokenExchange token ⟨audience, none, type⟩ => rfl
  | .tokenExchange token ⟨audience, some resource, type⟩ => rfl

theorem scope?_tokenRequest : (q.tokenRequest a now nonce).scope? =
    if q.scope ≠ [] ∧ q.grant.sendsScope then some (String.intercalate " " q.scope) else none := by
  have hseparate : "scope" ∉ Grant.fieldNames ∧ "scope" ∉ ClientAuth.fieldNames := by decide
  have hgrant : q.grant.fields.lookup "scope" = none :=
    lookup_eq_none fun hmem => hseparate.1 (q.grant.names_fields.subset hmem)
  have hauth : (a.formFields q.tokenUrl now nonce).lookup "scope" = none :=
    lookup_eq_none fun hmem => hseparate.2 ((a.names_formFields _ _ _).subset hmem)
  have hform : q.form.lookup "scope" = q.scopeFields.lookup "scope" := by
    rw [form, List.lookup_append, hgrant, Option.or_none]
    rfl
  rw [TokenRequest.scope?, param?_tokenRequest, hform, hauth, Option.or_none, scopeFields_eq]
  split
  · exact List.lookup_cons_self
  · rfl

theorem credential?_tokenRequest (ha : a.method ≠ .privateKeyJwt) :
    (q.tokenRequest a now nonce).credential? = some a.credential := by
  have hread {n : String} (hn : n ∈ ClientAuth.fieldNames) := q.param?_of_auth a now nonce hn
  unfold TokenRequest.credential?
  rw [basic_tokenRequest, hread (by decide), hread (by decide)]
  cases a with
  | secretBasic id secret => rfl
  | secretPost id secret => rfl
  | privateKeyJwt id k => exact absurd rfl ha

end GrantRequest

namespace ClientAuth

variable {a a' : ClientAuth}

theorem eq_of_credential (h : a.credential = a'.credential) (ha : a.method ≠ .privateKeyJwt) : a = a' := by
  cases a with
  | privateKeyJwt id k => exact absurd rfl ha
  | secretBasic id secret =>
    cases a' with
    | secretBasic id' secret' => cases h; rfl
    | secretPost | privateKeyJwt => cases h
  | secretPost id secret =>
    cases a' with
    | secretPost id' secret' => cases h; rfl
    | secretBasic | privateKeyJwt => cases h

theorem formFields_of_secret (ha : a.method ≠ .privateKeyJwt) (url : Url) (now now' : Seconds)
    (nonce nonce' : Bytes) : a.formFields url now nonce = a.formFields url now' nonce' := by
  cases a with
  | privateKeyJwt id k => exact absurd rfl ha
  | secretBasic | secretPost => rfl

end ClientAuth

namespace GrantRequest

/-- Two requests are the same, but perhaps for how the scope is split. A grant that sends no scope may
have any. -/
structure SameOnWire (q q' : GrantRequest) : Prop where
  tokenUrl : q.tokenUrl = q'.tokenUrl
  credential : q.credential = q'.credential
  grant : q.grant = q'.grant
  scope : q.grant.sendsScope = true →
    (q.scope = [] ↔ q'.scope = []) ∧ String.intercalate " " q.scope = String.intercalate " " q'.scope

variable {q q' : GrantRequest} {a a' : ClientAuth}

theorem SameOnWire.refl (q : GrantRequest) : q.SameOnWire q := ⟨rfl, rfl, rfl, fun _ => ⟨.rfl, rfl⟩⟩

theorem SameOnWire.form_eq (h : q.SameOnWire q') : q.form = q'.form := by
  have hscope : q.scopeFields = q'.scopeFields := by
    rw [scopeFields_eq, scopeFields_eq, ← h.grant]
    by_cases hs : q.grant.sendsScope = true
    · obtain ⟨hempty, htext⟩ := h.scope hs
      rw [htext]
      exact if_congr (and_congr_left' (not_congr hempty)) rfl rfl
    · rw [if_neg fun hsent => hs hsent.2, if_neg fun hsent => hs hsent.2]
  rw [form, form, hscope, h.grant]

theorem SameOnWire.tokenRequest_eq (h : q.SameOnWire q') (hq : q.credential = a.credential)
    (hq' : q'.credential = a'.credential) (ha : a.method ≠ .privateKeyJwt) (now now' : Seconds)
    (nonce nonce' : Bytes) : q.tokenRequest a now nonce = q'.tokenRequest a' now' nonce' := by
  obtain rfl : a = a' := ClientAuth.eq_of_credential (hq.symm.trans (h.credential.trans hq')) ha
  rw [tokenRequest, tokenRequest, ClientAuth.apply, ClientAuth.apply, h.form_eq, h.tokenUrl,
    a.formFields_of_secret ha q'.tokenUrl now now' nonce nonce']

theorem SameOnWire.of_tokenRequest_eq {now now' : Seconds} {nonce nonce' : Bytes}
    (hq : q.credential = a.credential) (hq' : q'.credential = a'.credential)
    (ha : a.method ≠ .privateKeyJwt) (ha' : a'.method ≠ .privateKeyJwt)
    (h : q.tokenRequest a now nonce = q'.tokenRequest a' now' nonce') : q.SameOnWire q' := by
  have hgrant : q.grant = q'.grant := by
    have := q.grant?_tokenRequest a now nonce
    rw [h, grant?_tokenRequest] at this
    exact (Option.some.inj this).symm
  have hcredential : a.credential = a'.credential := by
    have := q.credential?_tokenRequest a now nonce ha
    rw [h, credential?_tokenRequest _ _ _ _ ha'] at this
    exact (Option.some.inj this).symm
  refine ⟨congrArg TokenRequest.url h, hq.trans (hcredential.trans hq'.symm), hgrant, fun hs => ?_⟩
  have hscope := q.scope?_tokenRequest a now nonce
  rw [h, scope?_tokenRequest, ← hgrant] at hscope
  simp only [hs, and_true] at hscope
  by_cases he : q.scope = []
  · by_cases he' : q'.scope = []
    · rw [he, he']
      exact ⟨.rfl, rfl⟩
    · rw [if_pos he', if_neg (not_not_intro he)] at hscope
      cases hscope
  · by_cases he' : q'.scope = []
    · rw [if_neg (not_not_intro he'), if_pos he] at hscope
      cases hscope
    · rw [if_pos he', if_pos he] at hscope
      exact ⟨iff_of_false he he', (Option.some.inj hscope).symm⟩

/-- Of clients with secrets, equal grant requests make equal token requests, at any times, and equal token
requests come from grant requests that are the same but for how the scope is split. In a token request of
any client no field occurs twice, and the fields of the grant come first as they are. -/
theorem tokenRequest_determined :
    (∀ (q q' : GrantRequest) (a a' : ClientAuth) (now now' : Seconds) (nonce nonce' : Bytes),
      q.credential = a.credential → q'.credential = a'.credential →
      a.method ≠ .privateKeyJwt → a'.method ≠ .privateKeyJwt →
      (q = q' → q.tokenRequest a now nonce = q'.tokenRequest a' now' nonce') ∧
      (q.tokenRequest a now nonce = q'.tokenRequest a' now' nonce' ↔ q.SameOnWire q')) ∧
    ∀ (q : GrantRequest) (a : ClientAuth) (now : Seconds) (nonce : Bytes),
      ((q.tokenRequest a now nonce).form.map Prod.fst).Nodup ∧
        q.form <+: (q.tokenRequest a now nonce).form := by
  refine ⟨?_, fun q a now nonce => ⟨q.names_tokenRequest a now nonce, q.prefix_tokenRequest a now nonce⟩⟩
  intro q q' a a' now now' nonce nonce' hq hq' ha ha'
  refine ⟨?_, SameOnWire.of_tokenRequest_eq hq hq' ha ha', fun h => ?_⟩
  · rintro rfl
    exact (SameOnWire.refl q).tokenRequest_eq hq hq' ha now now' nonce nonce'
  · exact h.tokenRequest_eq hq hq' ha now now' nonce nonce'

end GrantRequest

namespace Sample

def poster : ClientAuth := .secretPost "id" "secret"

def callerRequest (scope : List String) : GrantRequest where
  tokenUrl := { scheme := "https", path := .segments ["token"] }
  credential := poster.credential
  scope := scope
  grant := .onBehalfOf "caller"

theorem tokenRequest_determined_split :
    callerRequest ["a", "b"] ≠ callerRequest ["a b"] ∧
    (callerRequest ["a", "b"]).credential = poster.credential ∧ poster.method ≠ .privateKeyJwt ∧
    (callerRequest ["a", "b"]).SameOnWire (callerRequest ["a b"]) ∧
    (callerRequest ["a", "b"]).tokenRequest poster 0 [] =
      (callerRequest ["a b"]).tokenRequest poster 60 [1] ∧
    (callerRequest []).tokenRequest poster 0 [] ≠ (callerRequest [""]).tokenRequest poster 0 [] := by
  have hcredential (scope : List String) : (callerRequest scope).credential = poster.credential := rfl
  have hmethod : poster.method ≠ .privateKeyJwt := by decide
  have hscopes : (callerRequest ["a", "b"]).SameOnWire (callerRequest ["a b"]) :=
    ⟨rfl, rfl, rfl, fun _ => ⟨by decide, by decide⟩⟩
  have hempty : ¬(callerRequest []).SameOnWire (callerRequest [""]) := by
    intro h
    have hscope : [""] = ([] : List String) := (h.scope rfl).1.1 rfl
    cases hscope
  have hdetermined (scope scope' : List String) (now : Seconds) (nonce : Bytes) :=
    (GrantRequest.tokenRequest_determined.1 (callerRequest scope) (callerRequest scope') poster poster 0
      now [] nonce (hcredential scope) (hcredential scope') hmethod hmethod).2
  exact ⟨by decide, hcredential _, hmethod, hscopes, (hdetermined _ _ 60 [1]).2 hscopes,
    fun h => hempty ((hdetermined _ _ 0 []).1 h)⟩

end Sample
end BearerTrust

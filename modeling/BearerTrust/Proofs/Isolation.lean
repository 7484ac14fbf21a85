import BearerTrust.Proofs.Completeness

namespace BearerTrust

variable {σ τ : Type}

namespace TrustedIssuer

/-- Validates tokens of the issuer one after another. The last one that is accepted is kept. -/
def validateTokens (web : Retriever σ) (i : TrustedIssuer) (now : Seconds) (instant : Instant) :
    List String → Option Token → KeyState σ → Except Abort (Option Token × KeyState σ)
  | [], kept, st => .ok (kept, st)
  | token :: tokens, kept, st => do
    let (result, st) ← i.validator.validate web now instant token st
    validateTokens web i now instant tokens (result.toOption <|> kept) st

theorem validateTokens_append (web : Retriever σ) (i : TrustedIssuer) (now : Seconds)
    (instant : Instant) (tokens more : List String) (kept : Option Token) (st : KeyState σ) :
    i.validateTokens web now instant (tokens ++ more) kept st =
      i.validateTokens web now instant tokens kept st >>= fun x =>
        i.validateTokens web now instant more x.1 x.2 := by
  induction tokens generalizing kept st with
  | nil => rfl
  | cons token tokens ih =>
    rw [List.cons_append, validateTokens, validateTokens, bind_assoc]
    congr 1
    funext x
    exact ih _ _

end TrustedIssuer

namespace Registry

def tokensFor (i : TrustedIssuer) (cs : List Candidate) : List String :=
  (cs.filter fun c => c.shortName = i.shortName).map Candidate.token

theorem tokensFor_cons_of_own {i : TrustedIssuer} {c : Candidate} (h : c.shortName = i.shortName)
    (cs : List Candidate) : tokensFor i (c :: cs) = c.token :: tokensFor i cs := by
  simp [tokensFor, h]

theorem tokensFor_cons_of_other {i : TrustedIssuer} {c : Candidate} (h : c.shortName ≠ i.shortName)
    (cs : List Candidate) : tokensFor i (c :: cs) = tokensFor i cs := by
  simp [tokensFor, h]

theorem tokensFor_append (i : TrustedIssuer) (cs ds : List Candidate) :
    tokensFor i (cs ++ ds) = tokensFor i cs ++ tokensFor i ds := by
  simp only [tokensFor, List.filter_append, List.map_append]

/-- No other issuer has its keys in the same place. -/
structure Alone (r : Registry) (i : TrustedIssuer) : Prop where
  registered : i ∈ r.issuers
  alone : ∀ j ∈ r.issuers, j.jwksUrl = i.jwksUrl → j = i

def Follows (web : Retriever σ) (i : TrustedIssuer) (answers : Nat → Except RetrievalError Bytes)
    (w : σ) (n : Nat) : Prop :=
  web.Serves i.jwksUrl (fun k => answers (n + k)) w

variable {web : Retriever σ} {r : Registry} {i : TrustedIssuer} {now : Seconds} {instant : Instant}
  {answers : Nat → Except RetrievalError Bytes} {c : Candidate} {st st' : TrustState σ}
  {k : KeyState Nat} {o : Option (Except TokenError Token)}

theorem validateCandidate_other (hi : r.Alone i) (hc : c.shortName ≠ i.shortName)
    (h : (st.keys i.shortName).Alike (Follows web i answers) k)
    (hr : r.validateCandidate web now instant c st = .ok (o, st')) :
    (st'.keys i.shortName).Alike (Follows web i answers) k := by
  cases hn : r.byShortName? c.shortName with
  | none =>
    rw [validateCandidate_unknown hn] at hr
    cases hr
    exact h
  | some j =>
    obtain ⟨hj, hname⟩ := mem_of_byShortName? hn
    have hurl : j.jwksUrl ≠ i.jwksUrl := by
      intro hurl
      rw [hi.alone j hj hurl] at hname
      exact hc hname.symm
    rw [validateCandidate_known hn] at hr
    obtain ⟨⟨result, k'⟩, hv, hr⟩ := map_eq_ok_iff.1 hr
    cases hr
    refine ⟨?_, ?_⟩
    · rw [← h.stored]
      exact st.get?_withKeys_of_ne (Ne.symm hc) k'
    · have hP (w : σ) (hw : Follows web i answers w k.web) :
          Follows web i answers (web.retrieve j.validator.keys.jwksUrl w).2 k.web :=
        hw.other hurl
      have hw : Follows web i answers (st.keys c.shortName).web k.web := h.web
      change Follows web i answers k'.web k.web
      exact Validator.validate_web (P := fun w => Follows web i answers w k.web) hP hv hw

theorem token?_keep_other (ctx : Context) (hc : c.shortName ≠ i.shortName) :
    (keep ctx c o).token? i.shortName = ctx.token? i.shortName := by
  match o with
  | none => rfl
  | some (.error e) => rfl
  | some (.ok t) => exact Context.token?_insert_of_ne (Ne.symm hc) t ctx

theorem validateCandidate_own (hi : i ∈ r.issuers) (hc : c.shortName = i.shortName)
    (h : (st.keys i.shortName).Alike (Follows web i answers) k) :
    Lockstep (fun x y => x.1 = some y.1 ∧ (x.2.keys i.shortName).Alike (Follows web i answers) y.2)
      (r.validateCandidate web now instant c st)
      (i.validator.validate (.script answers) now instant c.token k) := by
  have hn : r.byShortName? c.shortName = some i := by rw [hc]; exact byShortName?_of_mem hi
  have hR : web.Mirrors (Follows web i answers) (.script answers) i.validator.keys.jwksUrl :=
    web.script_mirrors i.jwksUrl answers
  rw [validateCandidate_known hn, hc]
  refine (Validator.validate_alike hR h now instant c.token).map_left ?_
  rintro ⟨result, s⟩ ⟨result', k'⟩ ⟨rfl, hs⟩
  refine ⟨rfl, ?_⟩
  rw [st.keys_withKeys_self]
  exact hs

theorem token?_keep_own (ctx : Context) (hc : c.shortName = i.shortName)
    (result : Except TokenError Token) :
    (keep ctx c (some result)).token? i.shortName =
      (result.toOption <|> ctx.token? i.shortName) := by
  rw [← hc]
  cases result with
  | error e => rfl
  | ok t => exact Context.token?_insert_self _ t ctx

theorem validateAll_alone (hi : r.Alone i) {cs : List Candidate} {ctx ctx' : Context}
    (h : (st.keys i.shortName).Alike (Follows web i answers) k)
    (hr : r.validateAll web now instant cs ctx st = .ok (ctx', st')) :
    ∃ k', i.validateTokens (.script answers) now instant (tokensFor i cs)
        (ctx.token? i.shortName) k = .ok (ctx'.token? i.shortName, k') ∧
      (st'.keys i.shortName).Alike (Follows web i answers) k' := by
  induction cs generalizing ctx st k with
  | nil => cases hr; exact ⟨k, rfl, h⟩
  | cons c cs ih =>
    rw [validateAll_cons] at hr
    obtain ⟨⟨o, st₁⟩, hc, hr⟩ := bind_eq_ok_iff.1 hr
    by_cases hown : c.shortName = i.shortName
    · obtain ⟨⟨result, k₁⟩, hv, ho, h₁⟩ := (validateCandidate_own hi.registered hown h).left hc
      obtain rfl : o = some result := ho
      obtain ⟨k₂, hk₂, h₂⟩ := ih h₁ hr
      refine ⟨k₂, ?_, h₂⟩
      rw [token?_keep_own ctx hown] at hk₂
      rw [tokensFor_cons_of_own hown, TrustedIssuer.validateTokens, hv]
      exact hk₂
    · have h₁ := validateCandidate_other hi hown h hc
      obtain ⟨k₂, hk₂, h₂⟩ := ih h₁ hr
      rw [token?_keep_other ctx hown] at hk₂
      rw [tokensFor_cons_of_other hown]
      exact ⟨k₂, hk₂, h₂⟩

theorem validateAll_alone_overruns (hi : r.Alone i) {before : List Candidate}
    (after : List Candidate) {ctx mid : Context}
    (h : (st.keys i.shortName).Alike (Follows web i answers) k)
    (hr : r.validateAll web now instant before ctx st = .ok (mid, st'))
    (ho : r.Overruns web instant st' c) (hc : c.shortName = i.shortName) :
    i.validateTokens (.script answers) now instant (tokensFor i (before ++ c :: after))
      (ctx.token? i.shortName) k = .error .instantOverflow := by
  obtain ⟨k', hk', h'⟩ := validateAll_alone hi h hr
  have herror : r.validateCandidate web now instant c st' = .error .instantOverflow :=
    validateCandidate_eq_error_iff.2 ⟨rfl, ho⟩
  have hv : i.validator.validate (.script answers) now instant c.token k' =
      .error .instantOverflow :=
    (validateCandidate_own hi.registered hc h').left_error herror
  rw [tokensFor_append, tokensFor_cons_of_own hc, TrustedIssuer.validateTokens_append, hk']
  change i.validateTokens _ now instant (c.token :: tokensFor i after) _ k' = _
  rw [TrustedIssuer.validateTokens, hv]
  rfl

/-- How a run looks to an issuer: its tokens, what is stored for it, and what its place answers. -/
structure Looks (web : Retriever σ) (r : Registry) (q : Request) (st : TrustState σ)
    (i : TrustedIssuer) (tokens : List String) (stored : Option StoredKeys)
    (answers : Nat → Except RetrievalError Bytes) : Prop where
  alone : r.Alone i
  tokens_eq : tokensFor i (r.candidates q) = tokens
  stored_eq : (st.keys i.shortName).stored = stored
  serves : web.Serves i.jwksUrl answers st.web

theorem Looks.alike {q : Request} {tokens : List String} {stored : Option StoredKeys}
    (h : r.Looks web q st i tokens stored answers) :
    (st.keys i.shortName).Alike (Follows web i answers) ⟨stored, 0⟩ := by
  have hweb : Follows web i answers st.web 0 := by
    simpa only [Follows, Nat.zero_add] using h.serves
  exact ⟨h.stored_eq, hweb⟩

theorem Looks.validateTokens {q : Request} {tokens : List String} {stored : Option StoredKeys}
    (h : r.Looks web q st i tokens stored answers) {ctx : Context}
    (hr : r.validate web now instant q st = .ok (ctx, st')) :
    ∃ k, i.validateTokens (.script answers) now instant tokens none ⟨stored, 0⟩ =
      .ok (ctx.token? i.shortName, k) := by
  obtain ⟨k, hk, -⟩ := validateAll_alone h.alone h.alike hr
  rw [h.tokens_eq] at hk
  exact ⟨k, hk⟩

/-- Two runs that look alike to an issuer keep the same token for it, whatever differs for others.
If only one of them ends with a context, the other one was stopped by a candidate of another issuer,
which had to store a set that would expire past the clock's range. -/
theorem validate_isolated {web₁ : Retriever σ} {web₂ : Retriever τ} {r₁ r₂ : Registry}
    {q₁ q₂ : Request} {st₁ : TrustState σ} {st₂ : TrustState τ} {tokens : List String}
    {stored : Option StoredKeys} (h₁ : r₁.Looks web₁ q₁ st₁ i tokens stored answers)
    (h₂ : r₂.Looks web₂ q₂ st₂ i tokens stored answers) (now : Seconds) (instant : Instant)
    {ctx₁ : Context} {st₁' : TrustState σ}
    (hr₁ : r₁.validate web₁ now instant q₁ st₁ = .ok (ctx₁, st₁')) :
    (∀ ctx₂ st₂', r₂.validate web₂ now instant q₂ st₂ = .ok (ctx₂, st₂') →
      ctx₁.token? i.shortName = ctx₂.token? i.shortName) ∧
    ∀ a, r₂.validate web₂ now instant q₂ st₂ = .error a ↔ a = .instantOverflow ∧
      ∃ before c after mid st, r₂.candidates q₂ = before ++ c :: after ∧
        r₂.validateAll web₂ now instant before {} st₂ = .ok (mid, st) ∧
        r₂.Overruns web₂ instant st c ∧ c.shortName ≠ i.shortName := by
  obtain ⟨k₁, hk₁⟩ := h₁.validateTokens hr₁
  refine ⟨fun ctx₂ st₂' hr₂ => ?_, fun a => ?_⟩
  · obtain ⟨k₂, hk₂⟩ := h₂.validateTokens hr₂
    exact congrArg Prod.fst (Except.ok.inj (hk₁.symm.trans hk₂))
  · rw [validate, validateAll_eq_error_iff]
    refine and_congr_right fun _ => ⟨?_, ?_⟩
    · rintro ⟨before, c, after, mid, st, hq, hb, ho⟩
      refine ⟨before, c, after, mid, st, hq, hb, ho, fun hc => ?_⟩
      have hown := validateAll_alone_overruns h₂.alone after h₂.alike hb ho hc
      rw [← hq, h₂.tokens_eq] at hown
      change i.validateTokens _ now instant tokens none _ = _ at hown
      rw [hk₁] at hown
      cases hown
    · rintro ⟨before, c, after, mid, st, hq, hb, ho, -⟩
      exact ⟨before, c, after, mid, st, hq, hb, ho⟩

end Registry

namespace Sample

def otherIssuer : TrustedIssuer where
  shortName := "b"
  settings := { discoveryUrl := otherPlace, cookieName := some "t", validation := .legacy ["iss"] }
  metadata := ⟨"b", otherPlace, none⟩

def registries : Registry := ⟨[otherIssuer, issuer], by decide, by decide⟩

def web : Retriever Unit :=
  ⟨fun url _ => (if url = place then .ok document else .error (.requestSend url), ())⟩

theorem registries_candidates :
    registries.candidates request = [⟨"b", token.encoded⟩, ⟨"a", token.encoded⟩] := by
  rw [Registry.candidates, request_header, registries, List.flatMap_cons, List.flatMap_singleton,
    ofCookies_request rfl, ofCookies_request rfl]
  rfl

theorem registry_looks : registry.Looks (.constant (.ok document)) request ⟨[], ()⟩ issuer
    [token.encoded] none (fun _ => .ok document) := by
  refine ⟨⟨List.mem_singleton_self _, fun j hj _ => List.mem_singleton.1 hj⟩, ?_, rfl, fun _ => rfl⟩
  rw [request_candidates]
  rfl

theorem looks_beside {r : Registry} {web : Retriever Unit} {other : TrustedIssuer}
    (hr : r.issuers = [other, issuer]) (hurl : other.jwksUrl ≠ issuer.jwksUrl)
    (hq : r.candidates request = [⟨"b", token.encoded⟩, ⟨"a", token.encoded⟩])
    (hweb : ∀ w, (web.retrieve place w).1 = .ok document) :
    r.Looks web request ⟨[], ()⟩ issuer [token.encoded] none (fun _ => .ok document) := by
  refine ⟨⟨?_, ?_⟩, ?_, rfl, fun _ => hweb _⟩
  · rw [hr]
    exact List.mem_cons_of_mem _ (List.mem_singleton_self _)
  · intro j hj hj'
    rw [hr] at hj
    rcases List.mem_cons.1 hj with rfl | hj
    · exact absurd hj' hurl
    · exact List.mem_singleton.1 hj
  · rw [hq]
    rfl

theorem validate_isolated_cookie :
    registry.Looks (.constant (.ok document)) request ⟨[], ()⟩ issuer [token.encoded] none
        (fun _ => .ok document) ∧
      registries.Looks web request ⟨[], ()⟩ issuer [token.encoded] none (fun _ => .ok document) ∧
      ∃ ctx st, registries.validate web 0 0 request ⟨[], ()⟩ = .ok (ctx, st) ∧
        ctx.token? "a" = some token := by
  have h₂ : registries.Looks web request ⟨[], ()⟩ issuer [token.encoded] none
      (fun _ => .ok document) :=
    looks_beside rfl (by decide) registries_candidates fun _ => rfl
  have hcache : ∀ i ∈ registries.issuers, i.validator.keys.cache = none := by decide
  obtain ⟨hsame, herror⟩ := Registry.validate_isolated registry_looks h₂ 0 0 registry_validate
  refine ⟨registry_looks, h₂, ?_⟩
  cases hr : registries.validate web 0 0 request ⟨[], ()⟩ with
  | error a =>
    obtain ⟨-, _, _, _, _, _, -, -, ⟨i, _, hn, -, _, _, hc, -⟩, -⟩ := (herror a).1 hr
    rw [hcache i (Registry.mem_of_byShortName? hn).1] at hc
    cases hc
  | ok x => exact ⟨x.1, x.2, rfl, (hsame x.1 x.2 hr).symm⟩

/-- The token is lost next to an issuer whose candidate overruns. -/
theorem isolation_ends_at_overrun :
    registry.Looks (.constant (.ok document)) request ⟨[], ()⟩ issuer [token.encoded] none
        (fun _ => .ok document) ∧
      hoarders.Looks (.constant (.ok document)) request ⟨[], ()⟩ issuer [token.encoded] none
        (fun _ => .ok document) ∧
      registry.validate (.constant (.ok document)) 0 0 request ⟨[], ()⟩ =
        .ok (⟨[("a", token)]⟩, ⟨[], ()⟩) ∧
      hoarders.validate (.constant (.ok document)) 0 0 request ⟨[], ()⟩ = .error .instantOverflow :=
  ⟨registry_looks, looks_beside rfl (by decide) hoarders_candidates fun _ => rfl, registry_validate,
    hoarders_validate⟩

end Sample
end BearerTrust

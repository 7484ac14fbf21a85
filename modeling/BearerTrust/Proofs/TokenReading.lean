import BearerTrust.Proofs.ClaimDecision
import BearerTrust.Proofs.Soundness
import Mathlib.Data.List.Basic

namespace BearerTrust

theorem splitLastDot_eq_some {cs before after : List Char}
    (h : splitLastDot cs = some (before, after)) : cs = before ++ '.' :: after ∧ '.' ∉ after := by
  unfold splitLastDot at h
  cases hdrop : cs.reverse.dropWhile (· != '.') with
  | nil => rw [hdrop] at h; cases h
  | cons x r =>
    rw [hdrop] at h
    cases h
    have hne : cs.reverse.dropWhile (· != '.') ≠ [] := by simp [hdrop]
    obtain rfl : x = '.' := by simpa [hdrop] using List.head_dropWhile_not (· != '.') hne
    constructor
    · have hall : cs.reverse.takeWhile (· != '.') ++ '.' :: r = cs.reverse := by
        rw [← hdrop]
        exact List.takeWhile_append_dropWhile
      have hreverse := congrArg List.reverse hall
      rw [List.reverse_append, List.reverse_cons, List.reverse_reverse, List.append_assoc] at hreverse
      exact hreverse.symm
    · intro hmem
      have := List.all_eq_true.1 List.all_takeWhile '.' (List.mem_reverse.1 hmem)
      simp at this

theorem Text.Base64.not_mem_of_decode? {a : Text.Base64.Alphabet} {c : Char} (hc : a.value? c = none)
    {cs : List Char} {bs : Bytes} (h : Text.Base64.decode? a cs = some bs) : c ∉ cs := by
  have hvalues : ∀ vs, cs.mapM a.value? = some vs → c ∉ cs := by
    clear h
    induction cs with
    | nil => simp
    | cons d cs ih =>
      intro vs hvs
      simp only [List.mapM_cons, Option.bind_eq_bind, Option.bind_eq_some_iff] at hvs
      obtain ⟨v, hv, vs', hvs', -⟩ := hvs
      refine List.not_mem_cons_of_ne_of_not_mem ?_ (ih vs' hvs')
      rintro rfl
      rw [hc] at hv
      cases hv
  simp only [decode?, Option.bind_eq_bind, Option.bind_eq_some_iff] at h
  obtain ⟨vs, hvs, -⟩ := h
  exact hvalues vs hvs

namespace Compact

variable {token : String} {c : Compact}

theorem splitOn_of_parse (h : parse token = .ok c) :
    ∃ header signature, token.toList.splitOn '.' = [header, c.payload, signature] := by
  unfold parse at h
  split at h
  · cases h
  · next signed signature hlast =>
    split at h
    · cases h
    · next header payload hfirst =>
      split at h
      · cases h
      · next bs hheader =>
        split at h
        · cases h
        · split at h
          · cases h
          · cases h
            obtain ⟨htoken, hsignature⟩ := splitLastDot_eq_some hlast
            obtain ⟨hsigned, hpayload⟩ := splitLastDot_eq_some hfirst
            have hdot : '.' ∉ header := Text.Base64.not_mem_of_decode? (by decide) hheader
            refine ⟨header, signature, ?_⟩
            rw [htoken, hsigned, List.append_assoc, List.cons_append,
              List.splitOn_append_cons_self_of_not_mem hdot,
              List.splitOn_append_cons_self_of_not_mem hpayload, List.splitOn_eq_singleton hsignature]

theorem claims_eq_ok {claims : Claims} : c.claims = .ok claims ↔
    ∃ ms, Text.Base64.decode? Text.Base64.urlSafe c.payload >>= Json.parse? = some (.object ms) ∧
      Claims.ofMembers ms = .ok claims := by
  unfold Compact.claims
  split
  · next ms hms =>
    rw [hms]
    cases hclaims : Claims.ofMembers ms with
    | ok claims' => simp [hclaims]
    | error e => simp [hclaims]
  · next hms =>
    refine iff_of_false nofun ?_
    rintro ⟨ms, hms', -⟩
    exact hms ms hms'

/-- Of a token that can be taken apart, both readers read the same claims, or neither reads any. -/
theorem peek_iff (h : parse token = .ok c) (claims : Claims) :
    Claims.peek token = .ok claims ↔ c.claims = .ok claims := by
  obtain ⟨header, signature, hsplit⟩ := splitOn_of_parse h
  rw [claims_eq_ok]
  unfold Claims.peek
  rw [hsplit]
  dsimp only
  split
  · next ms hms => simp [hms]
  · next hms =>
    refine iff_of_false nofun ?_
    rintro ⟨ms, hms', -⟩
    exact hms ms hms'

end Compact

theorem Claims.has_issuer {c : Compact} {claims : Claims} {s : String} (h : c.claims = .ok claims)
    (hs : claims.issuer = some s) : claims.Has "iss" := by
  obtain ⟨ms, -, hms⟩ := Compact.claims_eq_ok.1 h
  obtain ⟨-, hiss, -, -, -, -, rfl⟩ := Claims.ofMembers_eq_ok hms
  exact ⟨.string s, (Claims.textClaim_eq_some_iff hiss s).1 hs, nofun⟩

def TokenError.IsOfClaims : TokenError → Prop
  | .missingClaim _ | .issuerMismatch _ _ | .expired | .notYetValid _ | .audienceMismatch => True
  | .malformed _ | .algorithmNotAccepted _ | .keySource _ | .unknownKey | .signatureInvalid => False

inductive TokenError.IsOfIssuer : TokenError → Prop
  | missing : IsOfIssuer (.missingClaim "iss")
  | mismatch (expected : String) (found : Option String) : IsOfIssuer (.issuerMismatch expected found)

theorem TokenError.IsOfIssuer.isOfClaims {e : TokenError} (h : e.IsOfIssuer) : e.IsOfClaims := by
  cases h <;> trivial

namespace ClaimChecks

def issuer : ClaimChecks → String
  | .default v => v.issuer
  | .legacy v => v.issuer

def demands : ClaimChecks → List Demand
  | .default v => v.demands
  | .legacy v => v.demands

variable {c : Claims} {now : Seconds} {v : ClaimChecks}

theorem check_decides (v : ClaimChecks) : Decides c now v.demands (v.check c now) := by
  cases v with
  | default v => exact v.check_decides
  | legacy v => exact v.check_decides

theorem issuer_of_mem_demands {s : String} (h : .issuedBy s ∈ v.demands) : s = v.issuer := by
  cases v with
  | default v => simpa [demands, DefaultChecks.demands, issuer] using h
  | legacy v => simpa [demands, LegacyChecks.demands, issuer] using h

theorem check_not_isOfIssuer {e : TokenError} (hissuer : c.issuer = some v.issuer) (hiss : c.Has "iss")
    (h : v.check c now = .error e) : ¬e.IsOfIssuer := by
  obtain ⟨before, d, after, hds, -, hunmet, rfl⟩ := (v.check_decides.error_iff e).1 h
  have hmem : d ∈ v.demands := by simp [hds]
  intro he
  generalize hd : d.error c = e at he
  cases he with
  | missing =>
    cases d with
    | present name =>
      cases hd
      exact hunmet hiss
    | audienceNamed => exact absurd (TokenError.missingClaim.inj hd) (by decide)
    | issuedBy | unexpired | issued | begun | audienceAccepted => cases hd
  | mismatch expected found =>
    cases d with
    | issuedBy s =>
      obtain rfl : s = v.issuer := issuer_of_mem_demands hmem
      exact hunmet hissuer
    | present | audienceNamed | unexpired | issued | begun | audienceAccepted => cases hd

end ClaimChecks

namespace Validator

variable {σ : Type} {web : Retriever σ} {v : Validator} {now : Seconds} {instant : Instant}
  {token : String} {st st' : KeyState σ}

theorem conclude_eq_error {c : Compact} {found : Except KeySourceError (Option Jwk)} {e : TokenError}
    (h : v.conclude now token c found = .error e) (he : e.IsOfClaims) :
    ∃ claims, c.claims = .ok claims ∧ v.checks.check claims now = .error e := by
  match found with
  | .error k => cases h; exact he.elim
  | .ok none => cases h; exact he.elim
  | .ok (some k) =>
    rcases bind_eq_error_iff.1 h with hv | ⟨claims, hv, h⟩
    · unfold verify at hv
      split at hv
      · split at hv
        · cases hv
        · cases hv; exact he.elim
      · cases hv; exact he.elim
    · have hclaims : c.claims = .ok claims := by
        unfold verify at hv
        split at hv
        · split at hv
          · next d hd => cases hv; exact hd
          · cases hv
        · cases hv
      rcases bind_eq_error_iff.1 h with h | ⟨_, -, h⟩
      · exact ⟨claims, hclaims, h⟩
      · cases h

theorem validate_eq_error {e : TokenError}
    (h : v.validate web now instant token st = .ok (.error e, st')) (he : e.IsOfClaims) :
    ∃ c claims, Compact.parse token = .ok c ∧ c.claims = .ok claims ∧
      v.checks.check claims now = .error e := by
  cases hc : parse token with
  | error f =>
    rw [validate_of_parse_error hc] at h
    cases h
    unfold parse at hc
    split at hc
    · cases hc; exact he.elim
    · split at hc
      · cases hc
      · cases hc; exact he.elim
  | ok c =>
    rw [validate_of_parse hc] at h
    obtain ⟨⟨found, st₁⟩, -, h⟩ := map_eq_ok_iff.1 h
    obtain ⟨claims, hclaims, hcheck⟩ := conclude_eq_error (congrArg Prod.fst h) he
    exact ⟨c, claims, (parse_eq_ok hc).1, hclaims, hcheck⟩

theorem peek_of_validate {t : Token} (h : v.validate web now instant token st = .ok (.ok t, st')) :
    Claims.peek token = .ok t.claims ∧ t.encoded = token := by
  cases hc : parse token with
  | error e =>
    rw [validate_of_parse_error hc] at h
    cases h
  | ok c =>
    rw [validate_of_parse hc] at h
    obtain ⟨⟨found, st₁⟩, -, h⟩ := map_eq_ok_iff.1 h
    obtain ⟨-, -, -, hclaims, -, henc⟩ := conclude_eq_ok (congrArg Prod.fst h)
    exact ⟨(Compact.peek_iff (parse_eq_ok hc).1 _).2 hclaims, henc⟩

theorem not_isOfIssuer_of_peek {claims : Claims} {e : TokenError}
    (hpeek : Claims.peek token = .ok claims) (hissuer : claims.issuer = some v.checks.issuer)
    (h : v.validate web now instant token st = .ok (.error e, st')) : ¬e.IsOfIssuer := by
  intro he
  obtain ⟨c, claims', hparse, hclaims, hcheck⟩ := validate_eq_error h he.isOfClaims
  obtain rfl : claims = claims' :=
    Except.ok.inj (hpeek.symm.trans ((Compact.peek_iff hparse claims').2 hclaims))
  exact ClaimChecks.check_not_isOfIssuer hissuer (Claims.has_issuer hclaims hissuer) hcheck he

end Validator

theorem TrustedIssuer.checks_issuer (i : TrustedIssuer) : i.validator.checks.issuer = i.identifier := by
  simp only [validator, claimChecks]
  cases i.settings.validation <;> rfl

namespace Registry

variable {σ : Type} {r : Registry} {c : Candidate}

theorem mem_ofHeader {text : String} (h : c ∈ r.ofHeader text) :
    ∃ i claims, r.byShortName? c.shortName = some i ∧ Claims.peek c.token = .ok claims ∧
      claims.issuer = some i.identifier := by
  obtain ⟨credential, -, h⟩ := List.mem_filterMap.1 h
  obtain ⟨token, -, h⟩ := Option.bind_eq_some_iff.1 h
  simp only [route?, Option.bind_eq_bind, Option.bind_eq_some_iff] at h
  obtain ⟨claims, hpeek, s, hissuer, i, hi, h⟩ := h
  cases h
  have hmem : i ∈ r.issuers := List.mem_of_find?_eq_some hi
  have hs : i.identifier = s := by simpa using List.find?_some hi
  refine ⟨i, claims, byShortName?_of_mem hmem, ?_, by rw [hissuer, hs]⟩
  cases hp : Claims.peek token with
  | error e => rw [hp] at hpeek; cases hpeek
  | ok claims' => rw [hp] at hpeek; cases hpeek; rfl

/-- Whatever keys are found and whatever is asked of the claims: a token that is accepted carries the
claims that were read from it before it was verified. So a token in a header, which went to the issuer
that these claims name, may be refused by its validator, but never for its issuer. -/
theorem readers_agree :
    (∀ (web : Retriever σ) (v : Validator) (now : Seconds) (instant : Instant) (token : String)
      (st st' : KeyState σ) (t : Token), v.validate web now instant token st = .ok (.ok t, st') →
        Claims.peek token = .ok t.claims ∧ t.encoded = token) ∧
    ∀ (r : Registry) (text : String) (c : Candidate), c ∈ r.ofHeader text →
      ∃ i, r.byShortName? c.shortName = some i ∧ ∀ (web : Retriever σ) (now : Seconds)
        (instant : Instant) (st st' : KeyState σ) (e : TokenError),
        i.validator.validate web now instant c.token st = .ok (.error e, st') →
          (∀ expected found, e ≠ .issuerMismatch expected found) ∧ e ≠ .missingClaim "iss" := by
  refine ⟨fun web v now instant token st st' t h => Validator.peek_of_validate h, ?_⟩
  intro r text c hc
  obtain ⟨i, claims, hi, hpeek, hissuer⟩ := mem_ofHeader hc
  refine ⟨i, hi, fun web now instant st st' e h => ?_⟩
  have he : ¬e.IsOfIssuer :=
    Validator.not_isOfIssuer_of_peek hpeek (by rw [hissuer, i.checks_issuer]) h
  constructor
  · rintro expected found rfl
    exact he (.mismatch expected found)
  · rintro rfl
    exact he .missing

end Registry

namespace Sample

def header : String := String.ofList ("Bearer ".toList ++ letters)

def stricter : TrustedIssuer where
  shortName := "s"
  settings := { discoveryUrl := place, validation := .legacy ["iss", "sub"] }
  metadata := ⟨"a", place, none⟩

def stricterRegistry : Registry := ⟨[stricter], by decide, by decide⟩

theorem token_peek : Claims.peek token.encoded = .ok token.claims := by
  obtain ⟨-, -, -, hclaims, -⟩ := Validator.conclude_eq_ok token_accepted
  exact (Compact.peek_iff (Validator.parse_eq_ok token_parse).1 _).2 hclaims

theorem ofHeader_bearer {r : Registry} {cs scheme text : List Char} {c : Candidate}
    (hsplit : cs.splitOn ',' = [cs]) (htrim : Text.trim cs = cs)
    (hcut : ClaimRequirement.cut? ' ' cs = some (scheme, text))
    (hscheme : Text.sameUpToCase (String.ofList scheme) "bearer" = true) (htext : Text.trim text = text)
    (hroute : r.route? (String.ofList text) = some c) : r.ofHeader (String.ofList cs) = [c] := by
  have hcredential : r.ofCredential? cs = some c := by
    simp only [Registry.ofCredential?, Registry.bearer?, htrim, hcut, hscheme, htext,
      Option.bind_eq_bind, Option.bind_some, if_true, hroute]
  rw [Registry.ofHeader, String.toList_ofList, hsplit, List.filterMap_cons_some hcredential,
    List.filterMap_nil]

set_option maxRecDepth 10000 in
theorem header_candidates : stricterRegistry.ofHeader header = [⟨"s", token.encoded⟩] := by
  have hroute : stricterRegistry.route? token.encoded = some ⟨"s", token.encoded⟩ := by
    rw [Registry.route?, token_peek]
    rfl
  have hcut : ClaimRequirement.cut? ' ' ("Bearer ".toList ++ letters) =
      some ("Bearer".toList, letters) := by
    decide +kernel
  exact ofHeader_bearer (by decide +kernel) (by decide +kernel) hcut (by decide) (by decide +kernel)
    hroute

theorem stricter_conclude : stricter.validator.conclude 0 token.encoded compact (.ok (some key)) =
    .error (.missingClaim "sub") := by
  obtain ⟨k, hk, hverifies, hclaims, -⟩ := Validator.conclude_eq_ok token_accepted
  cases hk
  simp only [Validator.conclude, Validator.verify, hverifies, hclaims, if_true]
  rfl

theorem readers_agree_stricter :
    (issuer.validator.validate (.constant (.ok document)) 0 0 token.encoded ⟨none, ()⟩ =
        .ok (.ok token, ⟨none, ()⟩) ∧ Claims.peek token.encoded = .ok token.claims) ∧
      (⟨"s", token.encoded⟩ ∈ stricterRegistry.ofHeader header ∧
        stricter.validator.validate (.constant (.ok document)) 0 0 token.encoded ⟨none, ()⟩ =
          .ok (.error (.missingClaim "sub"), ⟨none, ()⟩) ∧
        TokenError.missingClaim "sub" ≠ .missingClaim "iss") := by
  have hvalidate {v : Validator} (hcache : v.keys.cache = none) (st : KeyState Unit) :
      v.validate (.constant (.ok document)) 0 0 token.encoded st =
        .ok (v.conclude 0 token.encoded compact (.ok (some key)), st) :=
    validate_constant hcache token_parse (readAnswer_ok document_keys) key_chosen st
  have haccepted := hvalidate (v := issuer.validator) rfl ⟨none, ()⟩
  rw [token_accepted] at haccepted
  have hrefused := hvalidate (v := stricter.validator) rfl ⟨none, ()⟩
  rw [stricter_conclude] at hrefused
  have hmem : ⟨"s", token.encoded⟩ ∈ stricterRegistry.ofHeader header := by
    rw [header_candidates]
    exact List.mem_singleton_self _
  obtain ⟨hread, hrouted⟩ := Registry.readers_agree (σ := Unit)
  obtain ⟨i, hi, herrors⟩ := hrouted stricterRegistry header _ hmem
  obtain rfl : stricter = i := Option.some.inj hi
  exact ⟨⟨haccepted, (hread _ _ _ _ _ _ _ _ haccepted).1⟩, hmem, hrefused,
    (herrors _ _ _ _ _ _ hrefused).2⟩

end Sample
end BearerTrust

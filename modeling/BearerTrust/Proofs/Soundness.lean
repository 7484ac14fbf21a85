import BearerTrust.Proofs.ClaimDecision
import BearerTrust.Proofs.PipelineRun

namespace BearerTrust

open KeySource (Origin Owned)

variable {σ : Type}

namespace Validator

variable {web : Retriever σ} {v : Validator} {now : Seconds} {instant : Instant} {token : String}
  {st st' : KeyState σ} {result : Except TokenError Token}

theorem validate_owned {Own : KeySet → σ → Prop} (hOwn : Origin web v.keys.jwksUrl Own)
    (hst : Owned Own st) (h : v.validate web now instant token st = .ok (result, st')) :
    Owned Own st' ∧ ∀ t, result = .ok t → t.encoded = token ∧
      v.checks.check t.claims now = .ok () ∧ ∃ c ks k, Compact.parse token = .ok c ∧
      c.header.algorithm = .rs256 ∧ Own ks st'.web ∧ ks.choose c.header.keyId .rs256 = some k ∧
      k.key.verifies c.message c.signature = true ∧ c.claims = .ok t.claims := by
  cases hc : parse token with
  | error e =>
    rw [validate_of_parse_error hc] at h
    cases h
    exact ⟨hst, fun t ht => nomatch ht⟩
  | ok c =>
    obtain ⟨⟨found, st₁⟩, hk, h⟩ := bind_eq_ok_iff.1 ((validate_of_parse hc st).symm.trans h)
    cases h
    obtain ⟨hst', hfound⟩ := KeySource.verificationKey_owned hOwn hst hk
    obtain ⟨hparse, halg⟩ := parse_eq_ok hc
    refine ⟨hst', fun t ht => ?_⟩
    obtain ⟨k, hf, hver, hclaims, hcheck, henc⟩ := conclude_eq_ok ht
    obtain ⟨ks, hks, hch⟩ := hfound k hf
    rw [halg] at hch
    exact ⟨henc, hcheck, c, ks, k, hparse, halg, hks, hch, hver, hclaims⟩

end Validator

namespace TrustedIssuer

def requiredClaims (i : TrustedIssuer) : List String :=
  match i.settings.validation with
  | .default => ["sub", "aud", "iss", "iat", "exp", "nbf"].filter (· ∉ i.optionalClaims)
  | .legacy names => names

structure Passes (i : TrustedIssuer) (c : Claims) (now : Seconds) : Prop where
  issuer : c.issuer = some i.identifier
  required : ∀ name ∈ i.requiredClaims, c.Has name
  inTime : c.InTime now i.settings.clockSkewSecs
  audience : i.settings.validation = .default →
    ("aud" ∈ i.optionalClaims ∧ i.acceptedAudiences = []) ∨
    (∃ a ∈ c.audience, a ∈ i.acceptedAudiences) ∨ (c.audience = [] ∧ "aud" ∈ i.optionalClaims)

/-- An issuer stands by a token at a time, given what was asked and answered so far: a key in a set
that the issuer's place answered with verifies the token, and its claims pass. -/
structure Vouches (i : TrustedIssuer) (es : Exchanges) (now : Seconds) (t : Token) : Prop where
  signed : ∃ c ks k, Compact.parse t.encoded = .ok c ∧ c.header.algorithm = .rs256 ∧
    es.Hold i.jwksUrl ks ∧ ks.choose c.header.keyId .rs256 = some k ∧
    k.key.verifies c.message c.signature = true ∧ c.claims = .ok t.claims
  passes : i.Passes t.claims now

theorem passes_of_check {i : TrustedIssuer} {c : Claims} {now : Seconds}
    (h : i.validator.checks.check c now = .ok ()) : i.Passes c now := by
  cases hv : i.settings.validation with
  | default =>
    simp only [validator, claimChecks, hv] at h
    obtain ⟨hp, hi, ht, ha⟩ := (DefaultChecks.check_ok_iff _).1 h
    refine ⟨hi, fun name hname => ?_, ht, fun _ => ha⟩
    simp only [requiredClaims, hv] at hname
    obtain ⟨hname, ho⟩ := List.mem_filter.1 hname
    exact hp name hname (of_decide_eq_true ho)
  | legacy names =>
    simp only [validator, claimChecks, hv] at h
    obtain ⟨hp, hi, ht⟩ := (LegacyChecks.check_ok_iff _).1 h
    refine ⟨hi, fun name hname => ?_, ht, fun hd => ?_⟩
    · simp only [requiredClaims, hv] at hname
      exact hp name hname
    · rw [hv] at hd; cases hd

end TrustedIssuer

namespace Exchanges

theorem Hold.mono {es fs : Exchanges} {url : Url} {ks : KeySet} (h : es.Hold url ks)
    (hsub : es ⊆ fs) : fs.Hold url ks := by
  obtain ⟨body, hb, hk⟩ := h
  exact ⟨body, hsub hb, hk⟩

theorem recording_origin (web : Retriever σ) (url : Url) :
    Origin web.recording url fun ks w => Hold w.2 url ks where
  kept ks s h := h.mono (List.subset_append_left _ _)
  answered ks s h := by
    change KeySource.readAnswer (web.retrieve url s.1).1 = .ok ks at h
    obtain ⟨body, hbody, hk⟩ := KeySource.readAnswer_eq_ok_iff.1 h
    exact ⟨body, List.mem_append_right _ (by simp [hbody]), hk⟩

end Exchanges

namespace TrustState

variable {r : Registry} {st st' : TrustState (σ × Exchanges)}

/-- Every set that is stored for an issuer was an answer of the issuer's place. -/
def Sourced (r : Registry) (st : TrustState (σ × Exchanges)) : Prop :=
  ∀ i ∈ r.issuers, Owned (fun ks w => w.2.Hold i.jwksUrl ks) (st.keys i.shortName)

theorem Sourced.withKeys {i : TrustedIssuer} (h : st.Sourced r) (hi : i ∈ r.issuers)
    {k : KeyState (σ × Exchanges)} (hk : Owned (fun ks w => w.2.Hold i.jwksUrl ks) k)
    (hsub : st.web.2 ⊆ k.web.2) : (st.withKeys i.shortName k).Sourced r := by
  -- Records only grow, so what was an answer before the step is one after it.
  have hgrown : ∀ j ∈ r.issuers, ∀ c, (st.keys j.shortName).stored = some c →
      k.web.2.Hold j.jwksUrl c.keys :=
    fun j hj c hc => (h j hj c hc).mono hsub
  exact Registry.forall_stored_withKeys
    (Q := fun j stored => ∀ c, stored = some c → k.web.2.Hold j.jwksUrl c.keys) hi hk hgrown

end TrustState

namespace Registry

variable {web : Retriever σ} {r : Registry} {now : Seconds} {instant : Instant} {c : Candidate}
  {st st' : TrustState (σ × Exchanges)}

theorem recording_subset (es : Exchanges) (url : Url) (w : σ × Exchanges) (h : es ⊆ w.2) :
    es ⊆ (web.recording.retrieve url w).2.2 :=
  List.Subset.trans h (List.subset_append_left _ _)

theorem validateCandidate_sourced (h : st.Sourced r) {o : Option (Except TokenError Token)}
    (hc : r.validateCandidate web.recording now instant c st = .ok (o, st')) :
    st'.Sourced r ∧ st.web.2 ⊆ st'.web.2 ∧ ∀ t, o = some (.ok t) → t.encoded = c.token ∧
      ∃ i ∈ r.issuers, i.shortName = c.shortName ∧ i.Vouches st'.web.2 now t := by
  cases hn : r.byShortName? c.shortName with
  | none =>
    rw [validateCandidate_unknown hn] at hc
    cases hc
    exact ⟨h, List.Subset.refl _, fun t ht => nomatch ht⟩
  | some i =>
    obtain ⟨hi, hname⟩ := mem_of_byShortName? hn
    rw [validateCandidate_known hn] at hc
    obtain ⟨⟨result, k⟩, hv, hc⟩ := bind_eq_ok_iff.1 hc
    cases hc
    rw [← hname] at hv
    have hsub : st.web.2 ⊆ k.web.2 :=
      Validator.validate_web (recording_subset st.web.2 _) hv (List.Subset.refl _)
    obtain ⟨hk, haccepted⟩ :=
      Validator.validate_owned (Exchanges.recording_origin web i.jwksUrl) (h i hi) hv
    refine ⟨?_, hsub, ?_⟩
    · rw [← hname]
      exact h.withKeys hi hk hsub
    · rintro t ⟨⟩
      obtain ⟨henc, hcheck, c', ks, key, hparse, halg, hks, hch, hver, hclaims⟩ := haccepted t rfl
      rw [← henc] at hparse
      exact ⟨henc, i, hi, hname, ⟨c', ks, key, hparse, halg, hks, hch, hver, hclaims⟩,
        TrustedIssuer.passes_of_check hcheck⟩

theorem validateAll_sourced {cs : List Candidate} {ctx ctx' : Context} (h : st.Sourced r)
    (hr : r.validateAll web.recording now instant cs ctx st = .ok (ctx', st')) :
    st'.Sourced r ∧ st.web.2 ⊆ st'.web.2 := by
  refine validateAll_invariant (P := fun _ w => w.Sourced r ∧ st.web.2 ⊆ w.web.2) ?_ hr
    ⟨h, List.Subset.refl _⟩
  rintro c o _ w w' ⟨hw, hsub⟩ hc
  obtain ⟨hw', hsub', -⟩ := validateCandidate_sourced hw hc
  exact ⟨hw', List.Subset.trans hsub hsub'⟩

end Registry

/-- The states in which a request may find the issuers of a registry. When the registry is built
nothing is stored; since then the web may have moved on, candidates may have been validated and stored
sets refreshed, in any order and at any times. -/
inductive Reached (web : Retriever σ) (r : Registry) : TrustState (σ × Exchanges) → Prop
  | built (w : σ) : Reached web r ⟨[], (w, [])⟩
  | moved {st : TrustState (σ × Exchanges)} (w : σ) :
      Reached web r st → Reached web r ⟨st.stored, (w, st.web.2)⟩
  | validated {st st' : TrustState (σ × Exchanges)} {now : Seconds} {instant : Instant}
      {c : Candidate} {o : Option (Except TokenError Token)} : Reached web r st →
      r.validateCandidate web.recording now instant c st = .ok (o, st') → Reached web r st'
  | refreshed {st : TrustState (σ × Exchanges)} {i : TrustedIssuer} {instant : Instant}
      {a : Except KeySourceError Unit} {k : KeyState (σ × Exchanges)} : Reached web r st →
      i ∈ r.issuers →
      i.validator.keys.refreshAhead web.recording instant (st.keys i.shortName) = .ok (a, k) →
      Reached web r (st.withKeys i.shortName k)

theorem Reached.sourced {web : Retriever σ} {r : Registry} {st : TrustState (σ × Exchanges)}
    (h : Reached web r st) : st.Sourced r := by
  induction h with
  | built w => exact fun i _ c hc => nomatch hc
  | moved w _ ih => exact fun i hi c hc => ih i hi c hc
  | validated _ hc ih => exact (Registry.validateCandidate_sourced ih hc).1
  | @refreshed st i _ _ _ _ hi hk ih =>
    refine ih.withKeys hi ?_ ?_
    · exact KeySource.refreshAhead_owned (Exchanges.recording_origin web i.jwksUrl) (ih i hi) hk
    · exact KeySource.refreshAhead_web (Registry.recording_subset st.web.2 _) hk (List.Subset.refl _)

namespace Registry

theorem validateAll_recording {web : Retriever σ} {r : Registry} {now : Seconds} {instant : Instant}
    {st : TrustState (σ × Exchanges)} {cs : List Candidate} {ctx ctx' : Context} {st' : TrustState σ}
    (h : r.validateAll web now instant cs ctx st.unrecorded = .ok (ctx', st')) :
    ∃ es, r.validateAll web.recording now instant cs ctx st =
      .ok (ctx', ⟨st'.stored, (st'.web, es)⟩) := by
  have hst : TrustState.Alike (fun w (v : σ × Exchanges) => w = v.1) st.unrecorded st :=
    ⟨rfl, rfl⟩
  obtain ⟨⟨ctx'', stored, w, es⟩, hrec, rfl, hstored, hweb⟩ :=
    (validateAll_alike web.recording_mirrors cs ctx hst).left h
  obtain rfl : st'.stored = stored := hstored
  obtain rfl : st'.web = w := hweb
  exact ⟨es, hrec⟩

theorem validateCandidate_encoded {web : Retriever σ} {r : Registry} {now : Seconds}
    {instant : Instant} {c : Candidate} {st st' : TrustState σ} {t : Token}
    (h : r.validateCandidate web now instant c st = .ok (some (.ok t), st')) :
    t.encoded = c.token := by
  cases hn : r.byShortName? c.shortName with
  | none => rw [validateCandidate_unknown hn] at h; cases h
  | some i =>
    rw [validateCandidate_known hn] at h
    obtain ⟨⟨result, k⟩, hv, h⟩ := bind_eq_ok_iff.1 h
    cases h
    have htrivial : Origin web i.validator.keys.jwksUrl fun _ _ => True :=
      ⟨fun _ _ _ => trivial, fun _ _ _ => trivial⟩
    exact ((Validator.validate_owned htrivial (fun _ _ => trivial) hv).2 t rfl).1

/-- The issuer that a token is kept under stands by it, by what was asked and answered since the
registry was built. The token was among those that the request carries for this issuer, and was
accepted at its turn. No two tokens that are kept have the same issuer. -/
theorem validate_vouched {web : Retriever σ} {r : Registry} {st : TrustState (σ × Exchanges)}
    (hst : Reached web r st) {now : Seconds} {instant : Instant} {q : Request} {ctx : Context}
    {st' : TrustState σ}
    (h : r.validate web now instant q st.unrecorded = .ok (ctx, st')) :
    ∃ es, r.validate web.recording now instant q st = .ok (ctx, ⟨st'.stored, (st'.web, es)⟩) ∧
      (∀ n t, (n, t) ∈ ctx.tokens →
        (∃ i ∈ r.issuers, i.shortName = n ∧ i.Vouches es now t) ∧
        ∃ before after mid st₁ st₂, r.candidates q = before ++ ⟨n, t.encoded⟩ :: after ∧
          r.validateAll web now instant before {} st.unrecorded = .ok (mid, st₁) ∧
          r.validateCandidate web now instant ⟨n, t.encoded⟩ st₁ = .ok (some (.ok t), st₂)) ∧
      (ctx.tokens.map fun e => e.2.claims.issuer).Nodup := by
  obtain ⟨es, hrec⟩ := validateAll_recording h
  have hvouched : ∀ n t, (n, t) ∈ ctx.tokens →
      ∃ i ∈ r.issuers, i.shortName = n ∧ i.Vouches es now t := by
    intro n t ht
    obtain hnone | ⟨before, c, after, mid, st₁, st₂, -, hn, hb, hc, ha⟩ := validateAll_mem hrec ht
    · cases hnone
    · obtain ⟨h₁, -⟩ := validateAll_sourced hst.sourced hb
      obtain ⟨h₂, -, haccepted⟩ := validateCandidate_sourced h₁ hc
      obtain ⟨-, hsub⟩ := validateAll_sourced h₂ ha
      obtain ⟨-, i, hi, hname, hsigned, hpasses⟩ := haccepted t rfl
      obtain ⟨c', ks, k, hparse, halg, hks, hk⟩ := hsigned
      exact ⟨i, hi, hname.trans hn, ⟨c', ks, k, hparse, halg, hks.mono hsub, hk⟩, hpasses⟩
  refine ⟨es, hrec, fun n t ht => ⟨hvouched n t ht, ?_⟩, ?_⟩
  · obtain hnone | ⟨before, c, after, mid, st₁, st₂, hq, hn, hb, hc, -⟩ := validateAll_mem h ht
    · cases hnone
    · obtain rfl : c = ⟨n, t.encoded⟩ := by
        rw [validateCandidate_encoded hc, ← hn]
      exact ⟨before, after, mid, st₁, st₂, hq, hb, hc⟩
  · -- No two issuers share an identifier, so equal `iss` claims mean one short name, hence one entry.
    have hnodup : ctx.issuers.Nodup := validateAll_nodup h .nil
    refine List.Nodup.map_on ?_ (List.Nodup.of_map _ hnodup)
    rintro ⟨n, t⟩ ht ⟨m, u⟩ hu heq
    obtain ⟨i, hi, rfl, hit⟩ := hvouched n t ht
    obtain ⟨j, hj, rfl, hju⟩ := hvouched m u hu
    have hident : i.identifier = j.identifier :=
      Option.some.inj (hit.passes.issuer.symm.trans (heq.trans hju.passes.issuer))
    refine List.inj_on_of_nodup_map hnodup ht hu ?_
    rw [identifier_injective hi hj hident]

end Registry

namespace Sample

-- The cube of the signature in `compact` is the padded digest of what is signed, modulo this number.
def modulus : Bytes :=
  0xd7 :: 0xfe :: (List.replicate 202 0 ++
    [255, 207, 206, 207, 242, 249, 246, 159, 121, 183, 254, 154, 252, 251, 253, 254, 250, 255, 251,
      223, 48, 200, 2, 69, 37, 16, 39, 141, 26, 179, 155, 225, 220, 191, 254, 152, 237, 169, 214, 195,
      230, 92, 54, 55, 185, 204, 165, 86, 199, 163, 51, 156])

def key : Jwk := { key := ⟨modulus, [3]⟩ }

def octets (cs : List Char) : Bytes := cs.map fun c => c.toNat.toUInt8

def modulusLetters : List Char :=
  "1_4".toList ++ List.replicate 269 'A' ++
    "_8_Oz_L59p95t_6a_Pv9_vr_-98wyAJFJRAnjRqzm-Hcv_6Y7anWw-ZcNje5zKVWx6MznA".toList

def document : Bytes :=
  octets "[[\x7b\"kty\":\"RSA\",\"e\":\"Aw\",\"n\":\"".toList ++ octets modulusLetters ++
    octets "\"\x7d]]".toList

def compact : Compact where
  header := ⟨.rs256, none⟩
  signed := "eyJhbGciOiJSUzI1NiJ9.eyJpc3MiOiJhIn0".toList
  payload := "eyJpc3MiOiJhIn0".toList
  signature := List.replicate 170 0 ++ 6 :: List.replicate 85 0

def letters : List Char :=
  compact.signed ++ '.' :: Text.Base64.encode Text.Base64.urlSafe compact.signature

def token : Token :=
  ⟨String.ofList letters, ⟨some "a", none, [], none, none, none, [("iss", .string "a")]⟩⟩

def place : Url := { scheme := "https", path := .segments [""] }

def issuer : TrustedIssuer where
  shortName := "a"
  settings := { discoveryUrl := place, cookieName := some "t", validation := .legacy ["iss"] }
  metadata := ⟨"a", place, none⟩

def registry : Registry := ⟨[issuer], by decide, by decide⟩

def request : Request := ⟨[("cookie", octets ('t' :: '=' :: letters))]⟩

def entry (id : Option (List Char)) (n : List Char) : Json.Written :=
  .object ((id.toList.map fun k => (octets ['k', 'i', 'd'], .string (octets k))) ++
    [(octets ['k', 't', 'y'], .string (octets ['R', 'S', 'A'])),
      (octets ['e'], .string (octets ['A', 'w'])), (octets ['n'], .string (octets n))])

theorem ofEntry?_entry {depth : Nat} {id : Option (List Char)} {n : List Char} {m : Bytes}
    (hid : ∀ k, id = some k → Json.readString (octets k) = some (String.ofList k))
    (hn : Json.readString (octets n) = some (String.ofList n))
    (hm : Text.Base64.decode? Text.Base64.urlSafe n = some m) (hl : ¬m.length < Jwk.leastModulus) :
    Jwk.ofEntry? depth (entry id n) = some (some { id := id.map String.ofList, key := ⟨m, [3]⟩ }) := by
  have hs : Json.readString (octets ['k', 't', 'y']) = some "kty" ∧
      Json.readString (octets ['R', 'S', 'A']) = some "RSA" ∧
      Json.readString (octets ['e']) = some "e" ∧ Json.readString (octets ['A', 'w']) = some "Aw" ∧
      Json.readString (octets ['n']) = some "n" ∧ Json.readString (octets ['k', 'i', 'd']) = some "kid" := by
    decide +kernel
  obtain ⟨hkty, hRSA, he, hAw, hname, hkid⟩ := hs
  have hexp : Text.Base64.decode? Text.Base64.urlSafe ['A', 'w'] = some [3] := by decide +kernel
  cases id with
  | none =>
    simp [entry, Jwk.ofEntry?, Json.ofWrittenMembers?, Json.ofWritten?, hn, hkty, hRSA, he, hAw, hname,
      Jwk.label?, Jwk.ofLabels?, Jwk.use?, Jwk.algorithm?, Jwk.single?, Jwk.octets?, Json.asString?,
      Text.Base64.decodeUrl?, hm, hexp, hl]
  | some k =>
    simp [entry, Jwk.ofEntry?, Json.ofWrittenMembers?, Json.ofWritten?, hn, hkty, hRSA, he, hAw, hname, hkid,
      hid k rfl, Jwk.label?, Jwk.ofLabels?, Jwk.use?, Jwk.algorithm?, Jwk.single?, Jwk.octets?,
      Json.asString?, Text.Base64.decodeUrl?, hm, hexp, hl]

theorem readString_octets {cs : List Char}
    (h : Json.unescape [] (octets cs) = some (Text.utf8 (String.ofList cs))) :
    Json.readString (octets cs) = some (String.ofList cs) := by
  rw [Json.readString, h, Option.bind_eq_bind, Option.bind_some, Text.ofUtf8?_utf8]

set_option maxRecDepth 10000 in
theorem modulusLetters_read :
    Json.readString (octets modulusLetters) = some (String.ofList modulusLetters) :=
  readString_octets (by decide +kernel)

set_option maxRecDepth 10000 in
theorem modulusLetters_decode :
    Text.Base64.decode? Text.Base64.urlSafe modulusLetters = some modulus := by
  decide +kernel

set_option maxRecDepth 10000 in
theorem ofEntry?_key (depth : Nat) : Jwk.ofEntry? depth (entry none modulusLetters) = some (some key) :=
  ofEntry?_entry nofun modulusLetters_read modulusLetters_decode (by decide +kernel)

-- A step of its own, so that no text is scanned again where the entries are looked at.
theorem parse?_of_shape {bs : Bytes} {ws : List Json.Written} {ks : KeySet}
    (hshape : Json.Written.parse? bs = some (.array [.array ws]))
    (h : ws.mapM (Jwk.ofEntry? (Json.deepest - 3)) = some (ks.map some)) : KeySet.parse? bs = some ks := by
  simp [KeySet.parse?, hshape, KeySet.entries?, h]

set_option maxRecDepth 10000 in
theorem document_keys : KeySet.parse? document = some [key] := by
  have hshape : Json.Written.parse? document = some (.array [.array [entry none modulusLetters]]) := by cbv
  exact parse?_of_shape hshape (by simp [ofEntry?_key])

theorem cookies_singleton {cs : List Char}
    (htext : (octets ('t' :: '=' :: cs)).all Request.isTextByte = true)
    (hchars : (octets ('t' :: '=' :: cs)).map (fun b => Char.ofNat b.toNat) = 't' :: '=' :: cs)
    (hsplit : ('t' :: '=' :: cs).splitOn ';' = ['t' :: '=' :: cs])
    (hvalue : Request.unquote (Text.trim cs) = cs) :
    Request.cookies ⟨[("cookie", octets ('t' :: '=' :: cs))]⟩ = [⟨"t", String.ofList cs⟩] := by
  have hvalues (v : Bytes) : Request.values ⟨[("cookie", v)]⟩ "cookie" = [v] := by
    simp [Request.values, Text.sameUpToCase]
  have hcut : ClaimRequirement.cut? '=' ('t' :: '=' :: cs) = some (['t'], cs) := by
    simp [ClaimRequirement.cut?]
  have hname : Text.trim ['t'] = ['t'] := by decide
  simp only [Request.cookies, hvalues, Request.valueText?, htext, hchars, Request.cookiesOf,
    Request.cookie?, hsplit, hcut, hname, hvalue, List.filterMap_cons, List.filterMap_nil,
    List.flatMap_cons, String.toList_ofList, List.flatMap_nil, Option.bind_eq_bind, Option.bind_some,
    if_true]
  rfl

set_option maxRecDepth 10000 in
theorem request_cookies : request.cookies = [⟨"t", token.encoded⟩] :=
  cookies_singleton (by decide +kernel) (by decide +kernel) (by decide +kernel) (by decide +kernel)

theorem request_header : request.header? "authorization" = none := by decide +kernel

theorem ofCookies_request {i : TrustedIssuer} (hi : i.cookieName = some "t") :
    Registry.ofCookies request.cookies i = [⟨i.shortName, token.encoded⟩] := by
  have hne : letters ≠ [] := List.append_ne_nil_of_right_ne_nil _ (List.cons_ne_nil _ _)
  have hfull : token.encoded ≠ "" := fun h => hne (String.ofList_eq_empty_iff.1 h)
  have hcookie (s : String) (hs : s ≠ "") :
      Registry.ofCookies [⟨"t", s⟩] i = [⟨i.shortName, s⟩] := by
    simp [Registry.ofCookies, hi, Text.sameUpToCase, hs]
  rw [request_cookies]
  exact hcookie _ hfull

theorem request_candidates : registry.candidates request = [⟨"a", token.encoded⟩] := by
  rw [Registry.candidates, request_header, registry, List.flatMap_singleton, ofCookies_request rfl]
  rfl

theorem parse_ofList {cs signed header payload tail : List Char} {bs signature : Bytes} {h : Header}
    (hlast : splitLastDot cs = some (signed, tail))
    (hfirst : splitLastDot signed = some (header, payload))
    (hheader : Text.Base64.decode? Text.Base64.urlSafe header = some bs)
    (hsignature : Text.Base64.decode? Text.Base64.urlSafe tail = some signature)
    (hread : Header.parse? bs = some h) (halg : h.algorithm = acceptedAlgorithm) :
    Validator.parse (String.ofList cs) = .ok ⟨h, signed, payload, signature⟩ := by
  simp only [Validator.parse, Compact.parse, String.toList_ofList, hlast, hfirst, hheader,
    hsignature, hread, halg, if_true]

set_option maxRecDepth 10000 in
theorem signature_decode : Text.Base64.decode? Text.Base64.urlSafe
    (Text.Base64.encode Text.Base64.urlSafe compact.signature) = some compact.signature := by
  decide +kernel

set_option maxRecDepth 10000 in
theorem token_parse : Validator.parse token.encoded = .ok compact := by
  have hhead : Text.Base64.decode? Text.Base64.urlSafe "eyJhbGciOiJSUzI1NiJ9".toList =
      some (octets "\x7b\"alg\":\"RS256\"\x7d".toList) := by
    decide +kernel
  have hread : Header.parse? (octets "\x7b\"alg\":\"RS256\"\x7d".toList) =
      some compact.header := by
    decide +kernel
  have hlast : splitLastDot letters =
      some (compact.signed, Text.Base64.encode Text.Base64.urlSafe compact.signature) := by
    decide +kernel
  have hfirst : splitLastDot compact.signed =
      some ("eyJhbGciOiJSUzI1NiJ9".toList, compact.payload) := by
    decide +kernel
  exact parse_ofList hlast hfirst hhead signature_decode hread rfl

theorem conclude_eq_ok {v : Validator} {now : Seconds} {c : Compact} {k : Jwk} {t : Token}
    (hverifies : k.key.verifies c.message c.signature = true) (hclaims : c.claims = .ok t.claims)
    (hcheck : v.checks.check t.claims now = .ok ()) :
    v.conclude now t.encoded c (.ok (some k)) = .ok t := by
  simp only [Validator.conclude, Validator.verify, hverifies, hclaims]
  exact bind_eq_ok_iff.2 ⟨t.claims, rfl, bind_eq_ok_iff.2 ⟨(), hcheck, rfl⟩⟩

set_option maxRecDepth 10000 in
theorem token_accepted :
    issuer.validator.conclude 0 token.encoded compact (.ok (some key)) = .ok token :=
  conclude_eq_ok (by decide +kernel) (by decide +kernel) (by decide +kernel)

theorem key_chosen :
    KeySet.choose [key] compact.header.keyId compact.header.algorithm = some key := by
  -- Stated of any public key, so that the octets of this one are not looked at.
  have h (k : Rsa.PublicKey) : KeySet.choose [{ key := k }] none .rs256 = some { key := k } := rfl
  exact h key.key

theorem readAnswer_ok {body : Bytes} {ks : KeySet} (h : KeySet.parse? body = some ks) :
    KeySource.readAnswer (.ok body) = .ok ks := by
  simp only [KeySource.readAnswer, h]

theorem validate_constant {v : Validator} {now : Seconds} {instant : Instant} {token : String}
    {answer : Except RetrievalError Bytes} {c : Compact} {ks : KeySet} {k : Jwk}
    (hcache : v.keys.cache = none) (hparse : Validator.parse token = .ok c)
    (hkeys : KeySource.readAnswer answer = .ok ks)
    (hk : ks.choose c.header.keyId c.header.algorithm = some k) (st : KeyState Unit) :
    v.validate (.constant answer) now instant token st =
      .ok (v.conclude now token c (.ok (some k)), st) := by
  have hfound : (KeySource.readAnswer ((Retriever.constant answer).retrieve v.keys.jwksUrl
      st.web).1).map (·.choose c.header.keyId c.header.algorithm) = .ok (some k) := by
    change (KeySource.readAnswer answer).map _ = _
    rw [hkeys]
    exact congrArg Except.ok hk
  rw [Validator.validate_of_parse hparse, KeySource.verificationKey_uncached hcache, hfound]
  rfl

theorem validateCandidate_accepted {r : Registry} {now : Seconds} {instant : Instant}
    {n token : String} {i : TrustedIssuer} {answer : Except RetrievalError Bytes} {c : Compact}
    {ks : KeySet} {k : Jwk} {t : Token} (hi : r.byShortName? n = some i)
    (hcache : i.validator.keys.cache = none) (hparse : Validator.parse token = .ok c)
    (hkeys : KeySource.readAnswer answer = .ok ks)
    (hk : ks.choose c.header.keyId c.header.algorithm = some k)
    (ht : i.validator.conclude now token c (.ok (some k)) = .ok t) :
    r.validateCandidate (.constant answer) now instant ⟨n, token⟩ ⟨[], ()⟩ =
      .ok (some (.ok t), ⟨[], ()⟩) := by
  rw [Registry.validateCandidate_known hi, TrustState.keys,
    validate_constant hcache hparse hkeys hk, ht]
  rfl

theorem validateCandidate_issuer {r : Registry} (hi : r.byShortName? "a" = some issuer) :
    r.validateCandidate (.constant (.ok document)) 0 0 ⟨"a", token.encoded⟩ ⟨[], ()⟩ =
      .ok (some (.ok token), ⟨[], ()⟩) := by
  exact validateCandidate_accepted hi rfl token_parse (readAnswer_ok document_keys) key_chosen
    token_accepted

theorem registry_validate :
    registry.validate (.constant (.ok document)) 0 0 request ⟨[], ()⟩ =
      .ok (⟨[("a", token)]⟩, ⟨[], ()⟩) := by
  rw [Registry.validate, request_candidates, Registry.validateAll_cons, validateCandidate_issuer rfl]
  rfl

theorem validate_vouched_cookie :
    registry.validate (.constant (.ok document)) 0 0 request ⟨[], ()⟩ =
      .ok (⟨[("a", token)]⟩, ⟨[], ()⟩) ∧ ∃ es, issuer.Vouches es 0 token := by
  obtain ⟨es, -, hkept, -⟩ := Registry.validate_vouched (.built ()) registry_validate
  obtain ⟨⟨i, hi, -, hv⟩, -⟩ := hkept "a" token (List.mem_singleton_self _)
  obtain rfl : i = issuer := List.mem_singleton.1 hi
  exact ⟨registry_validate, es, hv⟩

end Sample
end BearerTrust

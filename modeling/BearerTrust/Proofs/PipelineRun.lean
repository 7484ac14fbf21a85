import BearerTrust.Pipeline
import BearerTrust.Proofs.KeyLookup
import Mathlib.Data.List.Nodup

namespace BearerTrust

variable {σ τ : Type}

namespace Validator

theorem validate_of_parse {web : Retriever σ} {v : Validator} {now : Seconds} {instant : Instant}
    {token : String} {c : Compact} (hc : parse token = .ok c) (st : KeyState σ) :
    v.validate web now instant token st =
      (v.keys.verificationKey web c.header.keyId c.header.algorithm instant st).map
        fun x => (v.conclude now token c x.1, x.2) := by
  simp only [validate, hc]
  rfl

theorem validate_of_parse_error {web : Retriever σ} {v : Validator} {now : Seconds}
    {instant : Instant} {token : String} {e : TokenError} (hc : parse token = .error e)
    (st : KeyState σ) : v.validate web now instant token st = .ok (.error e, st) := by
  simp only [validate, hc]

theorem parse_eq_ok {token : String} {c : Compact} (h : parse token = .ok c) :
    Compact.parse token = .ok c ∧ c.header.algorithm = acceptedAlgorithm := by
  unfold parse at h
  split at h
  · cases h
  · next d hd =>
    split at h
    · next ha => cases h; exact ⟨hd, ha⟩
    · cases h

theorem conclude_eq_ok {v : Validator} {now : Seconds} {token : String} {c : Compact}
    {found : Except KeySourceError (Option Jwk)} {t : Token}
    (h : v.conclude now token c found = .ok t) :
    ∃ k, found = .ok (some k) ∧ k.key.verifies c.message c.signature = true ∧
      c.claims = .ok t.claims ∧ v.checks.check t.claims now = .ok () ∧ t.encoded = token := by
  match found with
  | .error e => cases h
  | .ok none => cases h
  | .ok (some k) =>
    obtain ⟨claims, hv, h⟩ := bind_eq_ok_iff.1 h
    obtain ⟨_, hcheck, h⟩ := bind_eq_ok_iff.1 h
    cases h
    unfold verify at hv
    split at hv
    · next hs =>
      split at hv
      · next d hd => cases hv; exact ⟨k, rfl, hs, hd, hcheck, rfl⟩
      · cases hv
    · cases hv

theorem validate_alike {R : σ → τ → Prop} {web : Retriever σ} {other : Retriever τ} {v : Validator}
    (hR : web.Mirrors R other v.keys.jwksUrl) {s : KeyState σ} {t : KeyState τ} (h : s.Alike R t)
    (now : Seconds) (instant : Instant) (token : String) :
    Lockstep (SameAnswer R) (v.validate web now instant token s)
      (v.validate other now instant token t) := by
  cases hc : parse token with
  | error e =>
    rw [validate_of_parse_error hc, validate_of_parse_error hc]
    exact .ok ⟨rfl, h⟩
  | ok c =>
    have hk := KeySource.verificationKey_alike hR h c.header.keyId c.header.algorithm instant
    rw [validate_of_parse hc, validate_of_parse hc]
    refine hk.bind ?_
    rintro ⟨a, s⟩ ⟨b, t⟩ ⟨rfl, h⟩
    exact .ok ⟨rfl, h⟩

theorem validate_web {web : Retriever σ} {v : Validator} {now : Seconds} {instant : Instant}
    {token : String} {st st' : KeyState σ} {result : Except TokenError Token} {P : σ → Prop}
    (hP : ∀ w, P w → P (web.retrieve v.keys.jwksUrl w).2)
    (h : v.validate web now instant token st = .ok (result, st')) (hs : P st.web) : P st'.web :=
  KeySource.web_of_lockstep (fun _ hR _ _ hst => validate_alike hR hst now instant token) hP h hs

end Validator

def TrustState.unrecorded (st : TrustState (σ × Exchanges)) : TrustState σ := ⟨st.stored, st.web.1⟩

structure TrustState.Alike (R : σ → τ → Prop) (s : TrustState σ) (t : TrustState τ) : Prop where
  stored : s.stored = t.stored
  web : R s.web t.web

namespace Registry

variable {web : Retriever σ} {r : Registry} {now : Seconds} {instant : Instant} {c : Candidate}
  {st : TrustState σ}

theorem mem_of_byShortName? {n : String} {i : TrustedIssuer} (h : r.byShortName? n = some i) :
    i ∈ r.issuers ∧ i.shortName = n :=
  ⟨List.mem_of_find?_eq_some h, by simpa using List.find?_some h⟩

theorem shortName_injective {i j : TrustedIssuer} (hi : i ∈ r.issuers) (hj : j ∈ r.issuers)
    (h : i.shortName = j.shortName) : i = j :=
  List.inj_on_of_nodup_map r.nodup_shortName hi hj h

theorem identifier_injective {i j : TrustedIssuer} (hi : i ∈ r.issuers) (hj : j ∈ r.issuers)
    (h : i.identifier = j.identifier) : i = j :=
  List.inj_on_of_nodup_map r.nodup_identifier hi hj h

theorem byShortName?_of_mem {i : TrustedIssuer} (hi : i ∈ r.issuers) :
    r.byShortName? i.shortName = some i := by
  cases h : r.byShortName? i.shortName with
  | none =>
    have := List.find?_eq_none.1 h i hi
    simp at this
  | some j =>
    obtain ⟨hj, hn⟩ := mem_of_byShortName? h
    rw [shortName_injective hj hi hn]

theorem forall_stored_withKeys {Q : TrustedIssuer → Option StoredKeys → Prop} {i : TrustedIssuer}
    {k : KeyState σ} (hi : i ∈ r.issuers) (hk : Q i k.stored)
    (h : ∀ j ∈ r.issuers, Q j (st.keys j.shortName).stored) :
    ∀ j ∈ r.issuers, Q j ((st.withKeys i.shortName k).keys j.shortName).stored := by
  intro j hj
  by_cases hn : j.shortName = i.shortName
  · obtain rfl := shortName_injective hj hi hn
    rw [st.keys_withKeys_self]
    exact hk
  · have hsame : ((st.withKeys i.shortName k).keys j.shortName).stored =
        (st.keys j.shortName).stored := st.get?_withKeys_of_ne hn k
    rw [hsame]
    exact h j hj

theorem validateCandidate_unknown (h : r.byShortName? c.shortName = none) :
    r.validateCandidate web now instant c st = .ok (none, st) := by
  simp only [validateCandidate, h]

theorem validateCandidate_known {i : TrustedIssuer} (h : r.byShortName? c.shortName = some i) :
    r.validateCandidate web now instant c st =
      (i.validator.validate web now instant c.token (st.keys c.shortName)).map
        fun x => (some x.1, st.withKeys c.shortName x.2) := by
  simp only [validateCandidate, h]
  rfl

/-- A candidate makes its issuer store a set that would expire past the clock's range. -/
def Overruns (web : Retriever σ) (r : Registry) (instant : Instant) (st : TrustState σ)
    (c : Candidate) : Prop :=
  ∃ i d, r.byShortName? c.shortName = some i ∧ Validator.parse c.token = .ok d ∧
    KeySource.Overruns i.validator.keys (KeySource.readAnswer (web.retrieve i.jwksUrl st.web).1)
      d.header.keyId d.header.algorithm instant (st.keys c.shortName).stored

theorem validateCandidate_eq_error_iff {a : Abort} :
    r.validateCandidate web now instant c st = .error a ↔
      a = .instantOverflow ∧ r.Overruns web instant st c := by
  cases hn : r.byShortName? c.shortName with
  | none =>
    rw [validateCandidate_unknown hn]
    refine iff_of_false nofun ?_
    rintro ⟨-, i, d, hi, -⟩
    rw [hn] at hi
    cases hi
  | some i =>
    rw [validateCandidate_known hn, map_eq_error_iff]
    cases hd : Validator.parse c.token with
    | error e =>
      rw [Validator.validate_of_parse_error hd]
      refine iff_of_false nofun ?_
      rintro ⟨-, j, d, -, hd', -⟩
      rw [hd] at hd'
      cases hd'
    | ok d =>
      rw [Validator.validate_of_parse hd, map_eq_error_iff, KeySource.verificationKey_eq_error_iff]
      refine and_congr_right fun _ => ⟨fun ho => ⟨i, d, hn, hd, ho⟩, ?_⟩
      rintro ⟨j, d', hj, hd', ho⟩
      rw [hn] at hj
      rw [hd] at hd'
      cases hj
      cases hd'
      exact ho

theorem validateCandidate_alike {R : σ → τ → Prop} {other : Retriever τ} {t : TrustState τ}
    (hR : ∀ url, web.Mirrors R other url) (h : st.Alike R t) :
    Lockstep (fun x y => x.1 = y.1 ∧ x.2.Alike R y.2) (r.validateCandidate web now instant c st)
      (r.validateCandidate other now instant c t) := by
  cases hi : r.byShortName? c.shortName with
  | none =>
    rw [validateCandidate_unknown hi, validateCandidate_unknown hi]
    exact .ok ⟨rfl, h⟩
  | some i =>
    have hkeys : (st.keys c.shortName).Alike R (t.keys c.shortName) :=
      ⟨by simp only [TrustState.keys, h.stored], h.web⟩
    rw [validateCandidate_known hi, validateCandidate_known hi]
    refine (Validator.validate_alike (hR _) hkeys now instant c.token).bind ?_
    rintro ⟨a, s⟩ ⟨b, u⟩ ⟨rfl, hsu⟩
    have hs : s.stored = u.stored := hsu.stored
    refine .ok ⟨rfl, ?_, hsu.web⟩
    simp only [TrustState.withKeys, hs, h.stored]

def keep (ctx : Context) (c : Candidate) : Option (Except TokenError Token) → Context
  | some (.ok t) => ctx.insert c.shortName t
  | _ => ctx

theorem validateAll_cons (cs : List Candidate) (ctx : Context) :
    r.validateAll web now instant (c :: cs) ctx st =
      r.validateCandidate web now instant c st >>= fun x =>
        r.validateAll web now instant cs (keep ctx c x.1) x.2 := by
  rw [validateAll]
  congr 1
  funext x
  obtain ⟨o, st'⟩ := x
  match o with
  | none => rfl
  | some (.error e) => rfl
  | some (.ok t) => rfl

theorem validateAll_append (cs ds : List Candidate) (ctx : Context) :
    r.validateAll web now instant (cs ++ ds) ctx st =
      r.validateAll web now instant cs ctx st >>= fun x =>
        r.validateAll web now instant ds x.1 x.2 := by
  induction cs generalizing ctx st with
  | nil => rfl
  | cons c cs ih =>
    rw [List.cons_append, validateAll_cons, validateAll_cons, bind_assoc]
    congr 1
    funext x
    exact ih _

theorem validateAll_invariant {P : Context → TrustState σ → Prop}
    (step : ∀ c o ctx st st', P ctx st →
      r.validateCandidate web now instant c st = .ok (o, st') → P (keep ctx c o) st')
    {cs : List Candidate} {ctx ctx' : Context} {st' : TrustState σ}
    (h : r.validateAll web now instant cs ctx st = .ok (ctx', st')) (hP : P ctx st) :
    P ctx' st' := by
  induction cs generalizing ctx st with
  | nil => cases h; exact hP
  | cons c cs ih =>
    rw [validateAll_cons] at h
    obtain ⟨⟨o, st₁⟩, hc, h⟩ := bind_eq_ok_iff.1 h
    exact ih h (step c o ctx st st₁ hP hc)

theorem validateAll_eq_error_iff {cs : List Candidate} {ctx : Context} {a : Abort} :
    r.validateAll web now instant cs ctx st = .error a ↔ a = .instantOverflow ∧
      ∃ before c after mid st', cs = before ++ c :: after ∧
        r.validateAll web now instant before ctx st = .ok (mid, st') ∧
        r.Overruns web instant st' c := by
  constructor
  · intro h
    induction cs generalizing ctx st with
    | nil => cases h
    | cons c cs ih =>
      rw [validateAll_cons, bind_eq_error_iff] at h
      rcases h with h | ⟨⟨o, st₁⟩, hc, h⟩
      · obtain ⟨rfl, ho⟩ := validateCandidate_eq_error_iff.1 h
        exact ⟨rfl, [], c, cs, ctx, st, rfl, rfl, ho⟩
      · obtain ⟨rfl, before, d, after, mid, st₂, rfl, hb, ho⟩ := ih h
        refine ⟨rfl, c :: before, d, after, mid, st₂, rfl, ?_, ho⟩
        rw [validateAll_cons, hc]
        exact hb
  · rintro ⟨rfl, before, c, after, mid, st', rfl, hb, ho⟩
    have hc : r.validateCandidate web now instant c st' = .error .instantOverflow :=
      validateCandidate_eq_error_iff.2 ⟨rfl, ho⟩
    rw [validateAll_append, hb]
    change r.validateAll web now instant (c :: after) mid st' = _
    rw [validateAll_cons, hc]
    rfl

theorem validateAll_alike {R : σ → τ → Prop} {other : Retriever τ} {t : TrustState τ}
    (hR : ∀ url, web.Mirrors R other url) (cs : List Candidate) (ctx : Context)
    (h : st.Alike R t) :
    Lockstep (fun x y => x.1 = y.1 ∧ x.2.Alike R y.2) (r.validateAll web now instant cs ctx st)
      (r.validateAll other now instant cs ctx t) := by
  induction cs generalizing ctx st t with
  | nil => exact .ok ⟨rfl, h⟩
  | cons c cs ih =>
    rw [validateAll_cons, validateAll_cons]
    refine (validateCandidate_alike hR h).bind ?_
    rintro ⟨a, s⟩ ⟨b, u⟩ ⟨rfl, hsu⟩
    exact ih _ hsu

/-- A token in the context was there before, or its candidate was accepted when its turn came. -/
theorem validateAll_mem {cs : List Candidate} {ctx ctx' : Context} {st' : TrustState σ} {n : String}
    {t : Token} (h : r.validateAll web now instant cs ctx st = .ok (ctx', st'))
    (ht : (n, t) ∈ ctx'.tokens) :
    (n, t) ∈ ctx.tokens ∨ ∃ before c after mid st₁ st₂, cs = before ++ c :: after ∧
      c.shortName = n ∧ r.validateAll web now instant before ctx st = .ok (mid, st₁) ∧
      r.validateCandidate web now instant c st₁ = .ok (some (.ok t), st₂) ∧
      r.validateAll web now instant after (mid.insert n t) st₂ = .ok (ctx', st') := by
  induction cs generalizing ctx st with
  | nil => cases h; exact .inl ht
  | cons c cs ih =>
    rw [validateAll_cons] at h
    obtain ⟨⟨o, st₁⟩, hc, h⟩ := bind_eq_ok_iff.1 h
    rcases ih h with hkeep | ⟨before, d, after, mid, st₂, st₃, rfl, hd, hb, hdt, ha⟩
    · match o with
      | none => exact .inl hkeep
      | some (.error e) => exact .inl hkeep
      | some (.ok u) =>
        rcases Table.mem_put hkeep with he | hctx
        · cases he
          exact .inr ⟨[], c, cs, ctx, st, st₁, rfl, rfl, rfl, hc, h⟩
        · exact .inl hctx
    · refine .inr ⟨c :: before, d, after, mid, st₂, st₃, rfl, hd, ?_, hdt, ha⟩
      rw [validateAll_cons, hc]
      exact hb

theorem validateAll_nodup {cs : List Candidate} {ctx ctx' : Context} {st' : TrustState σ}
    (h : r.validateAll web now instant cs ctx st = .ok (ctx', st')) (hctx : ctx.issuers.Nodup) :
    ctx'.issuers.Nodup := by
  refine validateAll_invariant (P := fun ctx _ => ctx.issuers.Nodup) ?_ h hctx
  intro c o ctx _ _ hctx _
  match o with
  | none => exact hctx
  | some (.error e) => exact hctx
  | some (.ok u) => exact Table.nodup_keys_put _ _ hctx

end Registry
end BearerTrust

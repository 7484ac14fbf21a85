import BearerTrust.Proofs.RefreshLimit
import BearerTrust.Proofs.Soundness

namespace BearerTrust

variable {σ : Type}

namespace KeySource

variable {web : Retriever σ} {source : KeySource} {policy : KeyCachePolicy} {now : Instant}
  {st st' : KeyState (σ × Exchanges)} {id : Option String} {algorithm : Algorithm}

/-- What a lookup may have done: nothing, or a single retrieval, which fails or brings a set to store. -/
inductive Consults (web : Retriever σ) (source : KeySource) (policy : KeyCachePolicy) (now : Instant)
    (st : KeyState (σ × Exchanges)) : KeyState (σ × Exchanges) → Prop
  | settled : Consults web source policy now st st
  | failed {e} (h : readAnswer (web.retrieve source.jwksUrl st.web.1).1 = .error e) :
      Consults web source policy now st ⟨st.stored, (web.recording.retrieve source.jwksUrl st.web).2⟩
  | renewed {ks} (h : readAnswer (web.retrieve source.jwksUrl st.web.1).1 = .ok ks) :
      Consults web source policy now st ⟨some ⟨ks, now, now + policy.lifespan⟩,
        (web.recording.retrieve source.jwksUrl st.web).2⟩

def FreshAt (policy : KeyCachePolicy) (now : Instant) (stored : Option StoredKeys) : Prop :=
  ∃ ks, stored = some ⟨ks, now, now + policy.lifespan⟩

theorem renew_consults {r : Except KeySourceError KeySet}
    (h : renew web.recording source policy now st = .ok (r, st')) :
    Consults web source policy now st st' ∧ ∀ ks, r = .ok ks → FreshAt policy now st'.stored := by
  obtain ⟨stored', w'⟩ := st'
  obtain ⟨ha, hw, ⟨e, rfl, hs⟩ | ⟨ks, rfl, -, hs⟩⟩ := renew_eq_ok h
  · cases hs
    cases hw
    exact ⟨.failed ha.symm, nofun⟩
  · cases hs
    cases hw
    exact ⟨.renewed ha.symm, fun _ _ => ⟨ks, rfl⟩⟩

theorem refresh_of_fresh (web : Retriever (σ × Exchanges)) (source : KeySource)
    (hinterval : 0 < policy.minRefreshInterval) (h : FreshAt policy now st.stored) :
    ∃ ks, refresh web source policy .unknownKey now st = .ok (.ok ks, st) := by
  obtain ⟨ks, hst⟩ := h
  refine ⟨ks, ?_⟩
  simp [refresh, hst, RefreshReason.isSettledBy, hinterval]

theorem Consults.asked (h : Consults web source policy now st st') :
    st'.web.2.drop st.web.2.length = [] ∨
      st'.web.2.drop st.web.2.length =
        [(source.jwksUrl, (web.retrieve source.jwksUrl st.web.1).1)] ∧
      ∀ ks, readAnswer (web.retrieve source.jwksUrl st.web.1).1 = .ok ks →
        FreshAt policy now st'.stored := by
  cases h with
  | settled => exact .inl List.drop_length
  | failed h => exact .inr ⟨List.drop_left, fun ks hks => nomatch h.symm.trans hks⟩
  | @renewed ks => exact .inr ⟨List.drop_left, fun _ _ => ⟨ks, rfl⟩⟩

theorem verificationKey_consults (hc : source.cache = some policy)
    (hinterval : 0 < policy.minRefreshInterval) {found : Except KeySourceError (Option Jwk)}
    (h : verificationKey web.recording source id algorithm now st = .ok (found, st')) :
    Consults web source policy now st st' := by
  rw [verificationKey_cached hc] at h
  obtain ⟨⟨r₁, st₁⟩, h₁, h⟩ := bind_eq_ok_iff.1 h
  match r₁ with
  | .error e =>
    cases h
    rcases refresh_eq_ok h₁ with ⟨-, c, -, hr, -⟩ | hrenew
    · cases hr
    · exact (renew_consults hrenew).1
  | .ok ks =>
    dsimp only at h
    split at h
    · cases h
      rcases refresh_eq_ok h₁ with ⟨rfl, -⟩ | hrenew
      · exact .settled
      · exact (renew_consults hrenew).1
    · obtain ⟨⟨r₂, st₂⟩, h₂, h⟩ := map_eq_ok_iff.1 h
      cases h
      rcases refresh_eq_ok h₁ with ⟨rfl, -⟩ | hrenew
      · rcases refresh_eq_ok h₂ with ⟨rfl, -⟩ | hrenew
        · exact .settled
        · exact (renew_consults hrenew).1
      · obtain ⟨hconsults, hfresh⟩ := renew_consults hrenew
        obtain ⟨ks', hsettled⟩ := refresh_of_fresh web.recording source hinterval (hfresh ks rfl)
        rw [hsettled] at h₂
        cases h₂
        exact hconsults

theorem verificationKey_of_fresh (web : Retriever (σ × Exchanges)) (hc : source.cache = some policy)
    (hlifespan : 0 < policy.lifespan) (hinterval : 0 < policy.minRefreshInterval)
    (h : FreshAt policy now st.stored) (id : Option String) (algorithm : Algorithm) :
    ∃ found, verificationKey web source id algorithm now st = .ok (found, st) := by
  obtain ⟨ks', hsettled⟩ := refresh_of_fresh web source hinterval h
  obtain ⟨ks, hst⟩ := h
  have hlive : refresh web source policy .expiry now st = .ok (.ok ks, st) := by
    simp [refresh, hst, RefreshReason.isSettledBy, hlifespan]
  rw [verificationKey_cached hc, hlive]
  change ∃ found, (if (ks.choose id algorithm).isSome then _ else _) = _
  split
  · exact ⟨_, rfl⟩
  · rw [hsettled]
    exact ⟨_, rfl⟩

end KeySource

namespace Validator

variable {web : Retriever σ} {v : Validator} {now : Seconds} {instant : Instant} {token : String}

/-- The token can be taken apart, and names the accepted algorithm. -/
def Considers (token : String) : Prop := ∃ c, Compact.parse token = .ok c ∧ c.header.algorithm = .rs256

instance (token : String) : Decidable (Considers token) :=
  match h : Compact.parse token with
  | .error _ => isFalse fun ⟨_, hc, _⟩ => nomatch h.symm.trans hc
  | .ok c =>
    decidable_of_iff (c.header.algorithm = .rs256)
      ⟨fun ha => ⟨c, h, ha⟩, fun ⟨_, hd, ha⟩ => Except.ok.inj (h.symm.trans hd) ▸ ha⟩

theorem parse_of_considers (h : Considers token) : ∃ c, parse token = .ok c := by
  obtain ⟨c, hc, halgorithm⟩ := h
  refine ⟨c, ?_⟩
  simp only [parse, hc]
  exact if_pos halgorithm

theorem parse_of_not_considers (h : ¬Considers token) : ∃ e, parse token = .error e := by
  cases hparse : parse token with
  | error e => exact ⟨e, rfl⟩
  | ok c =>
    obtain ⟨hc, halgorithm⟩ := parse_eq_ok hparse
    exact absurd ⟨c, hc, halgorithm⟩ h

theorem validate_uncached (web : Retriever σ) (now : Seconds) (instant : Instant)
    (hc : v.keys.cache = none) (h : Considers token) (st : KeyState (σ × Exchanges)) :
    ∃ result, v.validate web.recording now instant token st = .ok (result, ⟨st.stored,
      ((web.retrieve v.keys.jwksUrl st.web.1).2,
        st.web.2 ++ [(v.keys.jwksUrl, (web.retrieve v.keys.jwksUrl st.web.1).1)])⟩) := by
  obtain ⟨c, hparse⟩ := parse_of_considers h
  rw [validate_of_parse hparse, KeySource.verificationKey_uncached hc]
  exact ⟨_, rfl⟩

theorem validate_not_considers (web : Retriever (σ × Exchanges)) (v : Validator) (now : Seconds)
    (instant : Instant) (h : ¬Considers token) (st : KeyState (σ × Exchanges)) :
    ∃ e, v.validate web now instant token st = .ok (.error e, st) := by
  obtain ⟨e, hparse⟩ := parse_of_not_considers h
  exact ⟨e, validate_of_parse_error hparse st⟩

end Validator

namespace Registry

variable {web : Retriever σ} {r : Registry} {now : Seconds} {instant : Instant} {i : TrustedIssuer}
  {policy : KeyCachePolicy} {c : Candidate} {cs before after : List Candidate} {ctx ctx' mid : Context}
  {st st₁ st' : TrustState (σ × Exchanges)} {o : Option (Except TokenError Token)}

/-- Where the keys for a candidate are asked for, if nothing is cached. -/
def keyPlace? (r : Registry) (c : Candidate) : Option Url :=
  (r.byShortName? c.shortName).bind fun i =>
    if Validator.Considers c.token then some i.jwksUrl else none

/-- What is asked and answered at the turn of each candidate, until the run ends. -/
def turns (web : Retriever σ) (r : Registry) (now : Seconds) (instant : Instant) :
    List Candidate → TrustState (σ × Exchanges) → List (Candidate × Exchanges)
  | [], _ => []
  | c :: cs, st =>
    match r.validateCandidate web.recording now instant c st with
    | .error _ => []
    | .ok (_, st') => (c, st'.web.2.drop st.web.2.length) :: turns web r now instant cs st'

/-- What is asked and answered at the turns of an issuer's candidates. -/
def exchangesFor (web : Retriever σ) (r : Registry) (now : Seconds) (instant : Instant)
    (shortName : String) (cs : List Candidate) (st : TrustState (σ × Exchanges)) : Exchanges :=
  ((r.turns web now instant cs st).filter fun t => t.1.shortName = shortName).flatMap Prod.snd

theorem validateCandidate_extends
    (h : r.validateCandidate web.recording now instant c st = .ok (o, st')) : st.web.2 <+: st'.web.2 := by
  cases hi : r.byShortName? c.shortName with
  | none =>
    rw [validateCandidate_unknown hi] at h
    cases h
    exact List.prefix_rfl
  | some i =>
    rw [validateCandidate_known hi] at h
    obtain ⟨⟨result, k⟩, hk, h⟩ := map_eq_ok_iff.1 h
    cases h
    have hstep (w : σ × Exchanges) (hw : st.web.2 <+: w.2) :
        st.web.2 <+: (web.recording.retrieve i.validator.keys.jwksUrl w).2.2 :=
      hw.trans (List.prefix_append _ _)
    exact Validator.validate_web hstep hk List.prefix_rfl

theorem validateCandidate_uncached (web : Retriever σ) (now : Seconds) (instant : Instant)
    (hr : ∀ i ∈ r.issuers, i.validator.keys.cache = none) (c : Candidate)
    (st : TrustState (σ × Exchanges)) :
    ∃ o st' es, r.validateCandidate web.recording now instant c st = .ok (o, st') ∧
      st'.web.2 = st.web.2 ++ es ∧ es.map Prod.fst = (r.keyPlace? c).toList := by
  unfold keyPlace?
  cases hi : r.byShortName? c.shortName with
  | none => exact ⟨none, st, [], validateCandidate_unknown hi, (List.append_nil _).symm, rfl⟩
  | some i =>
    rw [validateCandidate_known hi]
    by_cases hconsiders : Validator.Considers c.token
    · obtain ⟨result, hvalidate⟩ := Validator.validate_uncached web now instant
        (hr i (mem_of_byShortName? hi).1) hconsiders (st.keys c.shortName)
      rw [hvalidate]
      refine ⟨_, _, [_], rfl, rfl, ?_⟩
      simp [hconsiders, TrustedIssuer.jwksUrl, TrustedIssuer.validator, TrustedIssuer.keySource]
    · obtain ⟨e, hvalidate⟩ := Validator.validate_not_considers web.recording i.validator now instant
        hconsiders (st.keys c.shortName)
      rw [hvalidate]
      refine ⟨_, _, [], rfl, (List.append_nil _).symm, ?_⟩
      simp [hconsiders]

theorem validateAll_uncached (web : Retriever σ) (now : Seconds) (instant : Instant)
    (hr : ∀ i ∈ r.issuers, i.validator.keys.cache = none) (cs : List Candidate) (ctx : Context)
    (st : TrustState (σ × Exchanges)) :
    ∃ ctx' st' es, r.validateAll web.recording now instant cs ctx st = .ok (ctx', st') ∧
      st'.web.2 = st.web.2 ++ es ∧ es.map Prod.fst = cs.filterMap r.keyPlace? := by
  induction cs generalizing ctx st with
  | nil => exact ⟨ctx, st, [], rfl, (List.append_nil _).symm, rfl⟩
  | cons c cs ih =>
    obtain ⟨o, st₁, es, hc, hlog, hplace⟩ := validateCandidate_uncached web now instant hr c st
    obtain ⟨ctx', st', es', hcs, hlog', hplaces⟩ := ih (keep ctx c o) st₁
    refine ⟨ctx', st', es ++ es', ?_, ?_, ?_⟩
    · rw [validateAll_cons, hc]
      exact hcs
    · rw [hlog', hlog, List.append_assoc]
    · rw [List.map_append, hplace, hplaces]
      cases hp : r.keyPlace? c <;> simp [hp]

theorem turns_cons (h : r.validateCandidate web.recording now instant c st = .ok (o, st')) :
    r.turns web now instant (c :: cs) st =
      (c, st'.web.2.drop st.web.2.length) :: r.turns web now instant cs st' := by
  simp only [turns, h]

theorem turns_append (h : r.validateAll web.recording now instant before ctx st = .ok (mid, st₁))
    (after : List Candidate) : r.turns web now instant (before ++ after) st =
      r.turns web now instant before st ++ r.turns web now instant after st₁ := by
  induction before generalizing ctx st with
  | nil =>
    cases h
    rfl
  | cons c before ih =>
    rw [validateAll_cons] at h
    obtain ⟨⟨o, st₂⟩, hc, h⟩ := bind_eq_ok_iff.1 h
    rw [List.cons_append, turns_cons hc, turns_cons hc, ih h, List.cons_append]

theorem turns_record (h : r.validateAll web.recording now instant cs ctx st = .ok (ctx', st')) :
    (r.turns web now instant cs st).map Prod.fst = cs ∧
      st'.web.2 = st.web.2 ++ (r.turns web now instant cs st).flatMap Prod.snd := by
  induction cs generalizing ctx st with
  | nil =>
    cases h
    exact ⟨rfl, (List.append_nil _).symm⟩
  | cons c cs ih =>
    rw [validateAll_cons] at h
    obtain ⟨⟨o, st₁⟩, hc, h⟩ := bind_eq_ok_iff.1 h
    obtain ⟨hcs, hrecord⟩ := ih h
    have hlog := List.prefix_iff_eq_append.1 (validateCandidate_extends hc)
    rw [turns_cons hc, List.map_cons, hcs, List.flatMap_cons, ← List.append_assoc, hlog]
    exact ⟨rfl, hrecord⟩

theorem exchangesFor_cons {n : String}
    (h : r.validateCandidate web.recording now instant c st = .ok (o, st')) :
    r.exchangesFor web now instant n (c :: cs) st =
      (if c.shortName = n then st'.web.2.drop st.web.2.length else []) ++
        r.exchangesFor web now instant n cs st' := by
  rw [exchangesFor, turns_cons h, List.filter_cons]
  by_cases hn : c.shortName = n
  · simp [hn, exchangesFor]
  · simp [hn, exchangesFor]

theorem exchangesFor_append {n : String}
    (h : r.validateAll web.recording now instant before ctx st = .ok (mid, st₁)) :
    r.exchangesFor web now instant n (before ++ after) st =
      r.exchangesFor web now instant n before st ++ r.exchangesFor web now instant n after st₁ := by
  simp only [exchangesFor, turns_append h, List.filter_append, List.flatMap_append]

theorem exchangesFor_of_error {n : String} {a : Abort}
    (h : r.validateCandidate web.recording now instant c st = .error a) :
    r.exchangesFor web now instant n (c :: after) st = [] := by
  simp only [exchangesFor, turns, h, List.filter_nil, List.flatMap_nil]

theorem stored_of_other {n : String} (h : r.validateCandidate web.recording now instant c st = .ok (o, st'))
    (hn : c.shortName ≠ n) : (st'.keys n).stored = (st.keys n).stored := by
  cases hi : r.byShortName? c.shortName with
  | none =>
    rw [validateCandidate_unknown hi] at h
    cases h
    rfl
  | some i =>
    rw [validateCandidate_known hi] at h
    obtain ⟨⟨result, k⟩, hk, h⟩ := map_eq_ok_iff.1 h
    cases h
    exact st.get?_withKeys_of_ne (Ne.symm hn) k

theorem consults_turn (hi : r.byShortName? c.shortName = some i)
    (hc : i.validator.keys.cache = some policy) (hinterval : 0 < policy.minRefreshInterval)
    (h : r.validateCandidate web.recording now instant c st = .ok (o, st')) :
    KeySource.Consults web i.validator.keys policy instant (st.keys c.shortName) (st'.keys c.shortName) := by
  rw [validateCandidate_known hi] at h
  obtain ⟨⟨result, k⟩, hk, h⟩ := map_eq_ok_iff.1 h
  cases h
  rw [st.keys_withKeys_self]
  cases hparse : Validator.parse c.token with
  | error e =>
    rw [Validator.validate_of_parse_error hparse] at hk
    cases hk
    exact .settled
  | ok d =>
    rw [Validator.validate_of_parse hparse] at hk
    obtain ⟨⟨found, k'⟩, hfound, hk⟩ := map_eq_ok_iff.1 hk
    cases hk
    exact KeySource.verificationKey_consults hc hinterval hfound

theorem asked_turn (hi : i ∈ r.issuers) (hn : c.shortName = i.shortName)
    (hc : i.validator.keys.cache = some policy) (hinterval : 0 < policy.minRefreshInterval)
    (h : r.validateCandidate web.recording now instant c st = .ok (o, st')) :
    st'.web.2.drop st.web.2.length = [] ∨
      st'.web.2.drop st.web.2.length = [(i.jwksUrl, (web.retrieve i.jwksUrl st.web.1).1)] ∧
      ∀ ks, KeySource.readAnswer (web.retrieve i.jwksUrl st.web.1).1 = .ok ks →
        KeySource.FreshAt policy instant (st'.keys i.shortName).stored := by
  have hconsults := consults_turn (hn ▸ byShortName?_of_mem hi) hc hinterval h
  rw [hn] at hconsults
  exact hconsults.asked

theorem exchangesFor_own (hi : i ∈ r.issuers) (hc : i.validator.keys.cache = some policy)
    (hinterval : 0 < policy.minRefreshInterval) :
    ∀ x ∈ r.exchangesFor web now instant i.shortName cs st,
      ∃ w, x = (i.jwksUrl, (web.retrieve i.jwksUrl w).1) := by
  induction cs generalizing st with
  | nil => exact List.forall_mem_nil _
  | cons c cs ih =>
    cases hcandidate : r.validateCandidate web.recording now instant c st with
    | error a =>
      rw [exchangesFor_of_error hcandidate]
      exact List.forall_mem_nil _
    | ok x =>
      rw [exchangesFor_cons hcandidate, List.forall_mem_append]
      refine ⟨?_, ih⟩
      split
      · next hn =>
        rcases asked_turn hi hn hc hinterval hcandidate with hnone | ⟨hone, -⟩
        · rw [hnone]
          exact List.forall_mem_nil _
        · rw [hone]
          exact List.forall_mem_singleton.2 ⟨st.web.1, rfl⟩
      · exact List.forall_mem_nil _

section Cached

variable (hi : i ∈ r.issuers) (hc : i.validator.keys.cache = some policy) (hlifespan : 0 < policy.lifespan)
  (hinterval : 0 < policy.minRefreshInterval)

include hi hc hlifespan hinterval

theorem validateCandidate_of_fresh (web : Retriever σ) (now : Seconds) (hn : c.shortName = i.shortName)
    (hfresh : KeySource.FreshAt policy instant (st.keys i.shortName).stored) :
    ∃ o, r.validateCandidate web.recording now instant c st =
      .ok (o, st.withKeys i.shortName (st.keys i.shortName)) := by
  rw [validateCandidate_known (hn ▸ byShortName?_of_mem hi), hn]
  cases hparse : Validator.parse c.token with
  | error e =>
    rw [Validator.validate_of_parse_error hparse]
    exact ⟨_, rfl⟩
  | ok d =>
    obtain ⟨found, hfound⟩ := KeySource.verificationKey_of_fresh web.recording hc hlifespan hinterval
      hfresh d.header.keyId d.header.algorithm
    rw [Validator.validate_of_parse hparse, hfound]
    exact ⟨_, rfl⟩

theorem exchangesFor_of_fresh (hfresh : KeySource.FreshAt policy instant (st.keys i.shortName).stored)
    (h : r.validateAll web.recording now instant cs ctx st = .ok (ctx', st')) :
    r.exchangesFor web now instant i.shortName cs st = [] ∧
      KeySource.FreshAt policy instant (st'.keys i.shortName).stored := by
  induction cs generalizing ctx st with
  | nil =>
    cases h
    exact ⟨rfl, hfresh⟩
  | cons c cs ih =>
    rw [validateAll_cons] at h
    obtain ⟨⟨o, st₁⟩, hcandidate, h⟩ := bind_eq_ok_iff.1 h
    rw [exchangesFor_cons hcandidate]
    by_cases hn : c.shortName = i.shortName
    · obtain ⟨o', hsame⟩ := validateCandidate_of_fresh hi hc hlifespan hinterval web now hn hfresh
      rw [hsame] at hcandidate
      cases hcandidate
      rw [if_pos hn]
      refine (ih (by rwa [st.keys_withKeys_self]) h).imp_left fun hrest => ?_
      rw [hrest, List.append_nil]
      exact List.drop_length
    · rw [if_neg hn, List.nil_append]
      exact ih (by rwa [stored_of_other hcandidate hn]) h

theorem exchangesFor_run
    (hsets : ∀ x ∈ r.exchangesFor web now instant i.shortName cs st,
      ∃ ks, KeySource.readAnswer x.2 = .ok ks)
    (h : r.validateAll web.recording now instant cs ctx st = .ok (ctx', st')) :
    r.exchangesFor web now instant i.shortName cs st = [] ∨
      (r.exchangesFor web now instant i.shortName cs st).length = 1 ∧
        KeySource.FreshAt policy instant (st'.keys i.shortName).stored := by
  induction cs generalizing ctx st with
  | nil => exact .inl rfl
  | cons c cs ih =>
    rw [validateAll_cons] at h
    obtain ⟨⟨o, st₁⟩, hcandidate, h⟩ := bind_eq_ok_iff.1 h
    rw [exchangesFor_cons hcandidate] at hsets ⊢
    by_cases hn : c.shortName = i.shortName
    · rw [if_pos hn] at hsets ⊢
      rcases asked_turn hi hn hc hinterval hcandidate with hnone | ⟨hone, hfresh⟩
      · rw [hnone, List.nil_append] at hsets ⊢
        exact ih hsets h
      · rw [hone] at hsets ⊢
        obtain ⟨ks, hks⟩ := hsets _ List.mem_cons_self
        obtain ⟨hrest, hlast⟩ := exchangesFor_of_fresh hi hc hlifespan hinterval (hfresh ks hks) h
        rw [hrest]
        exact .inr ⟨rfl, hlast⟩
    · rw [if_neg hn, List.nil_append] at hsets ⊢
      exact ih hsets h

theorem exchangesFor_run_le_one
    (hsets : ∀ x ∈ r.exchangesFor web now instant i.shortName cs st,
      ∃ ks, KeySource.readAnswer x.2 = .ok ks)
    (h : r.validateAll web.recording now instant cs ctx st = .ok (ctx', st')) :
    (r.exchangesFor web now instant i.shortName cs st).length ≤ 1 := by
  rcases exchangesFor_run hi hc hlifespan hinterval hsets h with hnone | ⟨hone, -⟩
  · rw [hnone]
    exact Nat.zero_le 1
  · exact Nat.le_of_eq hone

theorem exchangesFor_le_one
    (hsets : ∀ x ∈ r.exchangesFor web now instant i.shortName cs st,
      ∃ ks, KeySource.readAnswer x.2 = .ok ks) :
    (r.exchangesFor web now instant i.shortName cs st).length ≤ 1 ∧
      ∀ before c after ctx mid st₁ a, cs = before ++ c :: after → c.shortName = i.shortName →
        r.validateAll web.recording now instant before ctx st = .ok (mid, st₁) →
        r.validateCandidate web.recording now instant c st₁ = .error a →
        r.exchangesFor web now instant i.shortName before st = [] := by
  constructor
  · cases hrun : r.validateAll web.recording now instant cs {} st with
    | ok x => exact exchangesFor_run_le_one hi hc hlifespan hinterval hsets hrun
    | error a =>
      obtain ⟨-, before, c, after, mid, st₁, rfl, hbefore, hoverruns⟩ := validateAll_eq_error_iff.1 hrun
      have hstop : r.validateCandidate web.recording now instant c st₁ = .error .instantOverflow :=
        validateCandidate_eq_error_iff.2 ⟨rfl, hoverruns⟩
      rw [exchangesFor_append hbefore, exchangesFor_of_error hstop, List.append_nil] at hsets ⊢
      exact exchangesFor_run_le_one hi hc hlifespan hinterval hsets hbefore
  · rintro before c after ctx mid st₁ a rfl hn hbefore hstop
    rw [exchangesFor_append hbefore] at hsets
    have hsets := fun x hx => hsets x (List.mem_append_left _ hx)
    rcases exchangesFor_run hi hc hlifespan hinterval hsets hbefore with hnone | ⟨-, hfresh⟩
    · exact hnone
    · obtain ⟨o, hgoes⟩ := validateCandidate_of_fresh hi hc hlifespan hinterval web now hn hfresh
      cases hgoes.symm.trans hstop

end Cached

end Registry

namespace KeyDesk

/-- With its next step somebody who looks for keys begins a retrieval. -/
structure Sends (d : KeyDesk) (i : Nat) : Prop where
  lookup : ∃ q p, d.caller? i = some ⟨q, p⟩ ∧ q ≠ .refreshAhead
  idle : d.isRetrieving i = false
  begins : (d.step i).isRetrieving i = true

theorem settled_of_fetched {policy : KeyCachePolicy} {now : Instant} {s : StoredKeys} {why : RefreshReason}
    (hlifespan : 0 < policy.lifespan) (hinterval : 0 < policy.minRefreshInterval)
    (hdated : Dated policy now s) (hfetched : now ≤ s.fetchedAt) (hwhy : why ≠ .ahead) :
    why.isSettledBy policy now s = true := by
  have hexpires := hdated.expires
  cases why with
  | expiry =>
    have hlive : now < s.expiresAt := by
      rw [hexpires]
      exact Nat.lt_of_le_of_lt hfetched (Nat.lt_add_of_pos_right hlifespan)
    exact decide_eq_true hlive
  | unknownKey =>
    have hnew : now - s.fetchedAt < policy.minRefreshInterval := by
      rw [Nat.sub_eq_zero_of_le hfetched]
      exact hinterval
    exact decide_eq_true hnew
  | ahead => exact absurd rfl hwhy

theorem sent_once (url : Url) (policy : KeyCachePolicy) (now : Instant) (before between : List KeyMove)
    (i j : Nat) (hlifespan : 0 < policy.lifespan) (hinterval : 0 < policy.minRefreshInterval)
    (hi : Sends ((opened url policy now).run before) i)
    (hj : Sends ((opened url policy now).run (before ++ .step i :: between)) j)
    (hnow : ((opened url policy now).run (before ++ .step i :: between)).now =
      ((opened url policy now).run before).now) :
    Once ((opened url policy now).run (before ++ [.step i])) between
      (fun d m => ∃ o, Loses policy i o d m) := by
  have hcache := cache_run url policy now
  have horder := run_inOrder url policy now
  have htimely := run_timely url policy now
  have hsplit (ms : List KeyMove) : (opened url policy now).run (before ++ .step i :: ms) =
      ((opened url policy now).run (before ++ [.step i])).run ms := by
    rw [← run_append, List.append_assoc, List.singleton_append]
  have hbegun : Under ((opened url policy now).run before).now i
      ((opened url policy now).run (before ++ [.step i])) := by
    obtain ⟨q, why, -, hnext, -⟩ := begins_step (hcache before) hi.idle hi.begins
    rw [run_concat]
    exact .retrieving q why hnext (turn_step (hcache before) i).now_le
  have hlater := under_run (hcache _) (fun ms => hsplit ms ▸ htimely _) hbegun between
  rw [← hsplit] at hlater
  refine hlater.resolve_left fun h => ?_
  obtain ⟨q, why, hchecking, -, hunsettled⟩ := begins_step (hcache _) hj.idle hj.begins
  have hwhy : why ≠ .ahead := by
    rintro rfl
    obtain ⟨q', p, hlookup, hq⟩ := hj.lookup
    cases hchecking.symm.trans hlookup
    have hask : Asks policy (opened url policy now) _ j q .ahead := run_explained url policy now _ j _ hchecking
    exact hq (hask.ahead_iff.1 rfl)
  cases h with
  | retrieving q' why' hi' =>
    obtain rfl : i = j := (horder _).holder_unique hi' trivial hchecking trivial
    cases hi'.symm.trans hchecking
  | storing q' why' s' hi' =>
    obtain rfl : i = j := (horder _).holder_unique hi' trivial hchecking trivial
    cases hi'.symm.trans hchecking
  | stored s hs hle =>
    have hsettled := settled_of_fetched hlifespan hinterval ((htimely _).stored s hs) (hnow ▸ hle) hwhy
    rw [hunsettled s hs] at hsettled
    cases hsettled

end KeyDesk

open Validator (Considers) in
/-- What the sender of a request can make a service ask for. A token that is not considered asks for nothing
and leaves everything as it was; any other one asks once, if nothing is cached. So without caches a run asks,
for each place, as often as there are candidates that are considered and whose keys are there. With a cache
an issuer's candidates ask once at most at one instant, if they are answered with sets; where they stop the
run, they have asked for nothing before. It is so also for many requests at once. -/
theorem Registry.validate_retrievals (web : Retriever σ) (now : Seconds) (instant : Instant) :
    (∀ (v : Validator) (token : String) (st : KeyState (σ × Exchanges)), ¬Considers token →
      ∃ e, v.validate web.recording now instant token st = .ok (.error e, st)) ∧
    (∀ (v : Validator) (token : String) (st : KeyState (σ × Exchanges)), Considers token →
      v.keys.cache = none → ∃ result, v.validate web.recording now instant token st =
        .ok (result, ⟨st.stored, ((web.retrieve v.keys.jwksUrl st.web.1).2,
          st.web.2 ++ [(v.keys.jwksUrl, (web.retrieve v.keys.jwksUrl st.web.1).1)])⟩)) ∧
    (∀ (r : Registry) (q : Request) (st : TrustState (σ × Exchanges)),
      (∀ i ∈ r.issuers, i.validator.keys.cache = none) →
      ∃ ctx st' es, r.validate web.recording now instant q st = .ok (ctx, st') ∧
        st'.web.2 = st.web.2 ++ es ∧ es.map Prod.fst = (r.candidates q).filterMap r.keyPlace? ∧
        ∀ url, (es.map Prod.fst).count url = (r.candidates q).countP fun c => r.keyPlace? c = some url) ∧
    (∀ (r : Registry) (cs : List Candidate) (ctx ctx' : Context) (st st' : TrustState (σ × Exchanges)),
      r.validateAll web.recording now instant cs ctx st = .ok (ctx', st') →
      (r.turns web now instant cs st).map Prod.fst = cs ∧
        st'.web.2 = st.web.2 ++ (r.turns web now instant cs st).flatMap Prod.snd) ∧
    (∀ (r : Registry) (i : TrustedIssuer) (policy : KeyCachePolicy) (cs : List Candidate)
      (st : TrustState (σ × Exchanges)), i ∈ r.issuers → i.validator.keys.cache = some policy →
      0 < policy.lifespan → 0 < policy.minRefreshInterval →
      (∀ x ∈ r.exchangesFor web now instant i.shortName cs st,
        ∃ ks, KeySource.readAnswer x.2 = .ok ks) →
      (r.exchangesFor web now instant i.shortName cs st).length ≤ 1 ∧
      (∀ x ∈ r.exchangesFor web now instant i.shortName cs st,
        ∃ w, x = (i.jwksUrl, (web.retrieve i.jwksUrl w).1)) ∧
      ∀ before c after ctx mid st₁ a, cs = before ++ c :: after → c.shortName = i.shortName →
        r.validateAll web.recording now instant before ctx st = .ok (mid, st₁) →
        r.validateCandidate web.recording now instant c st₁ = .error a →
        r.exchangesFor web now instant i.shortName before st = []) ∧
    ∀ (url : Url) (policy : KeyCachePolicy) (start : Instant) (before between : List KeyMove) (i j : Nat),
      0 < policy.lifespan → 0 < policy.minRefreshInterval →
      ((KeyDesk.opened url policy start).run before).Sends i →
      ((KeyDesk.opened url policy start).run (before ++ .step i :: between)).Sends j →
      ((KeyDesk.opened url policy start).run (before ++ .step i :: between)).now =
        ((KeyDesk.opened url policy start).run before).now →
      KeyDesk.Once ((KeyDesk.opened url policy start).run (before ++ [.step i])) between
        fun d m => ∃ o, KeyDesk.Loses policy i o d m := by
  refine ⟨?_, ?_, ?_, ?_, ?_, ?_⟩
  · exact fun v token st h => Validator.validate_not_considers web.recording v now instant h st
  · exact fun v token st h hc => Validator.validate_uncached web now instant hc h st
  · intro r q st hr
    obtain ⟨ctx, st', es, hrun, hrecord, hplaces⟩ :=
      validateAll_uncached web now instant hr (r.candidates q) {} st
    refine ⟨ctx, st', es, hrun, hrecord, hplaces, fun url => ?_⟩
    rw [hplaces, List.count_filterMap]
    exact List.countP_congr fun c _ => by simp
  · exact fun r cs ctx ctx' st st' h => turns_record h
  · intro r i policy cs st hi hc hlifespan hinterval hsets
    obtain ⟨hone, hstop⟩ := exchangesFor_le_one hi hc hlifespan hinterval hsets
    exact ⟨hone, exchangesFor_own hi hc hinterval, hstop⟩
  · exact KeyDesk.sent_once

namespace Sample

open KeyDesk Validator

def keeper : TrustedIssuer := { issuer with settings := { issuer.settings with jwksCache := some {} } }

def keepers : Registry := ⟨[keeper], by decide, by decide⟩

theorem token_considered : Considers token.encoded :=
  ⟨compact, (parse_eq_ok token_parse).1, (parse_eq_ok token_parse).2⟩

theorem sends_missed : ((opened keysUrl quarterHour 0).run missed).Sends 1 where
  lookup := ⟨newKey, .checking .unknownKey, by decide +kernel, by decide⟩
  idle := by decide +kernel
  begins := by decide +kernel

theorem sends_refused : ((opened keysUrl quarterHour 0).run (missed ++ .step 1 :: refused)).Sends 2 where
  lookup := ⟨newKey, .checking .unknownKey, by decide +kernel, by decide⟩
  idle := by decide +kernel
  begins := by decide +kernel

theorem validate_retrievals_token :
    (¬Considers "" ∧ ∃ e, issuer.validator.validate (Retriever.constant (.ok document)).recording 0 0 ""
        ⟨none, ((), [])⟩ = .ok (.error e, ⟨none, ((), [])⟩)) ∧
      (Considers token.encoded ∧ issuer.validator.keys.cache = none ∧
        ∃ result, issuer.validator.validate (Retriever.constant (.ok document)).recording 0 0 token.encoded
          ⟨none, ((), [])⟩ = .ok (result, ⟨none, ((), [(place, .ok document)])⟩)) ∧
      ((∀ i ∈ registry.issuers, i.validator.keys.cache = none) ∧
        ∃ ctx st es, registry.validate (Retriever.constant (.ok document)).recording 0 0 request
            ⟨[], ((), [])⟩ = .ok (ctx, st) ∧ st.web.2 = es ∧ es.map Prod.fst = [place]) ∧
      (keeper ∈ keepers.issuers ∧ keeper.validator.keys.cache = some { lifespan := 900000 } ∧
        (∀ x ∈ keepers.exchangesFor (.constant (.ok document)) 0 0 keeper.shortName
          [⟨"a", token.encoded⟩, ⟨"a", token.encoded⟩] ⟨[], ((), [])⟩,
            ∃ ks, KeySource.readAnswer x.2 = .ok ks) ∧
        (keepers.exchangesFor (.constant (.ok document)) 0 0 keeper.shortName
          [⟨"a", token.encoded⟩, ⟨"a", token.encoded⟩] ⟨[], ((), [])⟩).length ≤ 1) ∧
      ((opened keysUrl quarterHour 0).run missed).Sends 1 ∧
      ((opened keysUrl quarterHour 0).run (missed ++ .step 1 :: refused)).Sends 2 ∧
      Once ((opened keysUrl quarterHour 0).run (missed ++ [.step 1])) refused
        fun d m => ∃ o, Loses quarterHour 1 o d m := by
  obtain ⟨hidle, honce, hrequest, -, hcached, hmany⟩ :=
    Registry.validate_retrievals (.constant (.ok document)) 0 0
  have hempty : ¬Considers "" := by
    rintro ⟨c, hc, -⟩
    cases hc
  have hcaches : ∀ i ∈ registry.issuers, i.validator.keys.cache = none := by decide
  have hplace : registry.keyPlace? ⟨"a", token.encoded⟩ = some place := by
    have hissuer : registry.byShortName? "a" = some issuer := rfl
    rw [Registry.keyPlace?, hissuer, Option.bind_some, if_pos token_considered]
    rfl
  obtain ⟨ctx, st, es, hrun, hrecord, hplaces, -⟩ := hrequest registry request ⟨[], ((), [])⟩ hcaches
  rw [request_candidates, List.filterMap_cons, hplace] at hplaces
  have hkeeper : keeper ∈ keepers.issuers := List.mem_singleton_self _
  have hpolicy : keeper.validator.keys.cache = some { lifespan := 900000 } := rfl
  have hsets : ∀ x ∈ keepers.exchangesFor (.constant (.ok document)) 0 0 keeper.shortName
      [⟨"a", token.encoded⟩, ⟨"a", token.encoded⟩] ⟨[], ((), [])⟩,
      ∃ ks, KeySource.readAnswer x.2 = .ok ks := by
    intro x hx
    obtain ⟨w, rfl⟩ := Registry.exchangesFor_own hkeeper hpolicy (by decide) x hx
    exact ⟨[key], readAnswer_ok document_keys⟩
  exact ⟨⟨hempty, hidle _ _ _ hempty⟩, ⟨token_considered, rfl, honce _ _ _ token_considered rfl⟩,
    ⟨hcaches, ctx, st, es, hrun, hrecord, hplaces⟩,
    ⟨hkeeper, hpolicy, hsets, (hcached keepers keeper _ _ _ hkeeper hpolicy (by decide) (by decide) hsets).1⟩,
    sends_missed, sends_refused, hmany keysUrl quarterHour 0 missed refused 1 2 (by decide) (by decide)
      sends_missed sends_refused (by decide +kernel)⟩

end Sample
end BearerTrust

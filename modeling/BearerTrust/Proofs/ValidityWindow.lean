import BearerTrust.Proofs.Assertion
import BearerTrust.Proofs.TokenReading

namespace BearerTrust

namespace Demand

variable {d : Demand} {c : Claims} {first now later last skew wider : Seconds}

def withClockSkew (skew : Seconds) : Demand → Demand
  | unexpired _ => unexpired skew
  | issued _ => issued skew
  | begun _ => begun skew
  | d => d

theorem started_later {t : Seconds} (hle : now ≤ later) (hwider : skew ≤ wider)
    (h : t.toNat ≤ min (now.toNat + skew.toNat) (2 ^ 64 - 1)) :
    t.toNat ≤ min (later.toNat + wider.toNat) (2 ^ 64 - 1) := by
  rw [UInt64.le_iff_toNat_le] at hle hwider
  omega

theorem unexpired_earlier {t : Seconds} (hle : now ≤ later) (hwider : skew ≤ wider)
    (h : later.toNat - skew.toNat < t.toNat) : now.toNat - wider.toNat < t.toNat := by
  rw [UInt64.le_iff_toNat_le] at hle hwider
  omega

theorem met_later (hle : now ≤ later) (h : d.Met c now) :
    d.Met c later ∨ ∃ skew, d = .unexpired skew := by
  cases d with
  | present | issuedBy | audienceNamed | audienceAccepted => exact .inl h
  | unexpired skew => exact .inr ⟨skew, rfl⟩
  | issued | begun => exact .inl fun t ht => started_later hle (UInt64.le_refl _) (h t ht)

theorem expired_later (hle : now ≤ later) (h : ¬(unexpired skew).Met c now) :
    ¬(unexpired skew).Met c later :=
  fun hlater => h fun t ht => unexpired_earlier hle (UInt64.le_refl _) (hlater t ht)

theorem met_between (hfirst : first ≤ now) (hlast : now ≤ last) (h : d.Met c first)
    (h' : d.Met c last) : d.Met c now := by
  cases d with
  | present | issuedBy | audienceNamed | audienceAccepted => exact h
  | unexpired => exact fun t ht => unexpired_earlier hlast (UInt64.le_refl _) (h' t ht)
  | issued | begun => exact fun t ht => started_later hfirst (UInt64.le_refl _) (h t ht)

theorem met_wider (hwider : skew ≤ wider) (h : (d.withClockSkew skew).Met c now) :
    (d.withClockSkew wider).Met c now := by
  cases d with
  | present | issuedBy | audienceNamed | audienceAccepted => exact h
  | unexpired => exact fun t ht => unexpired_earlier (UInt64.le_refl _) hwider (h t ht)
  | issued | begun => exact fun t ht => started_later (UInt64.le_refl _) hwider (h t ht)

theorem eq_unexpired_of_error (h : d.error c = .expired) : ∃ skew, d = .unexpired skew := by
  cases d with
  | unexpired skew => exact ⟨skew, rfl⟩
  | present | issuedBy | issued | begun | audienceNamed | audienceAccepted => cases h

end Demand

namespace Decides

variable {c : Claims} {now later : Seconds} {ds : List Demand} {r s : Except TokenError Unit}

theorem unique (hr : Decides c now ds r) (hs : Decides c now ds s) : r = s := by
  induction hr with
  | accepted => cases hs; rfl
  | unmet hd =>
    cases hs with
    | unmet => rfl
    | met hd' => exact absurd hd' hd
  | met hd _ ih =>
    cases hs with
    | unmet hd' => exact absurd hd hd'
    | met _ hs => exact ih hs

theorem expired_later (hle : now ≤ later) (h : Decides c now ds (.error .expired)) :
    Decides c later ds (.error .expired) := by
  generalize hr : Except.error TokenError.expired = r at h
  induction h with
  | accepted => cases hr
  | @unmet d ds hd =>
    obtain ⟨skew, rfl⟩ := Demand.eq_unexpired_of_error (Except.error.inj hr).symm
    exact .unmet (Demand.expired_later hle hd)
  | @met d ds r hd _ ih =>
    by_cases hlater : d.Met c later
    · exact .met hlater (ih hr)
    · obtain hmet | ⟨skew, rfl⟩ := Demand.met_later hle hd
      · exact absurd hmet hlater
      · rw [← hr]
        exact .unmet hlater

end Decides

namespace ClaimChecks

variable {v : ClaimChecks} {c : Claims} {first now later last skew wider : Seconds}

def withClockSkew (skew : Seconds) : ClaimChecks → ClaimChecks
  | .default v => .default { v with clockSkew := skew }
  | .legacy v => .legacy { v with clockSkew := skew }

theorem demands_withClockSkew (v : ClaimChecks) (skew : Seconds) :
    (v.withClockSkew skew).demands = v.demands.map (Demand.withClockSkew skew) := by
  cases v with
  | default v => simp [withClockSkew, demands, DefaultChecks.demands, Demand.withClockSkew]
  | legacy v => simp [withClockSkew, demands, LegacyChecks.demands, Demand.withClockSkew]

theorem check_ok_iff : v.check c now = .ok () ↔ ∀ d ∈ v.demands, d.Met c now := v.check_decides.ok_iff

theorem check_expired_later (hle : now ≤ later) (h : v.check c now = .error .expired) :
    v.check c later = .error .expired := by
  have hdecides : Decides c now v.demands (v.check c now) := v.check_decides
  rw [h] at hdecides
  exact v.check_decides.unique (hdecides.expired_later hle)

theorem check_between (hfirst : first ≤ now) (hlast : now ≤ last) (h : v.check c first = .ok ())
    (h' : v.check c last = .ok ()) : v.check c now = .ok () := by
  rw [check_ok_iff] at h h' ⊢
  exact fun d hd => Demand.met_between hfirst hlast (h d hd) (h' d hd)

theorem check_wider (hwider : skew ≤ wider) (h : (v.withClockSkew skew).check c now = .ok ()) :
    (v.withClockSkew wider).check c now = .ok () := by
  rw [check_ok_iff, demands_withClockSkew, List.forall_mem_map] at h ⊢
  exact fun d hd => Demand.met_wider hwider (h d hd)

end ClaimChecks

/-- An occasion to validate a token: its key is looked up in one set of keys. -/
structure Occasion (σ : Type) (source : KeySource) (token : String) (ks : KeySet) where
  web : Retriever σ
  instant : Instant
  state : KeyState σ
  looks : ∀ c, Validator.parse token = .ok c → ∃ st,
    source.verificationKey web c.header.keyId c.header.algorithm instant state =
      .ok (.ok (ks.choose c.header.keyId c.header.algorithm), st)

namespace Validator

variable {σ τ ρ : Type} {v : Validator} {now : Seconds} {token : String} {ks : KeySet}

def withClockSkew (v : Validator) (skew : Seconds) : Validator :=
  { v with checks := v.checks.withClockSkew skew }

/-- What comes of a token at a time. -/
def outcomeOn (v : Validator) (now : Seconds) (x : Occasion σ v.keys token ks) :
    Except Abort (Except TokenError Token) :=
  (v.validate x.web now x.instant token x.state).map Prod.fst

def content (ks : KeySet) (token : String) : Except TokenError Claims :=
  parse token >>= fun c =>
    match ks.choose c.header.keyId c.header.algorithm with
    | none => .error .unknownKey
    | some k => verify k c

theorem outcomeOn_eq (x : Occasion σ v.keys token ks) : v.outcomeOn now x =
    .ok (content ks token >>= fun claims =>
      (v.checks.check claims now).map fun _ => ⟨token, claims⟩) := by
  unfold outcomeOn content
  cases hc : parse token with
  | error e =>
    rw [validate_of_parse_error hc]
    rfl
  | ok c =>
    obtain ⟨st, hfound⟩ := x.looks c hc
    rw [validate_of_parse hc, hfound]
    change Except.ok (v.conclude now token c (.ok (ks.choose c.header.keyId c.header.algorithm))) = _
    cases hk : ks.choose c.header.keyId c.header.algorithm with
    | none => simp [conclude, bind, Except.bind, hk]
    | some k =>
      simp only [conclude, bind, Except.bind, hk]
      cases verify k c with
      | error e => rfl
      | ok claims => cases hcheck : v.checks.check claims now <;> simp [Except.map, hcheck]

theorem verify_ne_expired (k : Jwk) (c : Compact) : verify k c ≠ .error .expired := by
  unfold verify
  split
  · split <;> nofun
  · nofun

theorem content_ne_expired : content ks token ≠ .error .expired := by
  unfold content
  rw [ne_eq, bind_eq_error_iff]
  rintro (hparse | ⟨c, -, hc⟩)
  · unfold parse at hparse
    split at hparse
    · cases hparse
    · split at hparse <;> cases hparse
  · split at hc
    · cases hc
    · exact verify_ne_expired _ _ hc

theorem outcomeOn_eq_expired_iff {x : Occasion σ v.keys token ks} :
    v.outcomeOn now x = .ok (.error .expired) ↔
      ∃ claims, content ks token = .ok claims ∧ v.checks.check claims now = .error .expired := by
  rw [outcomeOn_eq, Except.ok.injEq, bind_eq_error_iff]
  simp only [map_eq_error_iff]
  exact or_iff_right content_ne_expired

theorem outcomeOn_eq_ok_iff {x : Occasion σ v.keys token ks} {t : Token} :
    v.outcomeOn now x = .ok (.ok t) ↔ ∃ claims, content ks token = .ok claims ∧
      v.checks.check claims now = .ok () ∧ ⟨token, claims⟩ = t := by
  rw [outcomeOn_eq, Except.ok.injEq, bind_eq_ok_iff]
  simp only [map_eq_ok_iff]
  constructor
  · rintro ⟨claims, hclaims, ⟨⟩, hcheck, ht⟩
    exact ⟨claims, hclaims, hcheck, ht⟩
  · rintro ⟨claims, hclaims, hcheck, ht⟩
    exact ⟨claims, hclaims, (), hcheck, ht⟩

/-- Over one set of keys, on whatever occasions: a token that has expired has expired at any later time; a
token that is accepted at two times is accepted at every time between them; and what is accepted with some
tolerance is accepted at the same time with more. -/
theorem validate_monotone (v : Validator) (token : String) (ks : KeySet) (x : Occasion σ v.keys token ks)
    (y : Occasion τ v.keys token ks) (z : Occasion ρ v.keys token ks) :
    (∀ now later, now ≤ later → v.outcomeOn now x = .ok (.error .expired) →
      v.outcomeOn later y = .ok (.error .expired)) ∧
    (∀ first now last t u, first ≤ now → now ≤ last → v.outcomeOn first x = .ok (.ok t) →
      v.outcomeOn last y = .ok (.ok u) → v.outcomeOn now z = .ok (.ok t)) ∧
    ∀ skew wider now t, skew ≤ wider → (v.withClockSkew skew).outcomeOn now x = .ok (.ok t) →
      (v.withClockSkew wider).outcomeOn now y = .ok (.ok t) := by
  refine ⟨?_, ?_, ?_⟩
  · intro now later hle h
    obtain ⟨claims, hclaims, hcheck⟩ := outcomeOn_eq_expired_iff.1 h
    exact outcomeOn_eq_expired_iff.2 ⟨claims, hclaims, ClaimChecks.check_expired_later hle hcheck⟩
  · intro first now last t u hfirst hlast h h'
    obtain ⟨claims, hclaims, hcheck, ht⟩ := outcomeOn_eq_ok_iff.1 h
    obtain ⟨claims', hclaims', hcheck', -⟩ := outcomeOn_eq_ok_iff.1 h'
    obtain rfl : claims = claims' := Except.ok.inj (hclaims.symm.trans hclaims')
    have hbetween := ClaimChecks.check_between hfirst hlast hcheck hcheck'
    exact outcomeOn_eq_ok_iff.2 ⟨claims, hclaims, hbetween, ht⟩
  · intro skew wider now t hwider h
    obtain ⟨claims, hclaims, hcheck, ht⟩ := outcomeOn_eq_ok_iff.1 h
    exact outcomeOn_eq_ok_iff.2 ⟨claims, hclaims, ClaimChecks.check_wider hwider hcheck, ht⟩

end Validator

namespace Sample

def assertion : String := signer.assertion "id" place 1700000000 [1, 2]

def signerOccasion : Occasion Unit signerSource assertion [signerEntry] where
  web := .constant (.ok [])
  instant := 0
  state := signerState
  looks c _ := by
    refine ⟨signerState, ?_⟩
    rw [KeySource.verificationKey_cached rfl]
    change (if (KeySet.choose [signerEntry] c.header.keyId c.header.algorithm).isSome then _ else _) = _
    split <;> rfl

def patient (skew : Seconds) : Validator := ⟨signerSource, .default ⟨"id", [place.text], [], skew⟩⟩

theorem outcomeOn_assertion : ∃ t : Token, t.encoded = assertion ∧
    (patient 0).outcomeOn 1700000000 signerOccasion = .ok (.ok t) ∧
    (patient 0).outcomeOn 1700000059 signerOccasion = .ok (.ok t) ∧
    (patient 0).outcomeOn 1700000060 signerOccasion = .ok (.error .expired) := by
  obtain ⟨ms, hms, hasserts⟩ := exists_assertionMembers "id" place 1700000000 [1, 2]
  have hkeys : KeySource.keys (.constant (.ok [])) signerSource 0 signerState =
      .ok (.ok [signerEntry], signerState) := rfl
  have houtcome {now : Seconds} {r : Except TokenError Unit}
      (h : (patient 0).checks.check (assertedClaims "id" place 1700000000 ms) now = r) :
      (patient 0).outcomeOn now signerOccasion =
        .ok (r.map fun _ => ⟨assertion, assertedClaims "id" place 1700000000 ms⟩) := by
    have hwritten := Validator.validate_written (v := patient 0) (k := signer) clientKey_genuine.sound
      signer_publishes hkeys (legible_assertionClaims "id" place 1700000000 [1, 2]) hms hasserts.claims now
    rw [h] at hwritten
    exact congrArg (Except.map Prod.fst) hwritten
  have haccepted {now : Seconds} (h : (1700000000 : Seconds).toNat ≤ min (now.toNat + 0) (2 ^ 64 - 1) ∧
      now.toNat - 0 < (1700000000 : Seconds).toNat + 60) :
      (patient 0).checks.check (assertedClaims "id" place 1700000000 ms) now = .ok () :=
    (DefaultChecks.check_ok_iff _).2 ((hasserts.accepts_iff (by decide)).2 h)
  have hexpired : (patient 0).checks.check (assertedClaims "id" place 1700000000 ms) 1700000060 =
      .error .expired := by
    obtain rfl := Json.object.inj hms
    decide +kernel
  exact ⟨⟨assertion, assertedClaims "id" place 1700000000 ms⟩, rfl, houtcome (haccepted (by decide)),
    houtcome (haccepted (by decide)), houtcome hexpired⟩

theorem validate_monotone_assertion :
    ∃ t : Token, t.encoded = assertion ∧
      ((1700000060 : Seconds) ≤ 1700000061 ∧
        (patient 0).outcomeOn 1700000060 signerOccasion = .ok (.error .expired) ∧
        (patient 0).outcomeOn 1700000061 signerOccasion = .ok (.error .expired)) ∧
      ((1700000000 : Seconds) ≤ 1700000030 ∧ (1700000030 : Seconds) ≤ 1700000059 ∧
        (patient 0).outcomeOn 1700000000 signerOccasion = .ok (.ok t) ∧
        (patient 0).outcomeOn 1700000059 signerOccasion = .ok (.ok t) ∧
        (patient 0).outcomeOn 1700000030 signerOccasion = .ok (.ok t)) ∧
      (0 : Seconds) ≤ 30 ∧ (patient 30).outcomeOn 1700000059 signerOccasion = .ok (.ok t) := by
  obtain ⟨t, ht, hfirst, hlast, hexpired⟩ := outcomeOn_assertion
  obtain ⟨hlater, hbetween, hwider⟩ := Validator.validate_monotone (patient 0) assertion [signerEntry]
    signerOccasion signerOccasion signerOccasion
  have hafter : (1700000060 : Seconds) ≤ 1700000061 := by decide
  have hbefore : (1700000000 : Seconds) ≤ 1700000030 := by decide
  have hwithin : (1700000030 : Seconds) ≤ 1700000059 := by decide
  have hmore : (0 : Seconds) ≤ 30 := by decide
  exact ⟨t, ht, ⟨hafter, hexpired, hlater _ _ hafter hexpired⟩,
    ⟨hbefore, hwithin, hfirst, hlast, hbetween _ _ _ t t hbefore hwithin hfirst hlast⟩,
    hmore, hwider 0 30 _ t hmore hlast⟩

end Sample
end BearerTrust

import BearerTrust.Proofs.DeskHistory
import BearerTrust.Proofs.Soundness

namespace BearerTrust

namespace KeyDesk

variable {d d' : KeyDesk} {policy : KeyCachePolicy} {i : Nat} {m : KeyMove}

def Outlasts (policy : KeyCachePolicy) (i : Nat) (d : KeyDesk) (m : KeyMove) : Prop :=
  d.isRetrieving i = true ∧ Instant.limit ≤ d.now + policy.lifespan ∧
    ∃ body ks, m = .answer i (.ok body) ∧ KeySet.parse? body = some ks

theorem loses_abort_iff {a : Abort} :
    Loses policy i (.abort a) d m ↔ a = .instantOverflow ∧ Outlasts policy i d m := by
  constructor
  · rintro ⟨hi, answer, rfl, hfails⟩
    cases hfails with
    | overflow ks hks hlimit =>
      obtain ⟨body, rfl, hbody⟩ := KeySource.readAnswer_eq_ok_iff.1 hks
      exact ⟨rfl, hi, hlimit, body, ks, rfl, hbody⟩
  · rintro ⟨rfl, hi, hlimit, body, ks, rfl, hbody⟩
    have hks := KeySource.readAnswer_eq_ok_iff.2 ⟨body, rfl, hbody⟩
    exact ⟨hi, .ok body, rfl, .overflow ks hks hlimit⟩

theorem Turn.aborts (ht : Turn policy d m d') (h : Outlasts policy i d m) :
    d'.outcome? i = some (.abort .instantOverflow) := by
  obtain ⟨hretrieving, hlimit, body, ks, rfl, hbody⟩ := h
  obtain ⟨q, why, hi⟩ := isRetrieving_iff.1 hretrieving
  have hks := KeySource.readAnswer_eq_ok_iff.2 ⟨body, rfl, hbody⟩
  rcases ht.own hi rfl with ⟨hignores, -⟩ | ⟨_, ⟨⟩, ⟨o, ho, rfl⟩ | ⟨_, -, hfits, -⟩⟩
  · cases hretrieving.symm.trans hignores
  · cases ho with
    | answer e he => cases hks.symm.trans he
    | overflow => exact outcome?_eq_some_iff.2 ⟨q, updates_leave.self⟩
  · exact absurd hlimit (Nat.not_le.2 hfits)

theorem run_outcome {o : KeyOutcome} (hc : d.source.cache = some policy) (ho : d.outcome? i = some o)
    (ms : List KeyMove) : (d.run ms).outcome? i = some o := by
  obtain ⟨q, hi⟩ := outcome?_eq_some_iff.1 ho
  refine outcome?_eq_some_iff.2 ⟨q, ?_⟩
  exact run_invariant (P := fun _ e => e.caller? i = some ⟨q, .done o⟩) hc hi
    (fun _ _ _ h ht => ht.done h) ms

theorem run_aborts_iff (url : Url) (policy : KeyCachePolicy) (start : Instant) (ms : List KeyMove)
    (i : Nat) (a : Abort) :
    ((opened url policy start).run ms).outcome? i = some (.abort a) ↔
      a = .instantOverflow ∧ Once (opened url policy start) ms (Outlasts policy i) := by
  constructor
  · intro ho
    obtain ⟨q, hi⟩ := outcome?_eq_some_iff.1 ho
    have hlost : Once _ ms (Loses policy i (.abort a)) := run_explained url policy start ms i _ hi
    obtain ⟨before, m, after, rfl, hm⟩ := hlost
    obtain ⟨ha, hm⟩ := loses_abort_iff.1 hm
    exact ⟨ha, before, m, after, rfl, hm⟩
  · rintro ⟨rfl, before, m, after, rfl, hm⟩
    -- Who is done stays so, whatever comes after.
    have ht := turn_apply (cache_run url policy start before) m
    have hcache := cache_run url policy start (before ++ [m])
    rw [List.append_cons, run_append]
    rw [run_concat] at hcache ⊢
    exact run_outcome hcache (ht.aborts hm) after

end KeyDesk

variable {σ : Type}

namespace KeyQuery

/-- The query is made, and what comes of it is put away. -/
def ask (web : Retriever σ) (source : KeySource) (instant : Instant) (st : KeyState σ) :
    KeyQuery → Except Abort (KeyState σ)
  | keys => (source.keys web instant st).map Prod.snd
  | key id algorithm => (source.verificationKey web id algorithm instant st).map Prod.snd
  | refreshAhead => (source.refreshAhead web instant st).map Prod.snd

/-- A stored set does not do for the query: it has expired or expires soon, or it lacks the key and
is not new. -/
def Misses (policy : KeyCachePolicy) (instant : Instant) (c : StoredKeys) : KeyQuery → Prop
  | keys => c.expiresAt ≤ instant
  | key id algorithm => c.expiresAt ≤ instant ∨
      c.keys.choose id algorithm = none ∧ policy.minRefreshInterval ≤ instant - c.fetchedAt
  | refreshAhead => c.expiresAt - instant ≤ policy.refreshAhead

end KeyQuery

inductive Validator.Use where
  | query (q : KeyQuery)
  | validate (now : Seconds) (token : String)
deriving DecidableEq, Inhabited

namespace Validator.Use

def perform (web : Retriever σ) (v : Validator) (instant : Instant) (st : KeyState σ) :
    Use → Except Abort (KeyState σ)
  | query q => q.ask web v.keys instant st
  | validate now token => (v.validate web now instant token st).map Prod.snd

def query? : Use → Option KeyQuery
  | query q => some q
  | validate _ token =>
    match Validator.parse token with
    | .ok c => some (.key c.header.keyId c.header.algorithm)
    | .error _ => none

end Validator.Use

section Use

variable {web : Retriever σ} {v : Validator} {source : KeySource} {policy : KeyCachePolicy}
  {start now instant : Instant} {st st' : KeyState σ} {q : KeyQuery} {u : Validator.Use} {a : Abort}

namespace KeySource

theorem refresh_overflows_iff {why : RefreshReason} :
    refresh web source policy why instant st = .error a ↔ a = .instantOverflow ∧
      Instant.limit ≤ instant + policy.lifespan ∧
      (∃ ks, readAnswer (web.retrieve source.jwksUrl st.web).1 = .ok ks) ∧
        ∀ c, st.stored = some c → why.isSettledBy policy instant c = false := by
  rw [refresh_eq_error_iff, renew_eq_error_iff, and_comm, and_assoc, and_assoc]

theorem forall_stored_refresh {why : RefreshReason} {P : StoredKeys → Prop}
    {r : Except KeySourceError KeySet} (h : refresh web source policy why instant st = .ok (r, st'))
    (hnew : ∀ ks, P ⟨ks, instant, instant + policy.lifespan⟩) (hold : ∀ c, st.stored = some c → P c) :
    ∀ c, st'.stored = some c → P c := by
  rcases refresh_eq_ok h with ⟨rfl, -⟩ | h
  · exact hold
  · obtain ⟨-, -, ⟨e, -, hs⟩ | ⟨ks, -, -, hs⟩⟩ := renew_eq_ok h
    · rw [hs]
      exact hold
    · rw [hs]
      rintro c ⟨⟩
      exact hnew ks

end KeySource

namespace KeyQuery

theorem ask_eq_error_iff (hc : source.cache = some policy) :
    q.ask web source instant st = .error a ↔ a = .instantOverflow ∧
      Instant.limit ≤ instant + policy.lifespan ∧
      (∃ ks, KeySource.readAnswer (web.retrieve source.jwksUrl st.web).1 = .ok ks) ∧
        ∀ c, st.stored = some c → q.Misses policy instant c := by
  cases q with
  | keys =>
    rw [ask, map_eq_error_iff, KeySource.keys_cached hc, KeySource.refresh_overflows_iff]
    simp only [RefreshReason.isSettledBy, decide_eq_false_iff_not, Nat.not_lt, Misses]
  | key id algorithm =>
    rw [ask, map_eq_error_iff, KeySource.verificationKey_eq_error_iff]
    simp only [KeySource.Overruns, hc, Option.some.injEq, exists_and_left, exists_eq_left', Misses,
      exists_and_right]
  | refreshAhead =>
    rw [ask, map_eq_error_iff, KeySource.refreshAhead_cached hc, map_eq_error_iff,
      KeySource.refresh_overflows_iff]
    simp only [RefreshReason.isSettledBy, decide_eq_false_iff_not, Nat.not_lt, Misses]

theorem forall_stored_ask {P : StoredKeys → Prop} (hc : source.cache = some policy)
    (h : q.ask web source instant st = .ok st')
    (hnew : ∀ ks, P ⟨ks, instant, instant + policy.lifespan⟩) (hold : ∀ c, st.stored = some c → P c) :
    ∀ c, st'.stored = some c → P c := by
  cases q with
  | keys =>
    obtain ⟨⟨r, st₁⟩, hr, rfl⟩ := map_eq_ok_iff.1 h
    rw [KeySource.keys_cached hc] at hr
    exact KeySource.forall_stored_refresh hr hnew hold
  | refreshAhead =>
    obtain ⟨⟨r, st₁⟩, hr, rfl⟩ := map_eq_ok_iff.1 h
    rw [KeySource.refreshAhead_cached hc] at hr
    obtain ⟨⟨r₁, st₂⟩, hr₁, ⟨⟩⟩ := map_eq_ok_iff.1 hr
    exact KeySource.forall_stored_refresh hr₁ hnew hold
  | key id algorithm =>
    obtain ⟨⟨r, st₂⟩, hr, rfl⟩ := map_eq_ok_iff.1 h
    rw [KeySource.verificationKey_cached hc] at hr
    obtain ⟨⟨r₁, st₁⟩, hr₁, hr⟩ := bind_eq_ok_iff.1 hr
    have hfirst := KeySource.forall_stored_refresh hr₁ hnew hold
    cases r₁ with
    | error e =>
      cases hr
      exact hfirst
    | ok ks =>
      dsimp only at hr
      split at hr
      · cases hr
        exact hfirst
      · obtain ⟨⟨r₂, st₃⟩, hr₂, ⟨⟩⟩ := map_eq_ok_iff.1 hr
        exact KeySource.forall_stored_refresh hr₂ hnew hfirst

end KeyQuery

namespace Validator.Use

theorem perform_of_query? (hq : u.query? = some q) :
    u.perform web v instant st = q.ask web v.keys instant st := by
  cases u with
  | query q' => cases hq; rfl
  | validate now token =>
    simp only [query?] at hq
    split at hq
    · next c hparse =>
      cases hq
      rw [perform, Validator.validate_of_parse hparse, KeyQuery.ask]
      cases v.keys.verificationKey web c.header.keyId c.header.algorithm instant st <;> rfl
    · cases hq

theorem perform_of_no_query (hq : u.query? = none) : u.perform web v instant st = .ok st := by
  cases u with
  | query q => cases hq
  | validate now token =>
    simp only [query?] at hq
    split at hq
    · cases hq
    · next e hparse =>
      rw [perform, Validator.validate_of_parse_error hparse]
      rfl

theorem perform_eq_error_iff (hc : v.keys.cache = some policy) :
    u.perform web v instant st = .error a ↔ a = .instantOverflow ∧
      Instant.limit ≤ instant + policy.lifespan ∧
      (∃ ks, KeySource.readAnswer (web.retrieve v.keys.jwksUrl st.web).1 = .ok ks) ∧
        ∃ q, u.query? = some q ∧ ∀ c, st.stored = some c → q.Misses policy instant c := by
  cases hq : u.query? with
  | none => simp [perform_of_no_query hq]
  | some q => simp [perform_of_query? hq, KeyQuery.ask_eq_error_iff hc]

end Validator.Use

/-- The instants and key states that a validator comes to by one use after another. -/
inductive KeyState.Reached (web : Retriever σ) (v : Validator) (start : Instant) :
    Instant → KeyState σ → Prop
  | start (w : σ) : Reached web v start start ⟨none, w⟩
  | pass {now : Instant} {st : KeyState σ} (span : Span) (w : σ) (h : Reached web v start now st) :
      Reached web v start (now + span) { st with web := w }
  | use {now : Instant} {st st' : KeyState σ} (u : Validator.Use) (h : Reached web v start now st)
      (hu : u.perform web v now st = .ok st') : Reached web v start now st'

theorem KeyState.Reached.dated (hc : v.keys.cache = some policy) (h : Reached web v start now st) :
    ∀ c, st.stored = some c → KeyDesk.Dated policy now c := by
  induction h with
  | start w => exact nofun
  | pass span w _ ih => exact fun c hs => (ih c hs).later (Nat.le_add_right _ _)
  | use u _ hu ih =>
    cases hq : u.query? with
    | none =>
      rw [Validator.Use.perform_of_no_query hq] at hu
      cases hu
      exact ih
    | some q =>
      rw [Validator.Use.perform_of_query? hq] at hu
      exact KeyQuery.forall_stored_ask hc hu (fun _ => ⟨Nat.le_refl _, rfl⟩) ih

end Use

namespace TrustedIssuer

variable {i : TrustedIssuer} {s : JwksCacheSettings} {c c' : StoredKeys}

def cachedBy (i : TrustedIssuer) (s : JwksCacheSettings) : TrustedIssuer :=
  .ofMetadata i.shortName { i.settings with jwksCache := some s } i.metadata

def desk (i : TrustedIssuer) (start : Instant) : KeyDesk where
  source := i.validator.keys
  now := start

inductive Keeps (i : TrustedIssuer) (c : StoredKeys) : Prop
  | run (start : Instant) (ms : List KeyMove) (hc : ((i.desk start).run ms).stored = some c)
  | reached {σ : Type} (web : Retriever σ) (start now : Instant) (st : KeyState σ)
      (h : st.Reached web i.validator start now) (hc : st.stored = some c)

theorem Keeps.expires (h : (i.cachedBy s).Keeps c) : c.expiresAt = c.fetchedAt + s.policy.lifespan := by
  cases h with
  | run start ms hc => exact ((KeyDesk.run_timely i.jwksUrl s.policy start ms).stored c hc).expires
  | reached web start now st h hc => exact (h.dated rfl c hc).expires

/-- Under any settings of the cache, and whatever came before, a lookup or a validation aborts exactly if it
brings a key set that would expire past the clock's range. A set that was fetched at the same time expires no
earlier under a longer lifespan. -/
theorem lookups_abort_iff (i : TrustedIssuer) (s : JwksCacheSettings) :
    (∀ start ms caller a, (((i.cachedBy s).desk start).run ms).outcome? caller = some (.abort a) ↔
      a = .instantOverflow ∧
        KeyDesk.Once ((i.cachedBy s).desk start) ms (KeyDesk.Outlasts s.policy caller)) ∧
    (∀ (σ : Type) (web : Retriever σ) (u : Validator.Use) (instant : Instant) (st : KeyState σ) (a : Abort),
      u.perform web (i.cachedBy s).validator instant st = .error a ↔ a = .instantOverflow ∧
        Instant.limit ≤ instant + s.policy.lifespan ∧
        (∃ ks, KeySource.readAnswer (web.retrieve i.jwksUrl st.web).1 = .ok ks) ∧
          ∃ q, u.query? = some q ∧ ∀ c, st.stored = some c → q.Misses s.policy instant c) ∧
    ∀ lifespanSecs, s.lifespanSecs ≤ lifespanSecs → ∀ c c', (i.cachedBy s).Keeps c →
      (i.cachedBy { s with lifespanSecs }).Keeps c' → c'.fetchedAt = c.fetchedAt →
        ∀ instant, RefreshReason.expiry.isSettledBy s.policy instant c = true →
          RefreshReason.expiry.isSettledBy ({ s with lifespanSecs } : JwksCacheSettings).policy instant c' =
            true := by
  refine ⟨?_, ?_, ?_⟩
  · exact fun start => KeyDesk.run_aborts_iff i.jwksUrl s.policy start
  · exact fun σ web u instant st a => Validator.Use.perform_eq_error_iff rfl
  · intro lifespanSecs hle c c' hc hc' hfetched instant hlive
    have hlive : instant < c.expiresAt := of_decide_eq_true hlive
    have hlonger : c.expiresAt ≤ c'.expiresAt := by
      rw [hc.expires, hc'.expires, hfetched]
      exact Nat.add_le_add_left (Nat.mul_le_mul_right 1000 hle) _
    exact decide_eq_true (Nat.lt_of_lt_of_le hlive hlonger)

end TrustedIssuer

namespace Sample

def firstKeys : List KeyMove :=
  [.arrive 0 .keys, .step 0, .step 0, .step 0, .answer 0 (.ok noKeys), .step 0]

theorem lookups_abort_iff_hour :
    let hour : JwksCacheSettings := { lifespanSecs := 3600 }
    let instant : Instant := 900004
    (issuer.cachedBy {}).Keeps ⟨[], 5, 900005⟩ ∧ (issuer.cachedBy hour).Keeps ⟨[], 5, 3600005⟩ ∧
      RefreshReason.expiry.isSettledBy ({} : JwksCacheSettings).policy instant ⟨[], 5, 900005⟩ = true ∧
      RefreshReason.expiry.isSettledBy hour.policy instant ⟨[], 5, 3600005⟩ = true := by
  have hquarter : (issuer.cachedBy {}).Keeps ⟨[], 5, 900005⟩ := .run 5 firstKeys (by decide +kernel)
  have hhour : (issuer.cachedBy { lifespanSecs := 3600 }).Keeps ⟨[], 5, 3600005⟩ :=
    .run 5 firstKeys (by decide +kernel)
  have hlive : RefreshReason.expiry.isSettledBy ({} : JwksCacheSettings).policy 900004
      ⟨[], 5, 900005⟩ = true := by decide
  refine ⟨hquarter, hhour, hlive, ?_⟩
  exact (TrustedIssuer.lookups_abort_iff issuer {}).2.2 3600 (by decide) _ _ hquarter hhour rfl _ hlive

def endlessSettings : JwksCacheSettings :=
  { lifespanSecs := 0xffffffffffffffff, refreshAheadSecs := 0xffffffffffffffff }

/-- A cache of the longest lifespan can be set, but then a validation aborts. -/
theorem endlessSettings_abort :
    JwksCacheSettings.ofJson? endlessSettings.toJson = some endlessSettings ∧
      (issuer.cachedBy endlessSettings).validator.validate (.constant (.ok document)) 0 0 token.encoded
        ⟨none, ()⟩ = .error .instantOverflow := by
  refine ⟨rfl, ?_⟩
  rw [Validator.validate_of_parse token_parse, map_eq_error_iff, KeySource.verificationKey_eq_error_iff]
  exact ⟨rfl, endlessSettings.policy, [key], rfl, by decide, readAnswer_ok document_keys, nofun⟩

end Sample
end BearerTrust

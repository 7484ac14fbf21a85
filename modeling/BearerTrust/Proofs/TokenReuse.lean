import BearerTrust.Proofs.TokenAlike
import Mathlib.Data.List.Perm.Subperm

namespace BearerTrust

variable {σ τ : Type}

structure TokenCall.Fetches (k : TokenCall) (q : GrantRequest) (t : IssuedToken) : Prop where
  requests : k.Requests q
  result : k.result = .ok t
  posts : ∃ p a, k.posts = [(p, .ok a)] ∧ a.token k.site.now = .ok t

/-- The first instant at which a token is not served any more. -/
def TokenCacheSettings.deadline (settings : TokenCacheSettings) (instant : Instant) (t : IssuedToken) :
    Instant :=
  instant + (t.cacheLifetime settings.evictSkewSecs).toNat * 1000

namespace TokenCache

variable {cache : TokenCache} {instant : Instant} {q : GrantRequest} {t : IssuedToken}

theorem mem_of_get? (h : cache.get? instant q = some t) :
    ∃ v, (q, v) ∈ cache.entries ∧ v.token = t ∧ instant < v.deadline := by
  obtain ⟨v, hv, ht⟩ := Option.map_eq_some_iff.1 h
  obtain ⟨hmem, hlive⟩ := List.mem_filter.1 (Table.mem_of_get? hv)
  exact ⟨v, hmem, ht, of_decide_eq_true hlive⟩

theorem settings_insert : (cache.insert instant q t).settings = cache.settings := by
  unfold insert
  dsimp only
  split <;> rfl

theorem mem_insert {e : GrantRequest × CachedToken} (h : e ∈ (cache.insert instant q t).entries) :
    e = (q, ⟨t, cache.settings.deadline instant t⟩) ∨ e ∈ cache.entries := by
  unfold insert at h
  dsimp only at h
  split at h
  · rcases Table.mem_put h with h | h
    · exact .inl h
    · exact .inr (List.mem_of_mem_filter h)
  · exact .inr (List.mem_of_mem_filter h)

structure Keeps (cache : TokenCache) (instant : Instant) (t : IssuedToken) : Prop where
  room : (cache.live instant).entries.length < cache.settings.maximumSize.toNat
  lives : 0 < (t.cacheLifetime cache.settings.evictSkewSecs).toNat

theorem Keeps.get?_insert (h : cache.Keeps instant t) : (cache.insert instant q t).get? instant q = some t := by
  have hlive : ∀ e ∈ Table.put q ⟨t, cache.settings.deadline instant t⟩ (cache.live instant).entries,
      decide (instant < e.2.deadline) = true := by
    intro e he
    rcases Table.mem_put he with rfl | he
    · exact decide_eq_true (Nat.lt_add_of_pos_right (Nat.mul_pos h.lives (by decide)))
    · exact (List.mem_filter.1 he).2
  have hentries : ((cache.insert instant q t).live instant).entries =
      Table.put q ⟨t, cache.settings.deadline instant t⟩ (cache.live instant).entries := by
    unfold insert
    dsimp only
    split
    · exact List.filter_eq_self.2 hlive
    · next hfull => exact absurd h.room hfull
  rw [get?, hentries, Table.get?_put_self, Option.map_some]

/-- What so many callers get one after another, all at one instant. -/
def getOrComputeInTurn (instant : Instant) (q : GrantRequest)
    (compute : τ → Except ClientError IssuedToken × τ) :
    Nat → TokenCache → τ → List (Except ClientError IssuedToken) × TokenCache × τ
  | 0, cache, s => ([], cache, s)
  | n + 1, cache, s =>
    let (result, cache, s) := cache.getOrCompute instant q compute s
    let (results, cache, s) := getOrComputeInTurn instant q compute n cache s
    (result :: results, cache, s)

section

variable {compute : τ → Except ClientError IssuedToken × τ} {s s' : τ} {cache' : TokenCache}

theorem getOrCompute_of_served (h : cache.get? instant q = some t) (s : τ) :
    cache.getOrCompute instant q compute s = (.ok t, cache, s) := by
  rw [getOrCompute, h]

theorem getOrComputeInTurn_served (hfirst : cache.getOrCompute instant q compute s = (.ok t, cache', s'))
    (h : cache'.get? instant q = some t) (n : Nat) :
    getOrComputeInTurn instant q compute (n + 1) cache s =
      (List.replicate (n + 1) (.ok t), cache', s') := by
  induction n generalizing cache s with
  | zero =>
    rw [getOrComputeInTurn, hfirst]
    rfl
  | succ n ih =>
    rw [getOrComputeInTurn, hfirst]
    dsimp only
    rw [ih (getOrCompute_of_served h s')]
    rfl

/-- Callers at once get what they would get one after another, if the cache keeps the token that the first
of them computes. An error is told to all of them after one computation, and the cache stays as it was. -/
theorem getOrComputeTogether_eq (n : Nat) (cache : TokenCache) (instant : Instant) (q : GrantRequest)
    (compute : τ → Except ClientError IssuedToken × τ) (s : τ) :
    ((cache.get? instant q = none → ∃ t s', compute s = (.ok t, s') ∧ cache.Keeps instant t) →
      cache.getOrComputeTogether n instant q compute s = getOrComputeInTurn instant q compute n cache s) ∧
    ∀ e s', cache.get? instant q = none → compute s = (.error e, s') →
      cache.getOrComputeTogether (n + 1) instant q compute s =
        (List.replicate (n + 1) (.error e), cache, s') := by
  constructor
  · intro h
    cases n with
    | zero => rfl
    | succ n =>
      obtain ⟨t, cache', s', hfirst, hserved⟩ : ∃ t cache' s',
          cache.getOrCompute instant q compute s = (.ok t, cache', s') ∧ cache'.get? instant q = some t := by
        cases hhit : cache.get? instant q with
        | some t => exact ⟨t, cache, s, getOrCompute_of_served hhit s, hhit⟩
        | none =>
          obtain ⟨t, s', hs, hkeeps⟩ := h hhit
          exact ⟨t, _, s', by simp only [getOrCompute, hhit, hs], hkeeps.get?_insert⟩
      rw [getOrComputeInTurn_served hfirst hserved, getOrComputeTogether, if_neg (Nat.succ_ne_zero n), hfirst]
  · intro e s' hmiss hs
    have hfirst : cache.getOrCompute instant q compute s = (.error e, cache, s') := by
      simp only [getOrCompute, hmiss, hs]
    rw [getOrComputeTogether, if_neg (Nat.succ_ne_zero n), hfirst]

end

end TokenCache

theorem received_eq_ok {now : Seconds} {r : Except RetrievalError EndpointAnswer} {t : IssuedToken}
    (h : received now r = .ok t) : ∃ a, r = .ok a ∧ a.token now = .ok t := by
  cases r with
  | error e => cases h
  | ok a => exact ⟨a, rfl, h⟩

/-- What is true of all that caches hold. -/
def TokenCaches.Every (caches : TokenCaches)
    (P : TokenCacheSettings → GrantRequest × CachedToken → Prop) : Prop :=
  ∀ g cache, caches.get? g = some cache → ∀ e ∈ cache.entries, P cache.settings e

namespace TokenCaches.Every

variable {P : TokenCacheSettings → GrantRequest × CachedToken → Prop} {caches caches' : TokenCaches}

theorem goes {c : ClientSettings} {site : CallSite} {k : TokenCall} (h : caches.Every P)
    (hk : TokenService.Goes c site caches k caches')
    (hnew : ∀ q t settings, k.Fetches q t → P settings (q, ⟨t, settings.deadline k.site.instant t⟩)) :
    caches'.Every P := by
  cases hk with
  | refused | posted | served | failed => exact h
  | kept q cache t p hq hcache hmiss ht =>
    obtain ⟨a, ha, ht⟩ := received_eq_ok ht
    intro g cache' hg e he
    rw [TokenCaches.get?_set] at hg
    split at hg
    · cases hg
      rw [TokenCache.settings_insert]
      rcases TokenCache.mem_insert he with rfl | he
      · exact hnew q t _ ⟨⟨rfl, hq⟩, rfl, p.1, a, by rw [← ha], ht⟩
      · exact h _ cache hcache e he
    · exact h g cache' hg e he

theorem retain (h : caches.Every P) (keeps : GrantRequest → Bool) : (caches.retain keeps).Every P := by
  intro g cache hg e he
  rw [TokenCaches.get?_retain] at hg
  obtain ⟨cache', hg', rfl⟩ := Option.map_eq_some_iff.1 hg
  exact h g cache' hg' e (List.mem_of_mem_filter he)

theorem start (choice : GrantType → Option TokenCacheSettings) (web : σ) (outside : τ) :
    (TokenService.start choice web outside).caches.Every P := by
  intro g cache hg e he
  rw [TokenService.get?_start] at hg
  obtain ⟨settings, -, rfl⟩ := Option.map_eq_some_iff.1 hg
  cases he

end TokenCaches.Every

/-- What caches hold was fetched by a call before, for the very request that it is held under. -/
structure Sourced (choice : GrantType → Option TokenCacheSettings) (ks : List TokenCall)
    (caches : TokenCaches) : Prop where
  settings : ∀ g, (caches.get? g).map TokenCache.settings = choice g
  entries : ∀ g cache, caches.get? g = some cache → ∀ e ∈ cache.entries,
    ∃ k ∈ ks, k.Fetches e.1 e.2.token
  prepared : ∀ k ∈ ks, ∀ q, k.request? = some q → k.Requests q

namespace TokenService

variable {choice : GrantType → Option TokenCacheSettings} {c : ClientSettings} {site : CallSite}
  {caches caches' : TokenCaches} {k : TokenCall} {ks : List TokenCall}

theorem Sourced.goes (h : Sourced choice ks caches) (hk : Goes c site caches k caches') :
    Sourced choice (ks ++ [k]) caches' := by
  have hnew : ∀ q, k.request? = some q → k.Requests q := by
    intro q hrequest
    cases hk with
    | refused => cases hrequest
    | posted _ _ hq | served _ _ _ hq | kept _ _ _ _ hq | failed _ _ _ _ hq =>
      cases hrequest
      exact ⟨rfl, hq⟩
  have hentries : caches.Every fun _ e => ∃ k' ∈ ks ++ [k], k'.Fetches e.1 e.2.token := by
    intro g cache hg e he
    obtain ⟨k', hk', hfetches⟩ := h.entries g cache hg e he
    exact ⟨k', List.mem_append_left _ hk', hfetches⟩
  refine ⟨?_, hentries.goes hk fun q t settings hfetches => ?_, ?_⟩
  · intro g
    rw [← h.settings]
    cases hk with
    | refused | posted | served | failed => rfl
    | kept q cache t p hq hcache hmiss ht =>
      rw [TokenCaches.get?_set]
      split
      · next hg =>
        rw [hg, hcache, Option.map_some, Option.map_some, TokenCache.settings_insert]
      · rfl
  · exact ⟨k, List.mem_append_right _ (List.mem_singleton_self _), hfetches⟩
  · intro k' hk' q hrequest
    rcases List.mem_append.1 hk' with hk' | hk'
    · exact h.prepared k' hk' q hrequest
    · obtain rfl := List.mem_singleton.1 hk'
      exact hnew q hrequest

theorem Sourced.retain (h : Sourced choice ks caches) (keeps : GrantRequest → Bool) :
    Sourced choice ks (caches.retain keeps) := by
  have hentries : caches.Every fun _ e => ∃ k ∈ ks, k.Fetches e.1 e.2.token := h.entries
  refine ⟨?_, hentries.retain keeps, h.prepared⟩
  intro g
  rw [TokenCaches.get?_retain, ← h.settings, Option.map_map]
  rfl

theorem run_sourced (s : TokenService σ τ) (choice : GrantType → Option TokenCacheSettings) (web : σ)
    (outside : τ) (ms : List TokenMove) :
    Sourced choice (s.calls (start choice web outside) ms) (s.run (start choice web outside) ms).caches := by
  refine run_invariant (P := fun _ ks caches => Sourced choice ks caches) s _ ?_ ?_ ?_ ms
  · have hentries : (start choice web outside).caches.Every
        fun _ e => ∃ k ∈ ([] : List TokenCall), k.Fetches e.1 e.2.token :=
      .start choice web outside
    refine ⟨?_, hentries, fun _ hk => absurd hk List.not_mem_nil⟩
    intro g
    rw [get?_start]
    cases choice g with
    | none => rfl
    | some settings => rfl
  · intro ms ks caches c site k caches' h hk
    exact Sourced.goes h hk
  · intro ms ks caches keeps knows h
    exact Sourced.retain h keeps

end TokenService

/-- Up to an instant a cache of one kind of grant had room for all that it was to keep, which are the
requests `qs`, and nothing of it has outlived its lifetime. -/
structure Intact (settings : TokenCacheSettings) (g : GrantType) (qs : List GrantRequest)
    (instant : Instant) (ks : List TokenCall) : Prop where
  clock : ∀ k ∈ ks, k.site.instant ≤ instant
  lifetime : ∀ k ∈ ks, ∀ q t, k.Fetches q t → q.grant.grantType = g →
    instant < settings.deadline k.site.instant t
  kept : ∀ k ∈ ks, ∀ q t, k.Fetches q t → q.grant.grantType = g → q ∈ qs
  capacity : qs.length ≤ settings.maximumSize.toNat

theorem Intact.before {settings : TokenCacheSettings} {g : GrantType} {qs : List GrantRequest}
    {instant : Instant} {ks more : List TokenCall} (h : Intact settings g qs instant (ks ++ more)) :
    Intact settings g qs instant ks :=
  ⟨fun k hk => h.clock k (List.mem_append_left _ hk),
    fun k hk => h.lifetime k (List.mem_append_left _ hk),
    fun k hk => h.kept k (List.mem_append_left _ hk), h.capacity⟩

structure Remembers (qs : List GrantRequest) (g : GrantType) (instant : Instant) (ks : List TokenCall)
    (cache : TokenCache) : Prop where
  nodup : (cache.entries.map Prod.fst).Nodup
  live : ∀ e ∈ cache.entries, instant < e.2.deadline
  fits : ∀ e ∈ cache.entries, e.1 ∈ qs
  succeeded : ∀ k ∈ ks, ∀ q t, k.request? = some q → q.grant.grantType = g → k.result = .ok t →
    q ∈ cache.entries.map Prod.fst

section Remembers

variable {settings : TokenCacheSettings} {qs : List GrantRequest} {g : GrantType} {instant : Instant}
  {cache : TokenCache} {q : GrantRequest} {t : IssuedToken} {ks : List TokenCall} {k : TokenCall}

theorem Remembers.live_eq (h : Remembers qs g instant ks cache) {i : Instant} (hi : i ≤ instant) :
    cache.live i = cache := by
  have hfilter : (cache.entries.filter fun e => decide (i < e.2.deadline)) = cache.entries := by
    apply List.filter_eq_self.2
    intro e he
    exact decide_eq_true (Nat.lt_of_le_of_lt hi (h.live e he))
  unfold TokenCache.live
  rw [hfilter]

theorem Remembers.get?_eq_none_iff (h : Remembers qs g instant ks cache) {i : Instant}
    (hi : i ≤ instant) : cache.get? i q = none ↔ q ∉ cache.entries.map Prod.fst := by
  rw [TokenCache.get?, Option.map_eq_none_iff, h.live_eq hi, Table.get?_eq_none_iff]

theorem Remembers.has_room (h : Remembers qs g instant ks cache) (hq : q ∈ qs)
    (hnew : q ∉ cache.entries.map Prod.fst) : cache.entries.length < qs.length := by
  have hnodup : (q :: cache.entries.map Prod.fst).Nodup := List.nodup_cons.2 ⟨hnew, h.nodup⟩
  have hsubset : q :: cache.entries.map Prod.fst ⊆ qs := by
    intro r hr
    rcases List.mem_cons.1 hr with rfl | hr
    · exact hq
    · obtain ⟨e, he, rfl⟩ := List.mem_map.1 hr
      exact h.fits e he
  have hlength := (hnodup.subperm hsubset).length_le
  rw [List.length_cons, List.length_map] at hlength
  exact hlength

theorem Remembers.insert (h : Remembers qs g instant ks cache) (hk : k.Fetches q t)
    (hi : k.site.instant ≤ instant) (hmiss : cache.get? k.site.instant q = none) (hq : q ∈ qs)
    (hsize : qs.length ≤ cache.settings.maximumSize.toNat)
    (hlive : instant < cache.settings.deadline k.site.instant t) :
    Remembers qs g instant (ks ++ [k]) (cache.insert k.site.instant q t) := by
  have hnew := (h.get?_eq_none_iff hi).1 hmiss
  have hroom : cache.entries.length < cache.settings.maximumSize.toNat :=
    Nat.lt_of_lt_of_le (h.has_room hq hnew) hsize
  have hentries : (cache.insert k.site.instant q t).entries =
      Table.put q ⟨t, cache.settings.deadline k.site.instant t⟩ cache.entries := by
    unfold TokenCache.insert
    rw [h.live_eq hi]
    dsimp only
    rw [if_pos hroom]
    rfl
  have hkeys : (cache.insert k.site.instant q t).entries.map Prod.fst =
      cache.entries.map Prod.fst ++ [q] := by
    rw [hentries, Table.keys_put, if_neg hnew]
  constructor
  · rw [hentries]
    exact Table.nodup_keys_put _ _ h.nodup
  · intro e he
    rw [hentries] at he
    rcases Table.mem_put he with rfl | he
    · exact hlive
    · exact h.live e he
  · intro e he
    rw [hentries] at he
    rcases Table.mem_put he with rfl | he
    · exact hq
    · exact h.fits e he
  · intro k' hk' q' t' hrequest hg hresult
    rw [hkeys]
    rcases List.mem_append.1 hk' with hk' | hk'
    · exact List.mem_append_left _ (h.succeeded k' hk' q' t' hrequest hg hresult)
    · obtain rfl := List.mem_singleton.1 hk'
      cases hk.requests.request.symm.trans hrequest
      exact List.mem_append_right _ (List.mem_singleton_self _)

theorem Remembers.add (h : Remembers qs g instant ks cache)
    (hk : ∀ q t, k.request? = some q → q.grant.grantType = g → k.result = .ok t →
      q ∈ cache.entries.map Prod.fst) : Remembers qs g instant (ks ++ [k]) cache := by
  refine ⟨h.nodup, h.live, h.fits, ?_⟩
  intro k' hk' q t hrequest hg hresult
  rcases List.mem_append.1 hk' with hk' | hk'
  · exact h.succeeded k' hk' q t hrequest hg hresult
  · obtain rfl := List.mem_singleton.1 hk'
    exact hk q t hrequest hg hresult

theorem Remembers.goes {c : ClientSettings} {site : CallSite} {caches caches' : TokenCaches}
    (h : Remembers qs g instant ks cache) (hintact : Intact settings g qs instant (ks ++ [k]))
    (hcache : caches.get? g = some cache) (hsettings : cache.settings = settings)
    (hk : TokenService.Goes c site caches k caches') :
    ∃ cache', caches'.get? g = some cache' ∧ cache'.settings = settings ∧
      Remembers qs g instant (ks ++ [k]) cache' := by
  cases hk with
  | refused => exact ⟨cache, hcache, hsettings, h.add fun _ _ hrequest => nomatch hrequest⟩
  | failed => exact ⟨cache, hcache, hsettings, h.add fun _ _ _ _ hresult => nomatch hresult⟩
  | posted q p hq hnone =>
    refine ⟨cache, hcache, hsettings, h.add ?_⟩
    rintro _ _ ⟨⟩ hg -
    rw [hg, hcache] at hnone
    cases hnone
  | served q cache' t hq hcache' hhit =>
    refine ⟨cache, hcache, hsettings, h.add ?_⟩
    rintro _ _ ⟨⟩ hg -
    rw [hg, hcache] at hcache'
    cases hcache'
    obtain ⟨v, hmem, -⟩ := TokenCache.mem_of_get? hhit
    exact List.mem_map_of_mem hmem
  | kept q cache' t p hq hcache' hmiss ht =>
    obtain ⟨a, ha, ht⟩ := received_eq_ok ht
    have hlast := List.mem_append_right ks (List.mem_singleton_self
      (⟨c, site, some q, [p], .ok t⟩ : TokenCall))
    have hfetches : TokenCall.Fetches ⟨c, site, some q, [p], .ok t⟩ q t :=
      ⟨⟨rfl, hq⟩, rfl, p.1, a, by rw [← ha], ht⟩
    by_cases hg : q.grant.grantType = g
    · rw [hg, hcache] at hcache'
      cases hcache'
      refine ⟨_, by rw [TokenCaches.get?_set, if_pos hg.symm], ?_, ?_⟩
      · rw [TokenCache.settings_insert, hsettings]
      · subst hsettings
        exact h.insert hfetches (hintact.clock _ hlast) hmiss (hintact.kept _ hlast q t hfetches hg)
          hintact.capacity (hintact.lifetime _ hlast q t hfetches hg)
    · refine ⟨cache, ?_, hsettings, h.add ?_⟩
      · rw [TokenCaches.get?_set, if_neg (Ne.symm hg), hcache]
      · rintro _ _ ⟨⟩ hg'
        exact absurd hg' hg

end Remembers

theorem TokenService.run_remembers (s : TokenService σ τ) {choice : GrantType → Option TokenCacheSettings}
    (web : σ) (outside : τ) {settings : TokenCacheSettings} {g : GrantType} {qs : List GrantRequest}
    {instant : Instant} (hchoice : choice g = some settings) (ms : List TokenMove)
    (hms : ∀ m ∈ ms, m.IsCall)
    (hintact : Intact settings g qs instant (s.calls (start choice web outside) ms)) :
    ∃ cache, (s.run (start choice web outside) ms).caches.get? g = some cache ∧
      cache.settings = settings ∧
      Remembers qs g instant (s.calls (start choice web outside) ms) cache := by
  refine run_invariant (P := fun ms ks caches => (∀ m ∈ ms, m.IsCall) → Intact settings g qs instant ks →
    ∃ cache, caches.get? g = some cache ∧ cache.settings = settings ∧ Remembers qs g instant ks cache)
    s _ ?_ ?_ ?_ ms hms hintact
  · intro _ _
    refine ⟨⟨settings, []⟩, ?_, rfl, .nil, ?_, ?_, ?_⟩
    · rw [get?_start, hchoice]
      rfl
    · exact fun _ he => absurd he List.not_mem_nil
    · exact fun _ he => absurd he List.not_mem_nil
    · exact fun _ hk => absurd hk List.not_mem_nil
  · intro ms ks caches c site k caches' ih hk hms hintact
    obtain ⟨cache, hcache, hsettings, h⟩ :=
      ih (fun m hm => hms m (List.mem_append_left _ hm)) hintact.before
    exact h.goes hintact hcache hsettings hk
  · intro ms ks caches keeps knows _ hms
    exact (hms _ (List.mem_append_right _ (List.mem_singleton_self _))).elim

/-- What is true of a call, after the calls `ks` in a run with the moves `ms`. -/
structure Reuse (choice : GrantType → Option TokenCacheSettings) (ms : List TokenMove)
    (ks : List TokenCall) (k : TokenCall) : Prop where
  one_post : k.posts.length ≤ 1
  source : ∀ t, k.result = .ok t → k.posts = [] → ∃ k' ∈ ks, k'.Alike k ∧
    ∃ p a, k'.posts = [(p, .ok a)] ∧ a.token k'.site.now = .ok t
  error : ∀ e, k.result = .error e → k.request? ≠ none →
    ∃ p r, k.posts = [(p, r)] ∧ received k.site.now r = .error e
  uncached : choice k.settings.grantType = none → k.request? ≠ none → k.posts ≠ []
  cached : ∀ settings qs, choice k.settings.grantType = some settings → k.request? ≠ none →
    (∀ m ∈ ms, m.IsCall) → Intact settings k.settings.grantType qs k.site.instant ks →
      (k.posts ≠ [] ↔ ∀ k' ∈ ks, k'.Alike k → ∀ t, k'.result ≠ .ok t)

theorem Sourced.alike {choice : GrantType → Option TokenCacheSettings} {ks : List TokenCall}
    {caches : TokenCaches} {cache : TokenCache} {instant : Instant} {k : TokenCall} {q : GrantRequest}
    {t : IssuedToken} (h : Sourced choice ks caches) (hk : k.Requests q)
    (hcache : caches.get? q.grant.grantType = some cache) (hhit : cache.get? instant q = some t) :
    ∃ k' ∈ ks, k'.Alike k ∧ k'.Fetches q t := by
  obtain ⟨v, hmem, rfl, -⟩ := TokenCache.mem_of_get? hhit
  obtain ⟨k', hk', hfetches⟩ := h.entries _ cache hcache _ hmem
  exact ⟨k', hk', (TokenCall.alike_iff hfetches.requests hk).2 rfl, hfetches⟩

theorem Remembers.fails {choice : GrantType → Option TokenCacheSettings} {ks : List TokenCall}
    {caches : TokenCaches} {cache : TokenCache} {qs : List GrantRequest} {instant : Instant}
    {k k' : TokenCall} {q : GrantRequest} (hsourced : Sourced choice ks caches)
    (h : Remembers qs q.grant.grantType instant ks cache) (hk : k.Requests q)
    (hmiss : cache.get? instant q = none) (hk' : k' ∈ ks) (halike : k'.Alike k) (t : IssuedToken) :
    k'.result ≠ .ok t := by
  intro hresult
  have hurl := halike.tokenUrl
  rw [hk.request, Option.map_some] at hurl
  obtain ⟨q', hrequest, -⟩ := Option.map_eq_some_iff.1 hurl
  have hsame : q' = q := (TokenCall.alike_iff (hsourced.prepared k' hk' q' hrequest) hk).1 halike
  rw [hsame] at hrequest
  exact (h.get?_eq_none_iff (Nat.le_refl _)).1 hmiss (h.succeeded k' hk' q t hrequest rfl hresult)

theorem TokenService.Goes.reuse {choice : GrantType → Option TokenCacheSettings} {ms : List TokenMove}
    {ks : List TokenCall} {c : ClientSettings} {site : CallSite} {caches caches' : TokenCaches}
    {k : TokenCall} (hk : TokenService.Goes c site caches k caches') (hsourced : Sourced choice ks caches)
    (hremembers : ∀ settings g qs instant, choice g = some settings → (∀ m ∈ ms, m.IsCall) →
      Intact settings g qs instant ks →
        ∃ cache, caches.get? g = some cache ∧ Remembers qs g instant ks cache) :
    Reuse choice ms ks k := by
  have hchoice {q : GrantRequest} (hq : Prepared c site.subject q) :
      choice c.grantType = (caches.get? q.grant.grantType).map TokenCache.settings := by
    rw [← hq.grantType, hsourced.settings]
  have hfails {q : GrantRequest} {cache : TokenCache} {settings : TokenCacheSettings}
      {qs : List GrantRequest} {k : TokenCall} (hk : k.Requests q)
      (hsome : choice k.settings.grantType = some settings) (hms : ∀ m ∈ ms, m.IsCall)
      (hintact : Intact settings k.settings.grantType qs k.site.instant ks)
      (hcache : caches.get? q.grant.grantType = some cache)
      (hmiss : cache.get? k.site.instant q = none) :
      ∀ k' ∈ ks, k'.Alike k → ∀ t, k'.result ≠ .ok t := by
    intro k' hk' halike
    obtain ⟨cache', hcache', h⟩ := hremembers settings _ qs _ hsome hms hintact
    rw [← hk.prepared.grantType] at hcache' h
    cases hcache.symm.trans hcache'
    exact h.fails hsourced hk hmiss hk' halike
  cases hk with
  | refused e =>
    refine ⟨Nat.zero_le _, ?_, ?_, ?_, ?_⟩
    · exact fun _ hresult => nomatch hresult
    · exact fun _ _ hrequest => absurd rfl hrequest
    · exact fun _ hrequest => absurd rfl hrequest
    · exact fun _ _ _ hrequest => absurd rfl hrequest
  | posted q p hq hcache =>
    refine ⟨Nat.le_refl _, ?_, fun e he _ => ⟨p.1, p.2, rfl, he⟩, ?_, ?_⟩
    · exact fun _ _ hposts => nomatch hposts
    · exact fun _ _ hposts => nomatch hposts
    · intro settings qs hsome
      rw [hchoice hq, hcache] at hsome
      cases hsome
  | served q cache t hq hcache hhit =>
    obtain ⟨k', hk', halike, hfetches⟩ :=
      hsourced.alike (k := ⟨c, site, some q, [], .ok t⟩) ⟨rfl, hq⟩ hcache hhit
    refine ⟨Nat.zero_le _, ?_, ?_, ?_, ?_⟩
    · rintro _ ⟨⟩ -
      exact ⟨k', hk', halike, hfetches.posts⟩
    · exact fun _ he => nomatch he
    · intro hnone
      rw [hchoice hq, hcache] at hnone
      cases hnone
    · intro settings qs _ _ _ _
      refine iff_of_false (fun h => h rfl) ?_
      intro hnever
      exact hnever k' hk' halike t hfetches.result
  | kept q cache t p hq hcache hmiss ht =>
    refine ⟨Nat.le_refl _, ?_, ?_, ?_, ?_⟩
    · exact fun _ _ hposts => nomatch hposts
    · exact fun _ he => nomatch he
    · exact fun _ _ hposts => nomatch hposts
    · intro settings qs hsome _ hms hintact
      refine iff_of_true (fun hposts => nomatch hposts) ?_
      exact hfails (k := ⟨c, site, some q, [p], .ok t⟩) ⟨rfl, hq⟩ hsome hms hintact hcache hmiss
  | failed q cache e p hq hcache hmiss he =>
    refine ⟨Nat.le_refl _, ?_, ?_, ?_, ?_⟩
    · exact fun _ hresult => nomatch hresult
    · rintro _ ⟨⟩ -
      exact ⟨p.1, p.2, rfl, he⟩
    · exact fun _ _ hposts => nomatch hposts
    · intro settings qs hsome _ hms hintact
      refine iff_of_true (fun hposts => nomatch hposts) ?_
      exact hfails (k := ⟨c, site, some q, [p], .error e⟩) ⟨rfl, hq⟩ hsome hms hintact hcache hmiss

/-- Whatever the calls of a run were, whatever the endpoint replied to them and whatever the caches lost
in between, the next call keeps to this. -/
theorem TokenService.accessToken_reuse (s : TokenService σ τ)
    (choice : GrantType → Option TokenCacheSettings) (web : σ) (outside : τ) (ms : List TokenMove)
    (c : ClientSettings) (site : CallSite) :
    Reuse choice ms (s.calls (start choice web outside) ms)
      (s.record c site (s.run (start choice web outside) ms)) := by
  refine (goes_accessToken s c site _).reuse (run_sourced s choice web outside ms) ?_
  intro settings g qs instant hchoice hms hintact
  obtain ⟨cache, hcache, -, h⟩ := run_remembers s web outside hchoice ms hms hintact
  exact ⟨cache, hcache, h⟩

namespace Sample

open TokenService

def tokenUrl : Url := { scheme := "https", path := .segments ["token"] }

def generous : TokenService Unit Unit where
  resolver := none
  endpoint := ⟨fun _ _ => (.ok ⟨200, "\x7b\"access_token\":\"t\",\"expires_in\":300\x7d".toUTF8.toList⟩, ())⟩

def machine : ClientSettings where
  tokenEndpointUrl := some tokenUrl
  grantType := .clientCredentials
  authentication := .basic "id" "secret"

def alone : CallSite := ⟨none, 0, 0, []⟩

def ownCache : GrantType → Option TokenCacheSettings
  | .clientCredentials => some {}
  | _ => none

def machineRequest : GrantRequest :=
  ⟨tokenUrl, ⟨"id", .secretBasic, .secret "secret"⟩, [], .clientCredentials⟩

def machineToken : IssuedToken := ⟨"t", none, 300, 300⟩

def afterOne : ServiceState Unit Unit := generous.run (start ownCache () ()) [.call machine alone]

theorem first_call :
    (generous.record machine alone (start ownCache () ())).request? = some machineRequest ∧
      (generous.record machine alone (start ownCache () ())).result = .ok machineToken := by
  decide +kernel

theorem second_call : (generous.record machine alone afterOne).posts = [] ∧
    (generous.record machine alone afterOne).result = .ok machineToken := by
  decide +kernel

theorem intact_after_one : Intact {} .clientCredentials [machineRequest] 0
    (generous.calls (start ownCache () ()) [.call machine alone]) := by
  obtain ⟨hrequest, hresult⟩ := first_call
  have hone : ∀ k ∈ generous.calls (start ownCache () ()) [.call machine alone],
      k = generous.record machine alone (start ownCache () ()) := fun k hk => List.mem_singleton.1 hk
  refine ⟨?_, ?_, ?_, by decide⟩
  · intro k hk
    rw [hone k hk]
    exact Nat.le_refl 0
  · intro k hk q t hfetches _
    have ht := hfetches.result
    rw [hone k hk] at ht ⊢
    cases hresult.symm.trans ht
    decide +kernel
  · intro k hk q t hfetches _
    have hq := hfetches.requests.request
    rw [hone k hk] at hq
    cases hrequest.symm.trans hq
    exact List.mem_singleton_self _

theorem accessToken_reuse_twice :
    ((generous.record machine alone afterOne).posts = [] ∧
      (generous.record machine alone afterOne).result = .ok machineToken) ∧
    Intact {} .clientCredentials [machineRequest] 0
      (generous.calls (start ownCache () ()) [.call machine alone]) ∧
    ∃ k' ∈ generous.calls (start ownCache () ()) [.call machine alone],
      k'.Alike (generous.record machine alone afterOne) ∧
        ∃ p a, k'.posts = [(p, .ok a)] ∧ a.token k'.site.now = .ok machineToken :=
  ⟨second_call, intact_after_one,
    (accessToken_reuse generous ownCache () () [.call machine alone] machine alone).source machineToken
      second_call.2 second_call.1⟩

end Sample
end BearerTrust

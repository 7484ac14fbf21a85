import BearerTrust.Proofs.TokenReuse

namespace BearerTrust

variable {σ τ : Type}

namespace TokenAnswer

variable {a : TokenAnswer} {now skew : Seconds}

def margin (a : TokenAnswer) (skew : Seconds) : Nat := if a.expiresIn < skew then 0 else skew.toNat

/-- The expiry that an answer gives, if it gives one, is not before the token is dropped. -/
def OutlivesCache (a : TokenAnswer) (now skew : Seconds) : Prop :=
  ∀ e, a.expiresAt = some e → now.toNat + a.expiresIn.toNat ≤ e.toNat + a.margin skew

theorem cacheLifetime_add_margin (a : TokenAnswer) (now skew : Seconds) :
    ((a.receivedAt now).cacheLifetime skew).toNat + a.margin skew = a.expiresIn.toNat := by
  change (if a.expiresIn < skew then a.expiresIn else a.expiresIn - skew).toNat + a.margin skew = _
  unfold margin
  split
  · rfl
  · next h =>
    have hle : skew ≤ a.expiresIn := UInt64.not_lt.1 h
    rw [UInt64.toNat_sub_of_le _ _ hle]
    exact Nat.sub_add_cancel (UInt64.le_iff_toNat_le.1 hle)

theorem toNat_expiresAt (hnone : a.expiresAt = none) (hfit : now.toNat + a.expiresIn.toNat < 2 ^ 64) :
    (a.receivedAt now).expiresAt.toNat = now.toNat + a.expiresIn.toNat := by
  have hcomputed : (a.receivedAt now).expiresAt = now.saturatingAdd a.expiresIn := by
    simp only [receivedAt, hnone, Option.getD_none]
  rw [hcomputed, Seconds.toNat_saturatingAdd]
  omega

theorem kept_until_iff (hfit : now.toNat + a.expiresIn.toNat < 2 ^ 64) :
    now.toNat + ((a.receivedAt now).cacheLifetime skew).toNat ≤ (a.receivedAt now).expiresAt.toNat ↔
      a.OutlivesCache now skew := by
  have hlifetime := cacheLifetime_add_margin a now skew
  unfold OutlivesCache
  cases hexpires : a.expiresAt with
  | none =>
    rw [toNat_expiresAt hexpires hfit]
    exact iff_of_true (by omega) nofun
  | some e =>
    have hgiven : (a.receivedAt now).expiresAt = e := by
      simp only [receivedAt, hexpires, Option.getD_some]
    rw [hgiven]
    constructor
    · rintro h _ ⟨⟩
      omega
    · intro h
      have he := h e rfl
      omega

end TokenAnswer

def Dated (ks : List TokenCall) (caches : TokenCaches) : Prop :=
  caches.Every fun settings e => ∃ k ∈ ks, k.Fetches e.1 e.2.token ∧
    e.2.deadline = settings.deadline k.site.instant e.2.token

namespace TokenService

theorem Dated.goes {c : ClientSettings} {site : CallSite} {caches caches' : TokenCaches} {k : TokenCall}
    {ks : List TokenCall} (h : Dated ks caches) (hk : Goes c site caches k caches') :
    Dated (ks ++ [k]) caches' := by
  have hbefore : Dated (ks ++ [k]) caches := by
    intro g cache hg e he
    obtain ⟨k', hk', hfetches⟩ := h g cache hg e he
    exact ⟨k', List.mem_append_left _ hk', hfetches⟩
  refine TokenCaches.Every.goes hbefore hk ?_
  intro q t settings hfetches
  exact ⟨k, List.mem_append_right _ (List.mem_singleton_self _), hfetches, rfl⟩

theorem run_dated (s : TokenService σ τ) (choice : GrantType → Option TokenCacheSettings) (web : σ)
    (outside : τ) (ms : List TokenMove) :
    Dated (s.calls (start choice web outside) ms) (s.run (start choice web outside) ms).caches := by
  refine run_invariant (P := fun _ ks caches => Dated ks caches) s _ ?_ ?_ ?_ ms
  · exact TokenCaches.Every.start choice web outside
  · intro ms ks caches c site k caches' h hk
    exact Dated.goes h hk
  · intro ms ks caches keeps knows h
    exact TokenCaches.Every.retain h keeps

end TokenService

theorem EndpointAnswer.token_eq_ok {r : EndpointAnswer} {now : Seconds} {t : IssuedToken}
    (h : r.token now = .ok t) :
    ∃ a, TokenAnswer.parse r.body = .ok a ∧ t = a.receivedAt now := by
  unfold token at h
  split at h
  · cases ha : TokenAnswer.parse r.body with
    | error fault =>
      rw [ha] at h
      cases h
    | ok a =>
      rw [ha] at h
      cases h
      exact ⟨a, rfl, rfl⟩
  · cases h

/-- The time of a call is what the clock that caches go by says, in milliseconds after `base`. -/
def CallSite.Ticks (base : Nat) (site : CallSite) : Prop := site.now.toNat = (base + site.instant) / 1000

theorem CallSite.Ticks.now_le {base : Nat} {site site' : CallSite} (h : site.Ticks base)
    (h' : site'.Ticks base) {lifetime : Nat} (hlive : site.instant < site'.instant + lifetime * 1000) :
    site.now.toNat ≤ site'.now.toNat + lifetime := by
  have hnext : base + site.instant < base + site'.instant + lifetime * 1000 := by
    rw [Nat.add_assoc]
    exact Nat.add_lt_add_left hlive base
  unfold Ticks at h h'
  omega

theorem TokenService.Goes.cached {c : ClientSettings} {site : CallSite} {caches caches' : TokenCaches}
    {k : TokenCall} {t : IssuedToken} (hk : TokenService.Goes c site caches k caches')
    (hresult : k.result = .ok t) (hposts : k.posts = []) :
    ∃ q cache, Prepared c site.subject q ∧ caches.get? q.grant.grantType = some cache ∧
      cache.get? site.instant q = some t := by
  cases hk with
  | refused | failed => cases hresult
  | posted | kept => cases hposts
  | served q cache t' hq hcache hhit =>
    cases hresult
    exact ⟨q, cache, hq, hcache, hhit⟩

theorem Dated.served_within {ks : List TokenCall} {caches : TokenCaches} {cache : TokenCache}
    {site : CallSite} {base : Nat} {q : GrantRequest} {t : IssuedToken} (h : Dated ks caches)
    (hcache : caches.get? q.grant.grantType = some cache) (hhit : cache.get? site.instant q = some t)
    (hsite : site.Ticks base) (hks : ∀ k ∈ ks, k.site.Ticks base) :
    ∃ k ∈ ks, ∃ p r a, k.posts = [(p, .ok r)] ∧ TokenAnswer.parse r.body = .ok a ∧
      t = a.receivedAt k.site.now ∧
      site.now.toNat ≤ k.site.now.toNat + (t.cacheLifetime cache.settings.evictSkewSecs).toNat := by
  obtain ⟨v, hmem, rfl, hlive⟩ := TokenCache.mem_of_get? hhit
  obtain ⟨k, hk, hfetches, hdeadline⟩ := h _ cache hcache _ hmem
  obtain ⟨p, r, hposts, htoken⟩ := hfetches.posts
  obtain ⟨a, ha, hreceived⟩ := EndpointAnswer.token_eq_ok htoken
  rw [hdeadline] at hlive
  exact ⟨k, hk, p, r, a, hposts, ha, hreceived, hsite.now_le (hks k hk) hlive⟩

/-- A token from an answer that decodes stays in a cache until its expiry or before exactly if the expiry,
where the endpoint gives one, is not before the end of the time in the cache; an expiry that is computed is
later by the whole margin. And that time is the longest that a token is served: in any run, a call that
posts nothing gets a token that an earlier call received, at most its time in the cache ago. -/
theorem TokenService.serves_until (s : TokenService σ τ) (choice : GrantType → Option TokenCacheSettings)
    (web : σ) (outside : τ) (ms : List TokenMove) (c : ClientSettings) (site : CallSite) :
    (∀ body a (now skew : Seconds), TokenAnswer.parse body = .ok a →
      now.toNat + a.expiresIn.toNat < 2 ^ 64 →
        (a.expiresAt = none → now.toNat + ((a.receivedAt now).cacheLifetime skew).toNat +
          a.margin skew = (a.receivedAt now).expiresAt.toNat) ∧
        (now.toNat + ((a.receivedAt now).cacheLifetime skew).toNat ≤
          (a.receivedAt now).expiresAt.toNat ↔ a.OutlivesCache now skew)) ∧
    ∀ base t, (s.record c site (s.run (start choice web outside) ms)).result = .ok t →
      (s.record c site (s.run (start choice web outside) ms)).posts = [] → site.Ticks base →
        (∀ k ∈ s.calls (start choice web outside) ms, k.site.Ticks base) →
      ∃ settings, choice c.grantType = some settings ∧
        ∃ k ∈ s.calls (start choice web outside) ms, ∃ p r a, k.posts = [(p, .ok r)] ∧
          TokenAnswer.parse r.body = .ok a ∧ t = a.receivedAt k.site.now ∧
          site.now.toNat ≤ k.site.now.toNat + (t.cacheLifetime settings.evictSkewSecs).toNat := by
  constructor
  · intro body a now skew _ hfit
    refine ⟨fun hnone => ?_, TokenAnswer.kept_until_iff hfit⟩
    rw [Nat.add_assoc, TokenAnswer.cacheLifetime_add_margin, TokenAnswer.toNat_expiresAt hnone hfit]
  · intro base t hresult hposts hsite hcalls
    obtain ⟨q, cache, hq, hcache, hhit⟩ := (goes_accessToken s c site _).cached hresult hposts
    refine ⟨cache.settings, ?_,
      (run_dated s choice web outside ms).served_within hcache hhit hsite hcalls⟩
    have hsettings := (run_sourced s choice web outside ms).settings q.grant.grantType
    rw [hcache, hq.grantType] at hsettings
    exact hsettings.symm

namespace Sample

open TokenService

def hasty : TokenService Unit Unit where
  resolver := none
  endpoint := ⟨fun _ _ => (.ok ⟨200,
    "\x7b\"access_token\":\"t\",\"expires_in\":300,\"expires_at\":20\x7d".toUTF8.toList⟩, ())⟩

def hastyAnswer : TokenAnswer := ⟨"t", none, 300, some 20⟩

/-- The token expires at 20 and has been dropped only at 290; until then it is served. -/
theorem served_past_expiry :
    TokenAnswer.parse
        "\x7b\"access_token\":\"t\",\"expires_in\":300,\"expires_at\":20\x7d".toUTF8.toList =
      .ok hastyAnswer ∧
    ¬(0 + ((hastyAnswer.receivedAt 0).cacheLifetime 10).toNat ≤
      (hastyAnswer.receivedAt 0).expiresAt.toNat) ∧
    (hasty.record machine ⟨none, 289, 289000, []⟩
        (hasty.run (start ownCache () ()) [.call machine alone])).posts = [] ∧
    (hasty.record machine ⟨none, 289, 289000, []⟩
        (hasty.run (start ownCache () ()) [.call machine alone])).result =
      .ok (hastyAnswer.receivedAt 0) := by
  decide +kernel

end Sample
end BearerTrust

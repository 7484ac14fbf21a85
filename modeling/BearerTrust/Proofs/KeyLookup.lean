import BearerTrust.Proofs.RetrievalRecord
import BearerTrust.Proofs.Steps

namespace BearerTrust

variable {σ τ α : Type}

structure KeyState.Alike (R : σ → τ → Prop) (s : KeyState σ) (t : KeyState τ) : Prop where
  stored : s.stored = t.stored
  web : R s.web t.web

structure SameAnswer (R : σ → τ → Prop) (x : α × KeyState σ) (y : α × KeyState τ) : Prop where
  answer : x.1 = y.1
  state : x.2.Alike R y.2

namespace KeySource

section Step

variable {web : Retriever σ} {source : KeySource} {policy : KeyCachePolicy} {now : Instant}
  {st st' : KeyState σ} {r : Except KeySourceError KeySet}

theorem readAnswer_eq_ok_iff {answer : Except RetrievalError Bytes} {ks : KeySet} :
    readAnswer answer = .ok ks ↔ ∃ body, answer = .ok body ∧ KeySet.parse? body = some ks := by
  cases answer with
  | error e => simp [readAnswer]
  | ok body => cases hk : KeySet.parse? body <;> simp [readAnswer, hk]

theorem storedAt_eq_ok_iff {ks : KeySet} {c : StoredKeys} :
    storedAt policy now ks = .ok c ↔
      now + policy.lifespan < Instant.limit ∧ c = ⟨ks, now, now + policy.lifespan⟩ := by
  unfold storedAt
  split
  · next h => simp [h, eq_comm]
  · next h => simp [h]

theorem renew_eq_ok (h : renew web source policy now st = .ok (r, st')) :
    r = readAnswer (web.retrieve source.jwksUrl st.web).1 ∧
      st'.web = (web.retrieve source.jwksUrl st.web).2 ∧
      ((∃ e, r = .error e ∧ st'.stored = st.stored) ∨
        ∃ ks, r = .ok ks ∧ now + policy.lifespan < Instant.limit ∧
          st'.stored = some ⟨ks, now, now + policy.lifespan⟩) := by
  simp only [renew, fetch] at h
  cases ha : readAnswer (web.retrieve source.jwksUrl st.web).1 with
  | error e =>
    rw [ha] at h
    cases h
    exact ⟨rfl, rfl, .inl ⟨e, rfl, rfl⟩⟩
  | ok ks =>
    rw [ha] at h
    obtain ⟨c, hc, h⟩ := bind_eq_ok_iff.1 h
    obtain ⟨hlimit, rfl⟩ := storedAt_eq_ok_iff.1 hc
    cases h
    exact ⟨rfl, rfl, .inr ⟨ks, rfl, hlimit, rfl⟩⟩

theorem renew_eq_error_iff {a : Abort} :
    renew web source policy now st = .error a ↔ a = .instantOverflow ∧
      Instant.limit ≤ now + policy.lifespan ∧
        ∃ ks, readAnswer (web.retrieve source.jwksUrl st.web).1 = .ok ks := by
  simp only [renew, fetch]
  cases readAnswer (web.retrieve source.jwksUrl st.web).1 with
  | error e => simp
  | ok ks =>
    by_cases hlimit : now + policy.lifespan < Instant.limit
    · have hle : ¬Instant.limit ≤ now + policy.lifespan := Nat.not_le.2 hlimit
      simp [storedAt, hlimit, hle, bind, Except.bind]
    · have hle : Instant.limit ≤ now + policy.lifespan := Nat.not_lt.1 hlimit
      simp [storedAt, hlimit, hle, bind, Except.bind, eq_comm]

theorem refresh_eq_ok {why : RefreshReason}
    (h : refresh web source policy why now st = .ok (r, st')) :
    (st' = st ∧ ∃ c, st.stored = some c ∧ r = .ok c.keys ∧ why.isSettledBy policy now c = true) ∨
      renew web source policy now st = .ok (r, st') := by
  unfold refresh at h
  cases hs : st.stored with
  | none => rw [hs] at h; exact .inr h
  | some c =>
    rw [hs] at h
    dsimp only at h
    split at h
    · next hw => cases h; exact .inl ⟨rfl, c, rfl, rfl, hw⟩
    · exact .inr h

theorem refresh_eq_error_iff {why : RefreshReason} {a : Abort} :
    refresh web source policy why now st = .error a ↔
      (∀ c, st.stored = some c → why.isSettledBy policy now c = false) ∧
        renew web source policy now st = .error a := by
  unfold refresh
  cases st.stored with
  | none => simp
  | some c => cases h : why.isSettledBy policy now c <;> simp [h]

theorem keys_cached (hc : source.cache = some policy) :
    keys web source now st = refresh web source policy .expiry now st := by
  simp only [keys, hc]

theorem refreshAhead_cached (hc : source.cache = some policy) :
    refreshAhead web source now st =
      (refresh web source policy .ahead now st).map fun x => (x.1.map fun _ => (), x.2) := by
  simp only [refreshAhead, hc]
  rfl

theorem verificationKey_uncached (hc : source.cache = none) (id : Option String)
    (algorithm : Algorithm) :
    verificationKey web source id algorithm now st =
      .ok ((readAnswer (web.retrieve source.jwksUrl st.web).1).map (·.choose id algorithm),
        ⟨st.stored, (web.retrieve source.jwksUrl st.web).2⟩) := by
  simp only [verificationKey, keys, hc, fetch]
  cases readAnswer (web.retrieve source.jwksUrl st.web).1 with
  | error e => rfl
  | ok ks => cases hk : ks.choose id algorithm <;> simp [bind, Except.bind, Except.map, hk]

theorem verificationKey_cached (hc : source.cache = some policy) (id : Option String)
    (algorithm : Algorithm) :
    verificationKey web source id algorithm now st =
      refresh web source policy .expiry now st >>= fun x =>
        match x.1 with
        | .error e => .ok (.error e, x.2)
        | .ok ks =>
          if (ks.choose id algorithm).isSome then .ok (.ok (ks.choose id algorithm), x.2)
          else (refresh web source policy .unknownKey now x.2).map fun y =>
            (y.1.map (·.choose id algorithm), y.2) := by
  simp only [verificationKey, keys, hc]
  congr 1
  funext x
  obtain ⟨r, st'⟩ := x
  match r with
  | .error e => rfl
  | .ok ks =>
    dsimp only
    cases hk : ks.choose id algorithm with
    | some k => rfl
    | none =>
      dsimp only
      cases refresh web source policy .unknownKey now st' with
      | error a => rfl
      | ok y =>
        obtain ⟨r, st''⟩ := y
        cases r <;> rfl

end Step

section Alike

variable {R : σ → τ → Prop} {web : Retriever σ} {other : Retriever τ} {source : KeySource}
  {s : KeyState σ} {t : KeyState τ}

theorem renew_alike (hR : web.Mirrors R other source.jwksUrl) (h : s.Alike R t)
    (policy : KeyCachePolicy) (now : Instant) :
    Lockstep (SameAnswer R) (renew web source policy now s) (renew other source policy now t) := by
  obtain ⟨ha, hw⟩ := hR _ _ h.web
  simp only [renew, fetch, ha]
  cases readAnswer (other.retrieve source.jwksUrl t.web).1 with
  | error e => exact .ok ⟨rfl, h.stored, hw⟩
  | ok ks =>
    dsimp only
    cases storedAt policy now ks with
    | error a => exact .error a
    | ok c => exact .ok ⟨rfl, rfl, hw⟩

theorem refresh_alike (hR : web.Mirrors R other source.jwksUrl) (h : s.Alike R t)
    (policy : KeyCachePolicy) (why : RefreshReason) (now : Instant) :
    Lockstep (SameAnswer R) (refresh web source policy why now s)
      (refresh other source policy why now t) := by
  simp only [refresh, h.stored]
  cases ht : t.stored with
  | none => exact renew_alike hR h policy now
  | some c =>
    dsimp only
    split
    · exact .ok ⟨rfl, h⟩
    · exact renew_alike hR h policy now

theorem verificationKey_alike (hR : web.Mirrors R other source.jwksUrl) (h : s.Alike R t)
    (id : Option String) (algorithm : Algorithm) (now : Instant) :
    Lockstep (SameAnswer R) (verificationKey web source id algorithm now s)
      (verificationKey other source id algorithm now t) := by
  cases hc : source.cache with
  | none =>
    obtain ⟨ha, hw⟩ := hR _ _ h.web
    rw [verificationKey_uncached hc, verificationKey_uncached hc, ha]
    exact .ok ⟨rfl, h.stored, hw⟩
  | some policy =>
    rw [verificationKey_cached hc, verificationKey_cached hc]
    refine (refresh_alike hR h policy .expiry now).bind ?_
    rintro ⟨r, s⟩ ⟨r', t⟩ ⟨rfl, h⟩
    cases r with
    | error e => exact .ok ⟨rfl, h⟩
    | ok ks =>
      dsimp only
      split
      · exact .ok ⟨rfl, h⟩
      · refine (refresh_alike hR h policy .unknownKey now).bind ?_
        rintro ⟨r, s⟩ ⟨r', t⟩ ⟨rfl, h⟩
        exact .ok ⟨rfl, h⟩

theorem refreshAhead_alike (hR : web.Mirrors R other source.jwksUrl) (h : s.Alike R t)
    (now : Instant) :
    Lockstep (SameAnswer R) (refreshAhead web source now s) (refreshAhead other source now t) := by
  simp only [refreshAhead]
  cases source.cache with
  | none => exact .ok ⟨rfl, h⟩
  | some policy =>
    refine (refresh_alike hR h policy .ahead now).bind ?_
    rintro ⟨r, s⟩ ⟨r', t⟩ ⟨rfl, h⟩
    exact .ok ⟨rfl, h⟩

end Alike

section Web

variable {web : Retriever σ} {source : KeySource} {P : σ → Prop}

-- What goes alike over any two retrievers goes alike over one retriever twice, and then `P` can be
-- carried along in the relation.
theorem web_of_lockstep {f : KeyState σ → Except Abort (α × KeyState σ)}
    (hf : ∀ R : σ → σ → Prop, web.Mirrors R web source.jwksUrl →
      ∀ s t, s.Alike R t → Lockstep (SameAnswer R) (f s) (f t))
    (hP : ∀ w, P w → P (web.retrieve source.jwksUrl w).2) {s s' : KeyState σ} {a : α}
    (h : f s = .ok (a, s')) (hs : P s.web) : P s'.web := by
  have hR : web.Mirrors (fun w v => w = v ∧ P w) web source.jwksUrl := by
    rintro w v ⟨rfl, hw⟩
    exact ⟨rfl, rfl, hP w hw⟩
  obtain ⟨b, -, hb⟩ := (hf _ hR s s ⟨rfl, rfl, hs⟩).left h
  exact hb.state.web.2

theorem refreshAhead_web (hP : ∀ w, P w → P (web.retrieve source.jwksUrl w).2)
    {now : Instant} {s s' : KeyState σ} {a : Except KeySourceError Unit}
    (h : refreshAhead web source now s = .ok (a, s')) (hs : P s.web) : P s'.web :=
  web_of_lockstep (fun _ hR _ _ hst => refreshAhead_alike hR hst now) hP h hs

end Web

/-- A notion of the key sets that belong to a place: it is kept when the place is asked, and includes
what the place answers with. -/
structure Origin (web : Retriever σ) (url : Url) (Own : KeySet → σ → Prop) : Prop where
  kept : ∀ ks s, Own ks s → Own ks (web.retrieve url s).2
  answered : ∀ ks s, readAnswer (web.retrieve url s).1 = .ok ks → Own ks (web.retrieve url s).2

def Owned (Own : KeySet → σ → Prop) (st : KeyState σ) : Prop :=
  ∀ c, st.stored = some c → Own c.keys st.web

section Origin

variable {web : Retriever σ} {source : KeySource} {Own : KeySet → σ → Prop}
  {policy : KeyCachePolicy} {now : Instant} {st st' : KeyState σ}

theorem renew_owned (h : Origin web source.jwksUrl Own) (hst : Owned Own st)
    {r : Except KeySourceError KeySet} (hr : renew web source policy now st = .ok (r, st')) :
    Owned Own st' ∧ ∀ ks, r = .ok ks → Own ks st'.web := by
  obtain ⟨ha, hw, ⟨e, rfl, hs⟩ | ⟨ks, rfl, -, hs⟩⟩ := renew_eq_ok hr
  · refine ⟨fun c hc => ?_, nofun⟩
    rw [hs] at hc
    rw [hw]
    exact h.kept _ _ (hst c hc)
  · have hown : Own ks st'.web := by rw [hw]; exact h.answered ks _ ha.symm
    refine ⟨fun c hc => ?_, ?_⟩
    · rw [hs] at hc
      cases hc
      exact hown
    · rintro ks' ⟨⟩
      exact hown

theorem refresh_owned (h : Origin web source.jwksUrl Own) (hst : Owned Own st)
    {why : RefreshReason} {r : Except KeySourceError KeySet}
    (hr : refresh web source policy why now st = .ok (r, st')) :
    Owned Own st' ∧ ∀ ks, r = .ok ks → Own ks st'.web := by
  rcases refresh_eq_ok hr with ⟨rfl, c, hs, rfl, -⟩ | hr
  · refine ⟨hst, ?_⟩
    rintro ks ⟨⟩
    exact hst c hs
  · exact renew_owned h hst hr

theorem verificationKey_owned (h : Origin web source.jwksUrl Own) (hst : Owned Own st)
    {id : Option String} {algorithm : Algorithm} {r : Except KeySourceError (Option Jwk)}
    (hr : verificationKey web source id algorithm now st = .ok (r, st')) :
    Owned Own st' ∧
      ∀ k, r = .ok (some k) → ∃ ks, Own ks st'.web ∧ ks.choose id algorithm = some k := by
  cases hc : source.cache with
  | none =>
    rw [verificationKey_uncached hc] at hr
    cases hr
    refine ⟨fun c hs => h.kept _ _ (hst c hs), fun k hk => ?_⟩
    obtain ⟨ks, hks, hch⟩ := map_eq_ok_iff.1 hk
    exact ⟨ks, h.answered ks _ hks, hch⟩
  | some policy =>
    rw [verificationKey_cached hc] at hr
    obtain ⟨⟨r₁, st₁⟩, h₁, hr⟩ := bind_eq_ok_iff.1 hr
    obtain ⟨hst₁, hown₁⟩ := refresh_owned h hst h₁
    match r₁ with
    | .error e => cases hr; exact ⟨hst₁, nofun⟩
    | .ok ks =>
      dsimp only at hr
      split at hr
      · cases hr
        exact ⟨hst₁, fun k hk => ⟨ks, hown₁ ks rfl, Except.ok.inj hk⟩⟩
      · obtain ⟨⟨r₂, st₂⟩, h₂, hr⟩ := map_eq_ok_iff.1 hr
        obtain ⟨hst₂, hown₂⟩ := refresh_owned h hst₁ h₂
        cases hr
        refine ⟨hst₂, fun k hk => ?_⟩
        obtain ⟨ks₂, hks₂, hch⟩ := map_eq_ok_iff.1 hk
        exact ⟨ks₂, hown₂ ks₂ hks₂, hch⟩

theorem refreshAhead_owned (h : Origin web source.jwksUrl Own) (hst : Owned Own st)
    {r : Except KeySourceError Unit} (hr : refreshAhead web source now st = .ok (r, st')) :
    Owned Own st' := by
  cases hc : source.cache with
  | none =>
    simp only [refreshAhead, hc] at hr
    cases hr
    exact hst
  | some policy =>
    rw [refreshAhead_cached hc] at hr
    obtain ⟨⟨a, st₁⟩, ha, ⟨⟩⟩ := map_eq_ok_iff.1 hr
    exact (refresh_owned h hst ha).1

end Origin

/-- A lookup has to store a set that would expire past the clock's range: the place answers with a
set, and the stored one has expired, or lacks the key and is not new. -/
def Overruns (source : KeySource) (set : Except KeySourceError KeySet) (id : Option String)
    (algorithm : Algorithm) (now : Instant) (stored : Option StoredKeys) : Prop :=
  ∃ policy ks, source.cache = some policy ∧ Instant.limit ≤ now + policy.lifespan ∧ set = .ok ks ∧
    ∀ c, stored = some c → c.expiresAt ≤ now ∨
      (c.keys.choose id algorithm = none ∧ policy.minRefreshInterval ≤ now - c.fetchedAt)

section Overrun

variable {web : Retriever σ} {source : KeySource} {now : Instant} {st : KeyState σ} {a : Abort}
  {id : Option String} {algorithm : Algorithm}

theorem overruns_of_verificationKey (h : verificationKey web source id algorithm now st = .error a) :
    a = .instantOverflow ∧ Overruns source (readAnswer (web.retrieve source.jwksUrl st.web).1) id
      algorithm now st.stored := by
  cases hc : source.cache with
  | none =>
    rw [verificationKey_uncached hc] at h
    cases h
  | some policy =>
    rw [verificationKey_cached hc, bind_eq_error_iff] at h
    rcases h with h | ⟨⟨r, st₁⟩, h, hr⟩
    · obtain ⟨hw, hrenew⟩ := refresh_eq_error_iff.1 h
      obtain ⟨rfl, hlimit, ks, hks⟩ := renew_eq_error_iff.1 hrenew
      refine ⟨rfl, policy, ks, hc, hlimit, hks, fun c hst => .inl (Nat.not_lt.1 ?_)⟩
      exact of_decide_eq_false (hw c hst)
    · match r with
      | .error e => cases hr
      | .ok ks =>
        dsimp only at hr
        split at hr
        · cases hr
        · next hk =>
          have hk : ks.choose id algorithm = none := by simpa using hk
          obtain ⟨hw, hrenew⟩ := refresh_eq_error_iff.1 (map_eq_error_iff.1 hr)
          obtain ⟨rfl, hlimit, ks', hks⟩ := renew_eq_error_iff.1 hrenew
          -- The first refresh did not store a set, or it would have failed as the second one did.
          rcases refresh_eq_ok h with ⟨rfl, c, hst, hks', -⟩ | hfirst
          · cases hks'
            refine ⟨rfl, policy, ks', hc, hlimit, hks, fun c' hst' => .inr ?_⟩
            rw [hst] at hst'
            cases hst'
            exact ⟨hk, Nat.not_lt.1 (of_decide_eq_false (hw c hst))⟩
          · obtain ⟨-, -, ⟨e, he, -⟩ | ⟨_, -, hfits, -⟩⟩ := renew_eq_ok hfirst
            · cases he
            · exact absurd hlimit (Nat.not_le.2 hfits)

theorem verificationKey_of_overruns
    (h : Overruns source (readAnswer (web.retrieve source.jwksUrl st.web).1) id algorithm now
      st.stored) :
    verificationKey web source id algorithm now st = .error .instantOverflow := by
  obtain ⟨policy, ks, hc, hlimit, hks, hst⟩ := h
  have hrenew : renew web source policy now st = .error .instantOverflow :=
    renew_eq_error_iff.2 ⟨rfl, hlimit, ks, hks⟩
  rw [verificationKey_cached hc, bind_eq_error_iff]
  by_cases hused : ∃ c, st.stored = some c ∧ now < c.expiresAt
  · obtain ⟨c, hs, hlive⟩ := hused
    obtain hdead | ⟨hk, hold⟩ := hst c hs
    · exact absurd hlive (Nat.not_lt.2 hdead)
    · have hfirst : refresh web source policy .expiry now st = .ok (.ok c.keys, st) := by
        simp [refresh, hs, RefreshReason.isSettledBy, hlive]
      have hsecond : refresh web source policy .unknownKey now st = .error .instantOverflow := by
        refine refresh_eq_error_iff.2 ⟨fun c' hs' => ?_, hrenew⟩
        rw [hs] at hs'
        cases hs'
        exact decide_eq_false (Nat.not_lt.2 hold)
      refine .inr ⟨_, hfirst, ?_⟩
      simp [hk, hsecond, Except.map]
  · refine .inl (refresh_eq_error_iff.2 ⟨fun c hs => decide_eq_false fun hlive => ?_, hrenew⟩)
    exact hused ⟨c, hs, hlive⟩

theorem verificationKey_eq_error_iff :
    verificationKey web source id algorithm now st = .error a ↔ a = .instantOverflow ∧
      Overruns source (readAnswer (web.retrieve source.jwksUrl st.web).1) id algorithm now
        st.stored := by
  constructor
  · exact overruns_of_verificationKey
  · rintro ⟨rfl, h⟩
    exact verificationKey_of_overruns h

end Overrun

def Current (answer : Except RetrievalError Bytes) (stored : Option StoredKeys) : Prop :=
  ∀ c, stored = some c → readAnswer answer = .ok c.keys

/-- What a lookup may have stored: nothing new, or a set that expires within the clock's range. -/
def Kept (source : KeySource) (now : Instant) (stored stored' : Option StoredKeys) : Prop :=
  stored' = stored ∨ ∃ policy, source.cache = some policy ∧ now + policy.lifespan < Instant.limit

section Steady

variable {web : Retriever σ} {answers : Url → Except RetrievalError Bytes} {source : KeySource}
  {policy : KeyCachePolicy} {now : Instant} {st st' : KeyState σ}
  {stored stored₁ stored₂ : Option StoredKeys}

theorem Kept.trans (h₁ : Kept source now stored stored₁) (h₂ : Kept source now stored₁ stored₂) :
    Kept source now stored stored₂ := by
  rcases h₂ with rfl | h₂
  · exact h₁
  · exact .inr h₂

theorem Kept.overruns_iff {set : Except KeySourceError KeySet} {id : Option String}
    {algorithm : Algorithm} (h : Kept source now stored stored₁) :
    Overruns source set id algorithm now stored₁ ↔ Overruns source set id algorithm now stored := by
  rcases h with rfl | ⟨policy, hc, hlimit⟩
  · exact Iff.rfl
  · have hnone (s : Option StoredKeys) : ¬Overruns source set id algorithm now s := by
      rintro ⟨policy', _, hc', hl, -⟩
      obtain rfl : policy = policy' := Option.some.inj (hc.symm.trans hc')
      exact Nat.not_le.2 hlimit hl
    exact iff_of_false (hnone _) (hnone _)

structure Constant (web : Retriever σ) (answers : Url → Except RetrievalError Bytes)
    (source : KeySource) (st : KeyState σ) : Prop where
  web : web.Steady answers st.web
  current : Current (answers source.jwksUrl) st.stored

theorem refresh_steady (hc : source.cache = some policy) (h : Constant web answers source st)
    {why : RefreshReason} {r : Except KeySourceError KeySet}
    (hr : refresh web source policy why now st = .ok (r, st')) :
    r = readAnswer (answers source.jwksUrl) ∧ Constant web answers source st' ∧
      Kept source now st.stored st'.stored := by
  rcases refresh_eq_ok hr with ⟨rfl, c, hst, rfl, -⟩ | hr
  · exact ⟨(h.current c hst).symm, h, .inl rfl⟩
  · obtain ⟨rfl, hw, hst⟩ := renew_eq_ok hr
    have hanswer : (web.retrieve source.jwksUrl st.web).1 = answers source.jwksUrl :=
      (h.web source.jwksUrl).answer
    have hweb : web.Steady answers st'.web := by rw [hw]; exact h.web.retrieve source.jwksUrl
    rw [hanswer] at hst ⊢
    rcases hst with ⟨e, -, hst⟩ | ⟨ks, hks, hlimit, hst⟩
    · exact ⟨rfl, ⟨hweb, by rw [hst]; exact h.current⟩, .inl hst⟩
    · refine ⟨rfl, ⟨hweb, ?_⟩, .inr ⟨policy, hc, hlimit⟩⟩
      rintro c hc'
      rw [hst] at hc'
      cases hc'
      exact hks

theorem verificationKey_steady (h : Constant web answers source st) {id : Option String}
    {algorithm : Algorithm} {r : Except KeySourceError (Option Jwk)}
    (hr : verificationKey web source id algorithm now st = .ok (r, st')) :
    r = (readAnswer (answers source.jwksUrl)).map (·.choose id algorithm) ∧
      Constant web answers source st' ∧ Kept source now st.stored st'.stored := by
  cases hc : source.cache with
  | none =>
    rw [verificationKey_uncached hc] at hr
    cases hr
    rw [(h.web source.jwksUrl).answer]
    exact ⟨rfl, ⟨h.web.retrieve source.jwksUrl, h.current⟩, .inl rfl⟩
  | some policy =>
    rw [verificationKey_cached hc] at hr
    obtain ⟨⟨r₁, st₁⟩, h₁, hr⟩ := bind_eq_ok_iff.1 hr
    obtain ⟨rfl, hst₁, hk₁⟩ := refresh_steady hc h h₁
    cases ha : readAnswer (answers source.jwksUrl) with
    | error e =>
      rw [ha] at hr
      cases hr
      exact ⟨rfl, hst₁, hk₁⟩
    | ok ks =>
      rw [ha] at hr
      dsimp only at hr
      split at hr
      · cases hr
        exact ⟨rfl, hst₁, hk₁⟩
      · obtain ⟨⟨r₂, st₂⟩, h₂, hr⟩ := map_eq_ok_iff.1 hr
        obtain ⟨rfl, hst₂, hk₂⟩ := refresh_steady hc hst₁ h₂
        rw [ha] at hr
        cases hr
        exact ⟨rfl, hst₂, hk₁.trans hk₂⟩

end Steady
end KeySource
end BearerTrust

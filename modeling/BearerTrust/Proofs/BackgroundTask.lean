import BearerTrust.Proofs.TimelineSteps

namespace BearerTrust

structure KeyCachePolicy.KeepsUp (policy : KeyCachePolicy) : Prop where
  positive : 0 < policy.refreshAhead
  ahead : policy.minRefreshInterval ≤ policy.refreshAhead
  life : policy.minRefreshInterval < policy.lifespan

def KeyPhase.IsAhead : KeyPhase → Prop
  | reading => True
  | waiting why | checking why | retrieving why | storing why _ => why = .ahead
  | done o => o = .answer .refreshed

namespace KeyDesk

variable {d d' : KeyDesk} {policy : KeyCachePolicy} {i : Nat} {m : KeyMove} {p p' : KeyPhase}
  {r : Refresher} {t : Instant}

def LastsBeyond (d : KeyDesk) (t : Instant) : Prop := ∀ s, d.stored = some s → t < s.expiresAt

theorem Sound.stored_apply (h : d.Sound policy) (m : KeyMove) :
    (d.apply m).stored = d.stored ∨ ∃ s, (d.apply m).stored = some s ∧
      s.expiresAt = d.now + policy.lifespan ∧ ∀ s₀, d.stored = some s₀ → s₀.expiresAt ≤ s.expiresAt := by
  rcases (h.turn m).stored_eq with hsame | ⟨j, q, why, s, -, hj, hs⟩
  · exact .inl hsame
  · obtain ⟨hdated, hlater⟩ := h.timely.storing j _ hj why s rfl
    have hfetched : s.fetchedAt = d.now := h.fetched j _ hj why s rfl
    refine .inr ⟨s, hs, by rw [hdated.expires, hfetched], fun s₀ hs₀ => ?_⟩
    rw [hdated.expires, (h.timely.stored s₀ hs₀).expires]
    exact Nat.add_le_add_right (hlater s₀ hs₀) _

theorem Sound.stored_ne_none (h : d.Sound policy) (m : KeyMove) (hs : d.stored ≠ none) :
    (d.apply m).stored ≠ none := by
  rcases h.stored_apply m with hsame | ⟨s, hs', -⟩
  · rw [hsame]
    exact hs
  · rw [hs']
    exact nofun

theorem Sound.lasts_apply (h : d.Sound policy) (m : KeyMove) (hlasts : d.LastsBeyond t)
    (ht : d.stored = none → t < d.now + policy.lifespan) : (d.apply m).LastsBeyond t := by
  intro s hs
  rcases h.stored_apply m with hsame | ⟨s', hs', hexpires, hlater⟩
  · exact hlasts s (hsame.symm.trans hs)
  · obtain rfl : s' = s := Option.some.inj (hs'.symm.trans hs)
    cases hstored : d.stored with
    | none =>
      rw [hexpires]
      exact ht hstored
    | some s₀ => exact Nat.lt_of_lt_of_le (hlasts s₀ hstored) (hlater s₀ hstored)

inductive Task (policy : KeyCachePolicy) (d : KeyDesk) : Refresher → Prop
  | asleep (w : Instant) (hnow : d.now ≤ w) (hlasts : d.LastsBeyond w)
      (hnone : d.stored = none → w ≤ d.now + policy.minRefreshInterval) : Task policy d (.asleep w)
  | refreshing (i : Nat) (p : KeyPhase) (hi : d.caller? i = some ⟨.refreshAhead, p⟩) (hp : p.IsAhead)
      (hlasts : d.LastsBeyond d.now)
      (hdone : ∀ o, p = .done o →
        d.stored ≠ none ∧ d.LastsBeyond (d.now + policy.minRefreshInterval)) :
      Task policy d (.refreshing i)

def Succeeds (policy : KeyCachePolicy) (d : KeyDesk) : KeyMove → Prop
  | .answer _ a => ∀ o, ¬Fails policy d.now a o
  | .pass _ | .arrive _ _ | .step _ => True

theorem Next.isAhead (h : Next policy d .refreshAhead m p p') (hp : p.IsAhead)
    (hok : Succeeds policy d m) : p'.IsAhead := by
  cases h with
  | join => rfl
  | find hq => exact absurd rfl hq
  | reuse | store => rfl
  | enter | start | bring => exact hp
  | fail why a o i hm ho =>
    subst hm
    exact absurd ho (hok o)

theorem lastsBeyond_of_stored {s : StoredKeys} (hs : d.stored = some s) (ht : t < s.expiresAt) :
    d.stored ≠ none ∧ d.LastsBeyond t := by
  refine ⟨by rw [hs]; exact nofun, fun s' hs' => ?_⟩
  cases hs.symm.trans hs'
  exact ht

theorem Advances.refreshed {o : KeyOutcome} (h : Advances policy d i .refreshAhead m p d' (.done o))
    (hd : d.Sound policy) (hi : d.caller? i = some ⟨.refreshAhead, p⟩) (hp : p.IsAhead)
    (hok : Succeeds policy d m) (hkeeps : policy.KeepsUp) :
    d'.stored ≠ none ∧ d'.LastsBeyond (d.now + policy.minRefreshInterval) := by
  have hstored := h.stored
  have hnext := h.next
  generalize hp' : KeyPhase.done o = p' at hnext
  cases hnext with
  | find hq => exact absurd rfl hq
  | join | enter | start | bring => cases hp'
  | fail why a o i hm ho =>
    subst hm
    exact absurd ho (hok o)
  | reuse why s hs hw =>
    cases (hp : why = .ahead)
    have hlater : policy.refreshAhead < s.expiresAt - d.now := of_decide_eq_true hw
    exact lastsBeyond_of_stored (hstored.trans hs)
      (Nat.add_lt_of_lt_sub' (Nat.lt_of_le_of_lt hkeeps.ahead hlater))
  | store why s =>
    obtain ⟨hdated, -⟩ := hd.timely.storing i _ hi why s rfl
    have hfetched : s.fetchedAt = d.now := hd.fetched i _ hi why s rfl
    refine lastsBeyond_of_stored hstored ?_
    rw [hdated.expires, hfetched]
    exact Nat.add_lt_add_left hkeeps.life _

theorem Task.apply (h : Task policy d r) (hd : d.Sound policy) (m : KeyMove) (hm : m.caller? = some i)
    (hok : Succeeds policy d m) (hkeeps : policy.KeepsUp) : Task policy (d.apply m) r := by
  have ht := hd.turn m
  have hnow : (d.apply m).now = d.now := ht.now_eq hm
  cases h with
  | asleep w hw hlasts hnone =>
    refine .asleep w (hnow ▸ hw) (hd.lasts_apply m hlasts fun hs => ?_) fun hs => ?_
    · exact Nat.lt_of_le_of_lt (hnone hs) (Nat.add_lt_add_left hkeeps.life _)
    · rw [hnow]
      exact hnone (by_contra fun hne => hd.stored_ne_none m hne hs)
  | refreshing j p hj hp hlasts hdone =>
    have hlasts' : (d.apply m).LastsBeyond (d.apply m).now := by
      rw [hnow]
      exact hd.lasts_apply m hlasts fun _ => Nat.lt_add_of_pos_right (Nat.zero_lt_of_lt hkeeps.life)
    have hstays (hj' : (d.apply m).caller? j = some ⟨.refreshAhead, p⟩) :
        Task policy (d.apply m) (.refreshing j) := by
      refine .refreshing j p hj' hp hlasts' fun o ho => ?_
      obtain ⟨hs, hlong⟩ := hdone o ho
      rw [hnow]
      exact ⟨hd.stored_ne_none m hs, hd.lasts_apply m hlong fun hnone => absurd hnone hs⟩
    by_cases hmj : m.caller? = some j
    · rcases ht.next hj hmj with ⟨-, hsame⟩ | ⟨p', h⟩
      · exact hstays (by rw [hsame, hj])
      · refine .refreshing j p' h.updates.self (h.next.isAhead hp hok) hlasts' ?_
        rintro o rfl
        rw [hnow]
        exact h.refreshed hd hj hp hok hkeeps
    · exact hstays (by rw [ht.other hmj, hj])

end KeyDesk

namespace Timeline

open KeyDesk

variable {t t' : Timeline} {policy : KeyCachePolicy}

def Tended (policy : KeyCachePolicy) (t : Timeline) : Prop :=
  ∃ r, t.refreshers = [r] ∧ Task policy t.desk r

theorem perform_spawnRefresh (h : t.Sound policy) : (t.perform .spawnRefresh).2 = t.lieDown policy := by
  rw [perform, if_pos h.held, h.desk.cache]

theorem wakes_before {now : Instant} {s : StoredKeys} (hahead : 0 < policy.refreshAhead)
    (hlong : now + policy.minRefreshInterval < s.expiresAt) :
    now + KeySource.nextRefresh policy now (some s) < s.expiresAt := by
  have hbefore (e a n : Nat) (ha : 0 < a) (hn : n < e) : n + (e - a - n) < e := by omega
  rw [KeySource.nextRefresh, ← Nat.add_max_add_left]
  exact Nat.max_lt.2 ⟨hbefore _ _ _ hahead (Nat.lt_of_le_of_lt (Nat.le_add_right _ _) hlong), hlong⟩

theorem Sound.spawnRefresh (h : t.Sound policy) (hkeeps : policy.KeepsUp)
    (hnew : ∀ s, t.desk.stored = some s → s.fetchedAt = t.desk.now) (hr : t.refreshers = []) :
    (t.perform .spawnRefresh).2.Sound policy ∧ (t.perform .spawnRefresh).2.Tended policy := by
  rw [perform_spawnRefresh h]
  refine ⟨⟨h.desk, h.known, h.flights, h.due, h.delay, h.held⟩, _, by rw [lieDown, hr]; rfl, ?_⟩
  refine .asleep _ (Nat.le_add_right _ _) (fun s hs => ?_) fun hs => ?_
  · have hs' : t.desk.stored = some s := hs
    rw [hs']
    refine wakes_before hkeeps.positive ?_
    rw [(h.desk.timely.stored s hs').expires, hnew s hs']
    exact Nat.add_lt_add_left hkeeps.life _
  · have hs' : t.desk.stored = none := hs
    rw [hs']
    exact Nat.le_refl _

theorem Happens.tended (h : Happens policy t t') (hsound : t.Sound policy) (ht : t.Tended policy)
    (hkeeps : policy.KeepsUp) : t'.Tended policy := by
  obtain ⟨r, hr, htask⟩ := ht
  have happly (m : KeyMove) {i : Nat} (hm : m.caller? = some i) (hok : Succeeds policy t.desk m) :
      Task policy (t.desk.apply m) r :=
    htask.apply hsound.desk m hm hok hkeeps
  cases h with
  | arrived q => exact ⟨r, hr, happly (.arrive t.nextCaller q) rfl trivial⟩
  | stepped i => exact ⟨r, (step_refreshers t i).trans hr, step_desk t i ▸ happly (.step i) rfl trivial⟩
  | landed f _ hok => exact ⟨r, hr, happly (.answer f.caller f.answer) rfl hok⟩
  | left i hi hnot =>
    refine ⟨r, hr, ?_⟩
    cases htask with
    | asleep w hnow hlasts hnone => exact .asleep w hnow hlasts hnone
    | refreshing j p hj hp hlasts hdone =>
      have hji : j ≠ i := by
        rintro rfl
        exact hnot (by rw [hr]; exact List.mem_singleton_self _)
      exact .refreshing j p (by rw [caller?_forget, if_neg hji, hj]) hp hlasts hdone
  | published => exact ⟨r, hr, htask⟩
  | woken w hw hnow =>
    obtain rfl := List.singleton_inj.1 (hr.symm.trans hw)
    cases htask with
    | asleep _ hafter hlasts hnone =>
      have hnew : t.desk.caller? t.nextCaller = none := by
        by_contra hne
        obtain ⟨c, hc⟩ := Option.ne_none_iff_exists'.1 hne
        exact Nat.lt_irrefl _ (hsound.known _ c hc)
      refine ⟨.refreshing t.nextCaller, rfl, ?_⟩
      change Task policy (t.desk.apply (.arrive t.nextCaller .refreshAhead)) _
      rw [apply_arrive hnew]
      refine .refreshing _ .reading (updates_put _ _ t.desk).self trivial (fun s hs => ?_) (fun _ => nofun)
      exact Nat.lt_of_le_of_lt hafter (hlasts s hs)
  | rested i hw hi =>
    obtain rfl := List.singleton_inj.1 (hr.symm.trans hw)
    cases htask with
    | refreshing _ p hj _ _ hdone =>
      obtain ⟨o, ho⟩ := Option.ne_none_iff_exists'.1 hi
      obtain ⟨q, hq⟩ := outcome?_eq_some_iff.1 ho
      cases hj.symm.trans hq
      obtain ⟨hstored, hlong⟩ := hdone o rfl
      obtain ⟨s, hs⟩ := Option.ne_none_iff_exists'.1 hstored
      refine ⟨_, rfl, .asleep _ (Nat.le_add_right _ _) ?_ fun hnone => absurd hnone hstored⟩
      intro s' hs'
      obtain rfl : s = s' := Option.some.inj (hs.symm.trans hs')
      change t.desk.now + KeySource.nextRefresh policy t.desk.now t.desk.stored < s.expiresAt
      rw [hs]
      exact wakes_before hkeeps.positive (hlong s hs)
  | passed instant hquiet he =>
    refine ⟨r, hr, ?_⟩
    cases htask with
    | asleep w hnow hlasts hnone =>
      have hnext : t.nextEvent? = some w := by
        rw [nextEvent?, hquiet.landed, hr]
        rfl
      have hle : (t.moveTo instant).desk.now ≤ w := by
        rw [moveTo_now]
        exact Nat.max_le.2 ⟨hnow, he w hnext⟩
      refine .asleep w hle hlasts fun hs => Nat.le_trans (hnone hs) ?_
      exact Nat.add_le_add_right (Nat.le_add_right _ _) _
    | refreshing i => exact absurd (hr ▸ List.mem_singleton_self _) (hquiet.resting i)

end Timeline
end BearerTrust

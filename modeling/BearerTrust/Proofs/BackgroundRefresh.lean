import BearerTrust.Proofs.RefreshLimit
import BearerTrust.Proofs.TimelineRun

namespace BearerTrust
namespace KeyDesk

variable {d : KeyDesk} {policy : KeyCachePolicy} {i : Nat} {m : KeyMove}

def NoneForExpiry (d : KeyDesk) : Prop :=
  ∀ s, d.stored = some s → d.now < s.expiresAt →
    ∀ i c, d.caller? i = some c → c.phase ≠ .retrieving .expiry

theorem phaseAfter_ne_retrieving (q : KeyQuery) (why why' : RefreshReason) (ks : KeySet) :
    phaseAfter q why ks ≠ .retrieving why' := by
  intro h
  have hnone := underway_phaseAfter q why ks
  rw [h] at hnone
  cases hnone

theorem NoneForExpiry.turn (h : d.NoneForExpiry) (hd : d.Sound policy) (hm : m.caller? = some i) :
    (d.apply m).NoneForExpiry := by
  intro s hs hunexpired
  have ht := hd.turn m
  rw [ht.now_eq hm] at hunexpired
  have hbefore : (∀ j c, d.caller? j = some c → c.phase ≠ .retrieving .expiry) ∧
      ∀ q, d.caller? i = some ⟨q, .checking .expiry⟩ → d.stored = some s := by
    rcases ht.stored_eq with hsame | ⟨k, q, why, s', rfl, hk, -⟩
    · exact ⟨h s (hsame.symm.trans hs) hunexpired, fun _ _ => hsame.symm.trans hs⟩
    · -- Whoever stores a set holds the lock, so nobody else retrieves.
      cases hm
      refine ⟨fun j c hj hp => ?_, fun q' hi => ?_⟩
      · obtain rfl : j = i := hd.order.holder_unique hj (by rw [hp]; trivial) hk trivial
        cases hj.symm.trans hk
        cases hp
      · cases hk.symm.trans hi
  refine ht.forall hm hbefore.1 (fun _ _ => nofun) fun q p p' hi hnext hp => ?_
  cases hnext with
  | start why hw =>
    cases hp
    exact of_decide_eq_false (hw s (hbefore.2 q hi)) hunexpired
  | find | reuse | store => exact phaseAfter_ne_retrieving _ _ _ _ hp
  | join | enter | fail | bring => cases hp

theorem NoneForExpiry.apply (h : d.NoneForExpiry) (hd : d.Sound policy) (m : KeyMove) :
    (d.apply m).NoneForExpiry := by
  cases m with
  | pass span =>
    exact fun s hs hunexpired => h s hs (Nat.lt_of_le_of_lt (Nat.le_add_right _ _) hunexpired)
  | arrive | step | answer => exact h.turn hd rfl

theorem NoneForExpiry.forget (h : d.NoneForExpiry) (i : Nat) : (d.forget i).NoneForExpiry :=
  fun s hs hunexpired j c hj => h s hs hunexpired j c (caller?_of_forget hj)

end KeyDesk

namespace Timeline

open Relation KeyDesk

variable {t t' : Timeline} {policy : KeyCachePolicy}

theorem Happens.refreshers (h : Happens policy t t') (hr : t.refreshers = []) : t'.refreshers = [] := by
  cases h with
  | stepped i => exact (step_refreshers t i).trans hr
  | woken w hw => cases hr.symm.trans hw
  | rested i hw => cases hr.symm.trans hw
  | arrived | landed | left | published | passed => exact hr

theorem Tended.unexpired (h : t.Tended policy) : t.desk.LastsBeyond t.desk.now := by
  obtain ⟨r, -, htask⟩ := h
  cases htask with
  | asleep w hnow hlasts => exact fun s hs => Nat.lt_of_le_of_lt hnow (hlasts s hs)
  | refreshing _ _ _ _ hlasts => exact hlasts

theorem Happens.noneForExpiry (h : Happens policy t t') (hsound : t.Sound policy)
    (hnone : t.desk.NoneForExpiry) : t'.desk.NoneForExpiry := by
  rcases h.desk with ⟨m, hm⟩ | ⟨i, hi⟩
  · rw [hm]
    exact hnone.apply hsound.desk m
  · rw [hi]
    exact hnone.forget i

theorem Sound.run_noneForExpiry (h : t.Sound policy) (hnone : t.desk.NoneForExpiry)
    (hrun : ReflTransGen (Happens policy) t t') : t'.desk.NoneForExpiry :=
  (h.run_invariant (X := fun u => u.desk.NoneForExpiry) hrun hnone
    fun _ _ hu hv hnone => hv.noneForExpiry hu hnone).2

theorem Happens.stored_ne_none (h : Happens policy t t') (hsound : t.Sound policy)
    (hs : t.desk.stored ≠ none) : t'.desk.stored ≠ none := by
  rcases h.desk with ⟨m, hm⟩ | ⟨i, hi⟩
  · rw [hm]
    exact hsound.desk.stored_ne_none m hs
  · rw [hi]
    exact hs

theorem Sound.run_stored (h : t.Sound policy) (hs : t.desk.stored ≠ none)
    (hrun : ReflTransGen (Happens policy) t t') : t'.desk.stored ≠ none :=
  (h.run_invariant (X := fun u => u.desk.stored ≠ none) hrun hs
    fun _ _ hu hv hstored => hv.stored_ne_none hu hstored).2

/-- In all that others do with a source at work whose issuer publishes key sets, the stored set is not
expired in the end. -/
theorem run_unexpired (actions : List Action) {url : Url} {library : Library} (hkeeps : policy.KeepsUp)
    (hsupplies : library.Supplies url) (hactions : ∀ a ∈ actions, a.IsForeground url)
    (hrange : (actions.map Action.span).sum + policy.lifespan < Instant.limit) :
    let t := ((start ⟨url, some policy⟩ library 0).perform .spawnRefresh).2.run actions
    ∀ s, t.desk.stored = some s → t.desk.now < s.expiresAt := by
  have hnow : ((start ⟨url, some policy⟩ library 0).perform .spawnRefresh).2.desk.now +
      (actions.map Action.span).sum = (actions.map Action.span).sum := Nat.zero_add _
  exact (run_calm actions (started_calm hkeeps hsupplies) hkeeps hactions
    (by rw [hnow]; exact hrange)).2.tended.unexpired

/-- Whatever the callers do after the background task is started, from the first set on that is stored
some set is stored that is not expired, and nobody retrieves because of expiry. When the task gets its first
turn nothing is stored, or a set that was fetched at that instant. -/
theorem never_expires (url : Url) (policy : KeyCachePolicy) (library : Library)
    (hahead : 0 < policy.refreshAhead) (hinterval : policy.minRefreshInterval ≤ policy.refreshAhead)
    (hlife : policy.minRefreshInterval < policy.lifespan) (t₀ t₁ t : Timeline)
    (hbefore : ReflTransGen (Happens policy) (start ⟨url, some policy⟩ library 0) t₀)
    (hnew : ∀ s, t₀.desk.stored = some s → s.fetchedAt = t₀.desk.now)
    (hafter : ReflTransGen (Happens policy) (t₀.perform .spawnRefresh).2 t₁)
    (hfetched : t₁.desk.stored ≠ none) (hlater : ReflTransGen (Happens policy) t₁ t) :
    (∃ s, t.desk.stored = some s ∧ t.desk.now < s.expiresAt) ∧
      ∀ i c, t.desk.caller? i = some c → c.phase ≠ .retrieving .expiry := by
  have hkeeps : policy.KeepsUp := ⟨hahead, hinterval, hlife⟩
  have hstart := sound_start url policy library
  obtain ⟨hsound₀, hnobody⟩ := hstart.run_invariant (X := fun u => u.refreshers = []) hbefore rfl
    fun _ _ _ hv hr => hv.refreshers hr
  obtain ⟨hsound, htended⟩ := hsound₀.spawnRefresh hkeeps hnew hnobody
  have hnone₀ : t₀.desk.NoneForExpiry := hstart.run_noneForExpiry nofun hbefore
  have hnone : (t₀.perform .spawnRefresh).2.desk.NoneForExpiry := by
    rw [perform_spawnRefresh hsound₀]
    exact hnone₀
  obtain ⟨s, hs⟩ := Option.ne_none_iff_exists'.1 ((hsound.run hafter).run_stored hfetched hlater)
  have hrun := hafter.trans hlater
  have hunexpired : t.desk.now < s.expiresAt := (htended.run hsound hkeeps hrun).unexpired s hs
  exact ⟨⟨s, hs, hunexpired⟩, hsound.run_noneForExpiry hnone hrun s hs hunexpired⟩

end Timeline

namespace Sample

open Relation Timeline

def published : Library := { shelves := [(keysUrl, [.body noKeys])] }

def watched : Timeline := ((start ⟨keysUrl, some quarterHour⟩ published 0).perform .spawnRefresh).2

def beforehand : List Action := [.sleep 20000]

def afterwards : List Action :=
  [.query newKey, .concurrent 3, .sleep 1000000, .query newKey, .sleep 1700000, .query .keys]

theorem published_supplies : published.Supplies keysUrl :=
  ⟨_, rfl, List.cons_ne_nil _ _, fun d hd => ⟨[], by rw [List.mem_singleton.1 hd]; decide +kernel⟩⟩

theorem never_expires_afterwards :
    0 < quarterHour.refreshAhead ∧ quarterHour.minRefreshInterval ≤ quarterHour.refreshAhead ∧
      quarterHour.minRefreshInterval < quarterHour.lifespan ∧
      ReflTransGen (Happens quarterHour) watched (watched.run beforehand) ∧
      (watched.run beforehand).desk.stored ≠ none ∧
      ReflTransGen (Happens quarterHour) (watched.run beforehand)
        ((watched.run beforehand).run afterwards) ∧
      (∃ s, ((watched.run beforehand).run afterwards).desk.stored = some s ∧
        ((watched.run beforehand).run afterwards).desk.now < s.expiresAt) ∧
      ∀ i c, ((watched.run beforehand).run afterwards).desk.caller? i = some c →
        c.phase ≠ .retrieving .expiry := by
  have hkeeps : quarterHour.KeepsUp := ⟨by decide, by decide, by decide⟩
  obtain ⟨hafter, hcalm⟩ := run_calm beforehand (started_calm hkeeps published_supplies) hkeeps
    (by simp [beforehand, Action.IsForeground]) (by decide +kernel)
  obtain ⟨hlater, -⟩ := run_calm afterwards hcalm hkeeps
    (by simp [afterwards, Action.IsForeground, newKey]) (by decide +kernel)
  have hfetched : (watched.run beforehand).desk.stored ≠ none := by decide +kernel
  exact ⟨hkeeps.positive, hkeeps.ahead, hkeeps.life, hafter, hfetched, hlater,
    never_expires keysUrl quarterHour published hkeeps.positive hkeeps.ahead hkeeps.life _ _ _ .refl nofun
      hafter hfetched hlater⟩

end Sample
end BearerTrust

import BearerTrust.Proofs.TimelineInstant

namespace BearerTrust
namespace Timeline

open Relation KeyDesk

variable {t t' : Timeline} {policy : KeyCachePolicy} {i : Nat}

theorem Tended.run (h : t.Tended policy) (hsound : t.Sound policy) (hkeeps : policy.KeepsUp)
    (hrun : ReflTransGen (Happens policy) t t') : t'.Tended policy :=
  (hsound.run_invariant hrun h fun _ _ hu hv htended => hv.tended hu htended hkeeps).2

structure Attended (policy : KeyCachePolicy) (t : Timeline) : Prop where
  sound : t.Sound policy
  tended : t.Tended policy
  supplied : t.Supplied
  asleep : ∃ w, t.refreshers = [.asleep w]

structure Calm (policy : KeyCachePolicy) (t : Timeline) : Prop extends Attended policy t where
  rest : t.desk.AtRest

theorem Calm.quiet (h : t.Calm policy) : t.Quiet where
  idle := h.rest.isReady
  landed := h.sound.landed h.rest
  resting i := by
    obtain ⟨w, hw⟩ := h.asleep
    rw [hw]
    simp

theorem Happens.calm (hstep : Happens policy t t') (h : t.Calm policy) (hkeeps : policy.KeepsUp)
    (hsupplied : t'.Supplied) (hasleep : ∃ w, t'.refreshers = [.asleep w]) (hrest : t'.desk.AtRest) :
    t'.Calm policy where
  sound := hstep.sound h.sound
  tended := hstep.tended h.sound h.tended hkeeps
  supplied := hsupplied
  asleep := hasleep
  rest := hrest

theorem Attended.settles (h : t.Attended policy) (hkeeps : policy.KeepsUp) (hs : Settles policy t t') :
    t'.Attended policy where
  sound := h.sound.run hs.happens
  tended := h.tended.run h.sound hkeeps hs.happens
  supplied := hs.supplied h.supplied
  asleep := hs.refreshers ▸ h.asleep

theorem atRest_forget {d : KeyDesk} (h : d.AtRest) (i : Nat) : (d.forget i).AtRest :=
  fun j c hj => h j c (caller?_of_forget hj)

theorem resume_asleep {w : Instant} (h : t.Sound policy) (hr : t.refreshers = [.asleep w])
    (hw : w ≤ t.desk.now) : t.resumeRefreshers = { t with refreshers := [] }.wake.settled := by
  simp [resumeRefreshers, hr, resumeAll, resumeRefresher, h.desk.cache, hw, isAlive, h.held]

theorem resume_refreshing {a : KeyAnswer} (h : t.Sound policy) (hr : t.refreshers = [.refreshing i])
    (hi : t.desk.outcome? i = some (.answer a)) :
    t.resumeRefreshers = { t with desk := t.desk.forget i, refreshers := [] }.lieDown policy := by
  simp [resumeRefreshers, hr, resumeAll, resumeRefresher, h.desk.cache, hi, isAlive, h.held]

theorem rest_calm (hrest : t.desk.AtRest) (hsound : t.Sound policy) (htended : t.Tended policy)
    (hsupplied : t.Supplied) (hkeeps : policy.KeepsUp) (hr : t.refreshers = [.refreshing i]) :
    Happens policy t t.resumeRefreshers ∧ t.resumeRefreshers.Calm policy ∧
      t.resumeRefreshers.desk.now = t.desk.now := by
  obtain ⟨o, ho⟩ : ∃ o, t.desk.outcome? i = some o ∧ o = .answer .refreshed := by
    obtain ⟨r, hr', htask⟩ := htended
    obtain rfl := List.singleton_inj.1 (hr.symm.trans hr')
    cases htask with
    | refreshing _ p hi hp =>
      obtain ⟨o, rfl⟩ : ∃ o, p = .done o := hrest i _ hi
      exact ⟨o, outcome?_eq_some_iff.2 ⟨_, hi⟩, hp⟩
  obtain ⟨ho, rfl⟩ := ho
  have hrested : Happens policy t ({ t with desk := t.desk.forget i, refreshers := [] }.lieDown policy) :=
    .rested i hr (by rw [ho]; exact nofun)
  rw [resume_refreshing hsound hr ho]
  exact ⟨hrested, ⟨⟨hrested.sound hsound, hrested.tended hsound htended hkeeps,
    ⟨hsupplied.library, hsupplied.flights⟩, _, rfl⟩, atRest_forget hrest i⟩, rfl⟩

theorem react_calm {w : Instant} (h : t.Calm policy) (hkeeps : policy.KeepsUp)
    (hr : t.refreshers = [.asleep w]) (hw : w ≤ t.desk.now)
    (hrange : t.desk.now + policy.lifespan < Instant.limit) :
    ReflTransGen (Happens policy) t t.react ∧ t.react.Calm policy ∧ t.react.desk.now = t.desk.now := by
  have hwoken : Happens policy t { t with refreshers := [] }.wake := .woken w hr hw
  have hsound := hwoken.sound h.sound
  have hnow : { t with refreshers := [] }.wake.desk.now = t.desk.now :=
    (h.sound.desk.turn (.arrive t.nextCaller .refreshAhead)).now_eq rfl
  have hsupplied : { t with refreshers := [] }.wake.Supplied := by
    have harrive := h.supplied.arrive h.sound .refreshAhead
    exact ⟨harrive.library, harrive.flights⟩
  obtain ⟨hsettles, hrest⟩ := settled_settles hsound hsupplied (hnow ▸ hrange)
  have hsound' := hsound.run hsettles.happens
  have htended' := (hwoken.tended h.sound h.tended hkeeps).run hsound hkeeps hsettles.happens
  have hreact : t.react = { t with refreshers := [] }.wake.settled.resumeRefreshers := by
    rw [Timeline.react, settled_eq h.rest h.quiet.landed, resume_asleep h.sound hr hw,
      settled_eq hrest (hsound'.landed hrest)]
  rw [hreact]
  obtain ⟨hrested, hcalm, hnow'⟩ := rest_calm hrest hsound' htended' (hsettles.supplied hsupplied) hkeeps
    (hsettles.refreshers.trans rfl)
  refine ⟨((ReflTransGen.single hwoken).trans hsettles.happens).tail hrested, hcalm, ?_⟩
  rw [hnow', hsettles.now, hnow]

theorem Calm.nextEvent? {w : Instant} (h : t.Calm policy) (hr : t.refreshers = [.asleep w]) :
    t.nextEvent? = some w := by
  rw [Timeline.nextEvent?, h.quiet.landed, hr]
  rfl

theorem moveTo_calm {w : Instant} (instant : Instant) (h : t.Calm policy) (hkeeps : policy.KeepsUp)
    (hr : t.refreshers = [.asleep w]) (hw : instant ≤ w) :
    Happens policy t (t.moveTo instant) ∧ (t.moveTo instant).Calm policy := by
  have hpassed : Happens policy t (t.moveTo instant) := by
    refine .passed instant h.quiet fun e he => ?_
    obtain rfl : w = e := Option.some.inj ((h.nextEvent? hr).symm.trans he)
    exact hw
  exact ⟨hpassed, hpassed.calm h hkeeps ⟨h.supplied.library, h.supplied.flights⟩ h.asleep h.rest⟩

theorem passTo_calm {instant : Instant} (h : t.Calm policy) (hkeeps : policy.KeepsUp)
    (hnow : t.desk.now ≤ instant) (hrange : instant + policy.lifespan < Instant.limit) (fuel : Nat) :
    ReflTransGen (Happens policy) t (t.passTo instant fuel) ∧ (t.passTo instant fuel).Calm policy ∧
      (t.passTo instant fuel).desk.now ≤ instant := by
  induction fuel generalizing t with
  | zero => exact ⟨.refl, h, hnow⟩
  | succ fuel ih =>
    obtain ⟨w, hr⟩ := h.asleep
    rw [passTo, h.nextEvent? hr]
    dsimp only
    split
    · next hw =>
      obtain ⟨hpassed, hcalm⟩ := moveTo_calm w h hkeeps hr (Nat.le_refl w)
      have hbounds : w ≤ (t.moveTo w).desk.now ∧ (t.moveTo w).desk.now ≤ instant := by
        rw [moveTo_now]
        exact ⟨Nat.le_max_right _ _, Nat.max_le.2 ⟨hnow, Nat.le_of_lt hw⟩⟩
      obtain ⟨hreact, hcalm', hnow'⟩ := react_calm hcalm hkeeps hr hbounds.1
        (Nat.lt_of_le_of_lt (Nat.add_le_add_right hbounds.2 _) hrange)
      obtain ⟨hrun, hrest⟩ := ih hcalm' (hnow' ▸ hbounds.2)
      exact ⟨(ReflTransGen.head hpassed hreact).trans hrun, hrest⟩
    · next hw =>
      obtain ⟨hpassed, hcalm⟩ := moveTo_calm instant h hkeeps hr (Nat.not_lt.1 hw)
      refine ⟨.single hpassed, hcalm, ?_⟩
      rw [moveTo_now]
      exact Nat.max_le.2 ⟨hnow, Nat.le_refl instant⟩

theorem isSome_outcome? {d : KeyDesk} (hrest : d.AtRest) (hi : d.caller? i ≠ none) :
    (d.outcome? i).isSome = true := by
  obtain ⟨⟨q, p⟩, hc⟩ := Option.ne_none_iff_exists'.1 hi
  obtain ⟨o, rfl⟩ : ∃ o, p = .done o := hrest i _ hc
  rw [outcome?_eq_some_iff.2 ⟨q, hc⟩]
  rfl

theorem Calm.leave (h : t.Calm policy) (hkeeps : policy.KeepsUp) (is : List Nat) :
    ReflTransGen (Happens policy) t { t with desk := is.foldl KeyDesk.forget t.desk } ∧
      { t with desk := is.foldl KeyDesk.forget t.desk }.Calm policy := by
  induction is generalizing t with
  | nil => exact ⟨.refl, h⟩
  | cons i is ih =>
    by_cases hi : t.desk.caller? i = none
    · have hsame : t.desk.forget i = t.desk := by
        rw [KeyDesk.forget, Table.erase_of_get?_eq_none hi]
      rw [List.foldl_cons, hsame]
      exact ih h
    · have hleft : Happens policy t { t with desk := t.desk.forget i } :=
        .left i (Option.isSome_iff_ne_none.1 (isSome_outcome? h.rest hi)) (h.quiet.resting i)
      obtain ⟨hrun, hcalm⟩ := ih (t := { t with desk := t.desk.forget i }) <|
        hleft.calm h hkeeps ⟨h.supplied.library, h.supplied.flights⟩ h.asleep (atRest_forget h.rest i)
      exact ⟨.head hleft hrun, hcalm⟩

theorem now_forget (is : List Nat) (d : KeyDesk) : (is.foldl KeyDesk.forget d).now = d.now := by
  induction is generalizing d with
  | nil => rfl
  | cons i is ih => exact ih (d.forget i)

theorem collect_calm {is : List Nat} (h : t.Attended policy) (hkeeps : policy.KeepsUp)
    (hrange : t.desk.now + policy.lifespan < Instant.limit)
    (hcome : ∀ i ∈ is, t.desk.caller? i ≠ none) :
    ReflTransGen (Happens policy) t (t.collect is).2 ∧ (t.collect is).2.Calm policy ∧
      (t.collect is).2.desk.now = t.desk.now := by
  obtain ⟨hsettles, hrest⟩ := settled_settles h.sound h.supplied hrange
  obtain ⟨fuel, hfuel⟩ : ∃ n, t.fuelFor (t.delay * (2 * is.length + 2)) = n + 1 :=
    Nat.exists_eq_succ_of_ne_zero (by simp [fuelFor])
  have hreplied : (is.all fun i => (t.settled.desk.outcome? i).isSome) = true :=
    List.all_eq_true.2 fun i hi => isSome_outcome? hrest (hsettles.stays i (hcome i hi))
  have hawait : t.await is (t.fuelFor (t.delay * (2 * is.length + 2))) = t.settled := by
    rw [hfuel, await, if_pos hreplied]
  have hcalm : t.settled.Calm policy := ⟨h.settles hkeeps hsettles, hrest⟩
  obtain ⟨hleave, hcalm'⟩ := hcalm.leave hkeeps is
  simp only [collect, hawait]
  exact ⟨hsettles.happens.trans hleave, hcalm', (now_forget is _).trans hsettles.now⟩

/-- What others than the background task do with a source whose issuer publishes key sets. -/
def Action.IsForeground (url : Url) : Action → Prop
  | .query q => q ≠ .refreshAhead
  | .concurrent _ | .sleep _ => True
  | .push d => ∃ ks, KeySource.readAnswer (d.answer url) = .ok ks
  | .spawnRefresh | .drop => False

def Action.span : Action → Span
  | .sleep span => span
  | .query _ | .concurrent _ | .spawnRefresh | .push _ | .drop => 0

theorem perform_query (hheld : t.isHeld = true) (q : KeyQuery) :
    (t.perform (.query q)).2 = ((t.arrive q).2.collect [(t.arrive q).1]).2 := by
  rw [perform, if_pos hheld]
  dsimp only
  split
  · next h => rw [h]
  · next h => rw [h]

theorem perform_concurrent (hheld : t.isHeld = true) (n : Nat) : (t.perform (.concurrent n)).2 =
    ((arriveAll .keys t n).2.collect (arriveAll .keys t n).1).2 := by
  rw [perform, if_pos hheld]

theorem perform_calm {a : Action} (h : t.Calm policy) (hkeeps : policy.KeepsUp)
    (ha : a.IsForeground t.desk.source.jwksUrl)
    (hrange : t.desk.now + a.span + policy.lifespan < Instant.limit) :
    ReflTransGen (Happens policy) t (t.perform a).2 ∧ (t.perform a).2.Calm policy ∧
      (t.perform a).2.desk.now ≤ t.desk.now + a.span := by
  have hsame {t₁ : Timeline} {is : List Nat} (hspan : a.span = 0) (hs : Settles policy t t₁)
      (hcome : ∀ i ∈ is, t₁.desk.caller? i ≠ none) :
      ReflTransGen (Happens policy) t (t₁.collect is).2 ∧ (t₁.collect is).2.Calm policy ∧
        (t₁.collect is).2.desk.now ≤ t.desk.now + a.span := by
    rw [hspan] at hrange
    obtain ⟨hrun, hcalm, hnow⟩ := collect_calm (h.toAttended.settles hkeeps hs) hkeeps
      (hs.now ▸ hrange) hcome
    refine ⟨hs.happens.trans hrun, hcalm, ?_⟩
    rw [hnow, hs.now]
    exact Nat.le_add_right _ _
  cases a with
  | spawnRefresh | drop => cases ha
  | sleep span => exact passTo_calm h hkeeps (Nat.le_add_right _ _) hrange _
  | push d =>
    obtain ⟨ks, hks⟩ := ha
    have hpublished : Happens policy t (t.perform (.push d)).2 := .published _
    have hsupplied : (t.perform (.push d)).2.Supplied :=
      ⟨h.supplied.library.add hks, h.supplied.flights⟩
    exact ⟨.single hpublished, hpublished.calm h hkeeps hsupplied h.asleep h.rest, Nat.le_refl _⟩
  | query q =>
    rw [perform_query h.sound.held]
    refine hsame rfl (settles_arrive h.sound ha) fun i hi => ?_
    rw [List.mem_singleton.1 hi]
    exact caller?_arrive h.sound q
  | concurrent n =>
    rw [perform_concurrent h.sound.held]
    obtain ⟨hsettles, hcome⟩ := settles_arriveAll (q := .keys) h.sound nofun n
    exact hsame rfl hsettles hcome

def run (t : Timeline) (actions : List Action) : Timeline :=
  actions.foldl (fun t a => (t.perform a).2) t

/-- All that a run does is what can happen, and it ends at a quiet time. -/
theorem run_calm (actions : List Action) (h : t.Calm policy) (hkeeps : policy.KeepsUp)
    (hactions : ∀ a ∈ actions, a.IsForeground t.desk.source.jwksUrl)
    (hrange : t.desk.now + (actions.map Action.span).sum + policy.lifespan < Instant.limit) :
    ReflTransGen (Happens policy) t (t.run actions) ∧ (t.run actions).Calm policy := by
  induction actions generalizing t with
  | nil => exact ⟨.refl, h⟩
  | cons a actions ih =>
    have hnat (n s e l m : Nat) (h : n + (s + e) + l < m) : n + s + l < m ∧ n + s + e + l < m := by omega
    rw [List.map_cons, List.sum_cons] at hrange
    obtain ⟨hfirst, hrest⟩ := hnat _ _ _ _ _ hrange
    obtain ⟨hrun, hcalm, hnow⟩ := perform_calm h hkeeps (hactions a List.mem_cons_self) hfirst
    have hsource : (t.perform a).2.desk.source = t.desk.source := h.sound.run_source hrun
    obtain ⟨hrun', hcalm'⟩ := ih hcalm
      (fun b hb => by rw [hsource]; exact hactions b (List.mem_cons_of_mem a hb))
      (Nat.lt_of_le_of_lt (Nat.add_le_add_right (Nat.add_le_add_right hnow _) _) hrest)
    exact ⟨hrun.trans hrun', hcalm'⟩

theorem started_calm {url : Url} {library : Library} (hkeeps : policy.KeepsUp)
    (h : library.Supplies url) :
    ((start ⟨url, some policy⟩ library 0).perform .spawnRefresh).2.Calm policy where
  sound := ((sound_start url policy library).spawnRefresh hkeeps nofun rfl).1
  tended := ((sound_start url policy library).spawnRefresh hkeeps nofun rfl).2
  supplied := ⟨h, fun _ hf => absurd hf List.not_mem_nil⟩
  asleep := ⟨_, rfl⟩
  rest i c hi := absurd hi (caller?_opened url policy 0 i c)

end Timeline
end BearerTrust

import Mathlib.Logic.Relation
import BearerTrust.KeySource.Timeline
import BearerTrust.Proofs.DeskHistory
import BearerTrust.Proofs.DeskProgress

namespace BearerTrust
namespace KeyDesk

variable {d d' : KeyDesk} {policy : KeyCachePolicy} {i j : Nat} {c : KeyCaller} {q : KeyQuery}
  {p : KeyPhase} {why : RefreshReason} {m : KeyMove} {o : KeyOutcome}

theorem caller?_forget (i j : Nat) : (d.forget i).caller? j = if j = i then none else d.caller? j := by
  unfold caller? forget
  split
  · next h => rw [h, Table.get?_erase_self]
  · next h => rw [Table.get?_erase_of_ne h]

theorem caller?_of_forget (h : (d.forget i).caller? j = some c) : d.caller? j = some c := by
  rw [caller?_forget] at h
  split at h
  · cases h
  · exact h

theorem InOrder.forget (h : d.InOrder) (hi : d.caller? i = some ⟨q, .done o⟩) : (d.forget i).InOrder where
  nodup := h.nodup
  mem_iff j := by
    refine (h.mem_iff j).trans ⟨?_, ?_⟩
    · rintro ⟨c, hj, hc⟩
      have hji : j ≠ i := by
        rintro rfl
        cases hi.symm.trans hj
        exact hc
      exact ⟨c, by rw [caller?_forget, if_neg hji, hj], hc⟩
    · rintro ⟨c, hj, hc⟩
      exact ⟨c, caller?_of_forget hj, hc⟩
  first j c hj hc := h.first j c (caller?_of_forget hj) hc

theorem Timely.forget (h : d.Timely policy) (i : Nat) : (d.forget i).Timely policy :=
  ⟨h.stored, fun j c hj => h.storing j c (caller?_of_forget hj)⟩

def JustFetched (d : KeyDesk) : Prop :=
  ∀ i c, d.caller? i = some c → ∀ why s, c.phase = .storing why s → s.fetchedAt = d.now

theorem Turn.justFetched (h : d.JustFetched) (ht : Turn policy d m d') (hm : m.caller? = some i) :
    d'.JustFetched := by
  unfold JustFetched
  rw [ht.now_eq hm]
  refine ht.forall hm h (fun _ _ _ _ => nofun) fun q p p' _ hnext why s hs => ?_
  cases hnext with
  | find | reuse | store => exact absurd hs (phaseAfter_ne_storing _ _ _ _ _)
  | join | enter | start | fail => cases hs
  | bring =>
    cases hs
    rfl

theorem Updates.isRetrieving_iff (hu : Updates d i c d') : d'.isRetrieving j = true ↔
    if j = i then ∃ why, c.phase = .retrieving why else d.isRetrieving j = true := by
  rw [KeyDesk.isRetrieving_iff, hu j]
  split
  · simp only [Option.some.injEq]
    refine ⟨?_, fun ⟨why, hwhy⟩ => ⟨c.query, why, by rw [← hwhy]⟩⟩
    rintro ⟨q, why, rfl⟩
    exact ⟨why, rfl⟩
  · exact KeyDesk.isRetrieving_iff.symm

theorem Turn.begins (ht : Turn policy d (.step i) d') :
    (d'.begun = d.begun ∧ ∀ j, d'.isRetrieving j = true ↔ d.isRetrieving j = true) ∨
      d'.begun ≠ d.begun ∧ ∀ j, d'.isRetrieving j = true ↔ d.isRetrieving j = true ∨ j = i := by
  cases hi : d.caller? i with
  | none =>
    rcases ht.come hi rfl with rfl | ⟨q, hq, -⟩
    · exact .inl ⟨rfl, fun _ => Iff.rfl⟩
    · cases hq
  | some c =>
    obtain ⟨q, p⟩ := c
    rcases ht.next hi rfl with ⟨-, rfl⟩ | ⟨p', hnext, hu, hbegun, -⟩
    · exact .inl ⟨rfl, fun _ => Iff.rfl⟩
    · have hsame (hp : ∀ why, p ≠ .retrieving why) (hp' : p'.underway = 0) :
          d'.begun = d.begun ∧ ∀ j, d'.isRetrieving j = true ↔ d.isRetrieving j = true := by
        refine ⟨by rw [hbegun, hp', Nat.add_zero], fun j => ?_⟩
        rw [hu.isRetrieving_iff]
        split
        · next hji =>
          rw [hji]
          refine iff_of_false ?_ (Bool.eq_false_iff.1 (isRetrieving_eq_false hi hp))
          rintro ⟨why, rfl⟩
          cases hp'
        · exact Iff.rfl
      cases hnext with
      | fail _ _ _ _ hm | bring _ _ _ _ hm => cases hm
      | join | enter => exact .inl (hsame (fun _ => nofun) rfl)
      | find | reuse | store => exact .inl (hsame (fun _ => nofun) (underway_phaseAfter _ _ _))
      | start why =>
        refine .inr ⟨by rw [hbegun]; exact Nat.succ_ne_self _, fun j => ?_⟩
        rw [hu.isRetrieving_iff]
        by_cases hji : j = i
        · simp [hji]
        · simp [hji]

theorem Turn.lands {a : Except RetrievalError Bytes} (ht : Turn policy d (.answer i a) d') (j : Nat) :
    d'.isRetrieving j = true ↔ j ≠ i ∧ d.isRetrieving j = true := by
  have hended {c : KeyCaller} (hu : Updates d i c d') (hc : ∀ why, c.phase ≠ .retrieving why) :
      d'.isRetrieving j = true ↔ j ≠ i ∧ d.isRetrieving j = true := by
    rw [hu.isRetrieving_iff]
    by_cases hji : j = i
    · simp [hji, hc]
    · simp [hji]
  cases ht with
  | idle _ hignores =>
    have hidle : d.isRetrieving i = false := hignores
    by_cases hji : j = i
    · simp [hji, hidle]
    · simp [hji]
  | failed => exact hended updates_leave (fun _ => nofun)
  | retrieved => exact hended updates_setPhase (fun _ => nofun)

theorem Turn.arrives (ht : Turn policy d (.arrive i q) d') (j : Nat) :
    d'.isRetrieving j = true ↔ d.isRetrieving j = true := by
  cases ht with
  | idle => exact Iff.rfl
  | arrived _ _ hi =>
    rw [(updates_put i _ d).isRetrieving_iff]
    split
    · next hji =>
      rw [hji, KeyDesk.isRetrieving_iff]
      simp [hi]
    · exact Iff.rfl

theorem isRetrieving_forget (hi : d.caller? i = some ⟨q, .done o⟩) (j : Nat) :
    (d.forget i).isRetrieving j = true ↔ d.isRetrieving j = true := by
  simp only [KeyDesk.isRetrieving_iff, caller?_forget]
  split
  · next hji => simp [hji, hi]
  · exact Iff.rfl

structure Sound (policy : KeyCachePolicy) (d : KeyDesk) : Prop where
  cache : d.source.cache = some policy
  order : d.InOrder
  timely : d.Timely policy
  fetched : d.JustFetched

theorem Sound.turn (h : d.Sound policy) (m : KeyMove) : Turn policy d m (d.apply m) :=
  turn_apply h.cache m

theorem Sound.apply (h : d.Sound policy) (m : KeyMove) (hm : m.caller? = some i) :
    (d.apply m).Sound policy where
  cache := by rw [(h.turn m).source, h.cache]
  order := (h.turn m).inOrder h.order
  timely := (h.turn m).timely h.timely h.order
  fetched := (h.turn m).justFetched h.fetched hm

theorem Sound.forget (h : d.Sound policy) (hi : d.caller? i = some ⟨q, .done o⟩) :
    (d.forget i).Sound policy where
  cache := h.cache
  order := h.order.forget hi
  timely := h.timely.forget i
  fetched j c hj := h.fetched j c (caller?_of_forget hj)

theorem Sound.pass (h : d.Sound policy) (hidle : ∀ i, d.isReady i = false) (span : Span) :
    (d.apply (.pass span)).Sound policy where
  cache := h.cache
  order := (h.turn (.pass span)).inOrder h.order
  timely := (h.turn (.pass span)).timely h.timely h.order
  fetched i c hi why s hs := by
    obtain ⟨q, p⟩ := c
    cases hs
    have hready : d.isReady i = true := isReady_of_storing hi
    rw [hidle i] at hready
    cases hready

end KeyDesk

namespace Timeline

variable {t t' : Timeline} {policy : KeyCachePolicy} {i : Nat}

/-- At this instant nobody has anything left to do. -/
structure Quiet (t : Timeline) : Prop where
  idle : ∀ i, t.desk.isReady i = false
  landed : t.flights = []
  resting : ∀ i, .refreshing i ∉ t.refreshers

/-- What can happen next, if retrievals succeed and take no time. Callers of the key set or of a key come
when they like, and go on in any order; what the issuer publishes may change. -/
inductive Happens (policy : KeyCachePolicy) (t : Timeline) : Timeline → Prop
  | arrived (q : KeyQuery) (hq : q ≠ .refreshAhead) : Happens policy t (t.arrive q).2
  | stepped (i : Nat) : Happens policy t (t.step i)
  | landed (f : Flight) (hf : f ∈ t.flights)
      (hok : ∀ o, ¬KeyDesk.Fails policy t.desk.now f.answer o) : Happens policy t (t.land f)
  | left (i : Nat) (hi : t.desk.outcome? i ≠ none) (hr : .refreshing i ∉ t.refreshers) :
      Happens policy t { t with desk := t.desk.forget i }
  | published (library : Library) : Happens policy t { t with library }
  | woken (w : Instant) (hr : t.refreshers = [.asleep w]) (hw : w ≤ t.desk.now) :
      Happens policy t { t with refreshers := [] }.wake
  | rested (i : Nat) (hr : t.refreshers = [.refreshing i]) (hi : t.desk.outcome? i ≠ none) :
      Happens policy t ({ t with desk := t.desk.forget i, refreshers := [] }.lieDown policy)
  | passed (instant : Instant) (hquiet : t.Quiet) (he : ∀ e, t.nextEvent? = some e → instant ≤ e) :
      Happens policy t (t.moveTo instant)

/-- What holds of a source at work, whatever its callers do. -/
structure Sound (policy : KeyCachePolicy) (t : Timeline) : Prop where
  desk : t.desk.Sound policy
  known : ∀ i c, t.desk.caller? i = some c → i < t.nextCaller
  flights : ∀ i, t.desk.isRetrieving i = true ↔ i ∈ t.flights.map Flight.caller
  due : ∀ f ∈ t.flights, f.due ≤ t.desk.now
  delay : t.delay = 0
  held : t.isHeld = true

theorem Sound.arrive (h : t.Sound policy) (q : KeyQuery) : (t.arrive q).2.Sound policy where
  desk := h.desk.apply (.arrive t.nextCaller q) rfl
  known := (h.desk.turn (.arrive t.nextCaller q)).forall rfl
    (fun i c hi => Nat.lt_succ_of_lt (h.known i c hi)) (fun _ _ => Nat.lt_succ_self _)
    (fun _ _ _ hi _ => Nat.lt_succ_of_lt (h.known _ _ hi))
  flights i := ((h.desk.turn (.arrive t.nextCaller q)).arrives i).trans (h.flights i)
  due f hf := by
    change f.due ≤ (t.desk.apply (.arrive t.nextCaller q)).now
    rw [(h.desk.turn (.arrive t.nextCaller q)).now_eq rfl]
    exact h.due f hf
  delay := h.delay
  held := h.held

theorem Sound.step (h : t.Sound policy) (i : Nat) : (t.step i).Sound policy := by
  have ht := h.desk.turn (.step i)
  have hknown : ∀ j c, (t.desk.apply (.step i)).caller? j = some c → j < t.nextCaller :=
    ht.forall rfl h.known (fun _ => nofun) (fun _ _ _ hi _ => h.known _ _ hi)
  have hnow : (t.desk.apply (.step i)).now = t.desk.now := ht.now_eq rfl
  unfold Timeline.step
  dsimp only
  split
  · next hsame =>
    refine ⟨h.desk.apply (.step i) rfl, hknown, fun j => ?_, fun f hf => ?_, h.delay, h.held⟩
    · rcases ht.begins with ⟨-, hr⟩ | ⟨hne, -⟩
      · exact (hr j).trans (h.flights j)
      · exact absurd hsame hne
    · rw [hnow]
      exact h.due f hf
  · next hne =>
    refine ⟨h.desk.apply (.step i) rfl, hknown, fun j => ?_, fun f hf => ?_, h.delay, h.held⟩
    · rcases ht.begins with ⟨hsame, -⟩ | ⟨-, hr⟩
      · exact absurd hsame hne
      · rw [hr j, h.flights j, List.map_append, List.mem_append]
        exact or_congr_right List.mem_singleton.symm
    · rw [hnow]
      rcases List.mem_append.1 hf with hf | hf
      · exact h.due f hf
      · rw [List.mem_singleton.1 hf, hnow, h.delay]
        exact Nat.le_refl _

theorem Sound.land (h : t.Sound policy) (f : Flight) : (t.land f).Sound policy := by
  have ht := h.desk.turn (.answer f.caller f.answer)
  have hnow : (t.desk.apply (.answer f.caller f.answer)).now = t.desk.now := ht.now_eq rfl
  refine ⟨h.desk.apply (.answer f.caller f.answer) rfl,
    ht.forall rfl h.known (fun _ => nofun) (fun _ _ _ hi _ => h.known _ _ hi), fun i => ?_,
    fun g hg => ?_, h.delay, h.held⟩
  · change (t.desk.apply _).isRetrieving i = true ↔ i ∈ (t.flights.filter (·.caller ≠ f.caller)).map _
    rw [ht.lands i, h.flights i]
    simp only [List.mem_map, List.mem_filter, decide_eq_true_eq]
    constructor
    · rintro ⟨hi, g, hg, rfl⟩
      exact ⟨g, ⟨hg, hi⟩, rfl⟩
    · rintro ⟨g, ⟨hg, hi⟩, rfl⟩
      exact ⟨hi, g, hg, rfl⟩
  · change g.due ≤ (t.desk.apply _).now
    rw [hnow]
    exact h.due g (List.mem_of_mem_filter hg)

theorem moveTo_now (t : Timeline) (instant : Instant) :
    (t.moveTo instant).desk.now = max t.desk.now instant := by
  change t.desk.now + (instant - t.desk.now) = max t.desk.now instant
  rw [Nat.add_comm, Nat.sub_add_eq_max, Nat.max_comm]

theorem Sound.forget (h : t.Sound policy) (hi : t.desk.outcome? i ≠ none) :
    { t with desk := t.desk.forget i }.Sound policy := by
  obtain ⟨o, ho⟩ := Option.ne_none_iff_exists'.1 hi
  obtain ⟨q, hi⟩ := KeyDesk.outcome?_eq_some_iff.1 ho
  exact ⟨h.desk.forget hi, fun j c hj => h.known j c (KeyDesk.caller?_of_forget hj),
    fun j => (KeyDesk.isRetrieving_forget hi j).trans (h.flights j), h.due, h.delay, h.held⟩

theorem Happens.sound (h : t.Sound policy) (ht : t.Happens policy t') : t'.Sound policy := by
  cases ht with
  | arrived q => exact h.arrive q
  | stepped i => exact h.step i
  | landed f => exact h.land f
  | left i hi => exact h.forget hi
  | published => exact ⟨h.desk, h.known, h.flights, h.due, h.delay, h.held⟩
  | woken =>
    have h' := h.arrive .refreshAhead
    exact ⟨h'.desk, h'.known, h'.flights, h'.due, h'.delay, h'.held⟩
  | rested i _ hi =>
    have h' := h.forget hi
    exact ⟨h'.desk, h'.known, h'.flights, h'.due, h'.delay, h'.held⟩
  | passed instant hquiet =>
    refine ⟨h.desk.pass hquiet.idle _, h.known, h.flights, fun f hf => ?_, h.delay, h.held⟩
    have hf' : f ∈ t.flights := hf
    rw [hquiet.landed] at hf'
    cases hf'

theorem step_desk (t : Timeline) (i : Nat) : (t.step i).desk = t.desk.apply (.step i) := by
  unfold Timeline.step
  dsimp only
  split <;> rfl

theorem step_refreshers (t : Timeline) (i : Nat) : (t.step i).refreshers = t.refreshers := by
  unfold Timeline.step
  dsimp only
  split <;> rfl

theorem Happens.desk (h : Happens policy t t') :
    (∃ m, t'.desk = t.desk.apply m) ∨ ∃ i, t'.desk = t.desk.forget i := by
  cases h with
  | arrived q => exact .inl ⟨.arrive t.nextCaller q, rfl⟩
  | stepped i => exact .inl ⟨.step i, step_desk t i⟩
  | landed f => exact .inl ⟨.answer f.caller f.answer, rfl⟩
  | woken => exact .inl ⟨.arrive t.nextCaller .refreshAhead, rfl⟩
  | passed instant => exact .inl ⟨.pass (instant - t.desk.now), rfl⟩
  | published => exact .inl ⟨.pass 0, rfl⟩
  | left i | rested i => exact .inr ⟨i, rfl⟩

theorem Happens.source (h : Happens policy t t') (hsound : t.Sound policy) :
    t'.desk.source = t.desk.source := by
  rcases h.desk with ⟨m, hm⟩ | ⟨i, hi⟩
  · rw [hm, (hsound.desk.turn m).source]
  · rw [hi]
    rfl

theorem Sound.run_invariant {X : Timeline → Prop} (h : t.Sound policy)
    (hrun : Relation.ReflTransGen (Happens policy) t t') (hX : X t)
    (hstep : ∀ u v, u.Sound policy → Happens policy u v → X u → X v) : t'.Sound policy ∧ X t' := by
  induction hrun with
  | refl => exact ⟨h, hX⟩
  | tail _ hlast ih => exact ⟨hlast.sound ih.1, hstep _ _ ih.1 hlast ih.2⟩

theorem Sound.run (h : t.Sound policy) (hrun : Relation.ReflTransGen (Happens policy) t t') :
    t'.Sound policy :=
  (h.run_invariant (X := fun _ => True) hrun trivial fun _ _ _ _ _ => trivial).1

theorem Sound.run_source (h : t.Sound policy) (hrun : Relation.ReflTransGen (Happens policy) t t') :
    t'.desk.source = t.desk.source :=
  (h.run_invariant (X := fun u => u.desk.source = t.desk.source) hrun rfl
    fun _ _ hu hv hsource => (hv.source hu).trans hsource).2

theorem sound_start (url : Url) (policy : KeyCachePolicy) (library : Library) :
    (start ⟨url, some policy⟩ library 0).Sound policy where
  desk := {
    cache := rfl
    order := KeyDesk.run_inOrder url policy 0 []
    timely := KeyDesk.run_timely url policy 0 []
    fetched := fun i c hi => absurd hi (KeyDesk.caller?_opened url policy 0 i c) }
  known i c hi := absurd hi (KeyDesk.caller?_opened url policy 0 i c)
  flights i := by
    refine iff_of_false ?_ List.not_mem_nil
    rw [KeyDesk.isRetrieving_iff]
    rintro ⟨q, why, hi⟩
    exact KeyDesk.caller?_opened url policy 0 i _ hi
  due _ hf := absurd hf List.not_mem_nil
  delay := rfl
  held := rfl

end Timeline
end BearerTrust

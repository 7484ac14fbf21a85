import BearerTrust.Proofs.BackgroundTask

namespace BearerTrust

namespace Library

variable {url : Url} {l : Library} {ds : List Document} {shelves : List (Url × List Document)}

def AreSets (url : Url) (ds : List Document) : Prop :=
  ds ≠ [] ∧ ∀ d ∈ ds, ∃ ks, KeySource.readAnswer (d.answer url) = .ok ks

/-- The answers for a place are key sets, and do not run out. -/
def Supplies (l : Library) (url : Url) : Prop := ∃ ds, Table.get? url l.shelves = some ds ∧ AreSets url ds

theorem takeNext_sets (h : AreSets url ds) :
    (∃ ks, KeySource.readAnswer (takeNext url ds).1 = .ok ks) ∧ AreSets url (takeNext url ds).2 := by
  obtain ⟨hne, hsets⟩ := h
  match ds with
  | [] => exact absurd rfl hne
  | [d] => exact ⟨hsets d (List.mem_singleton_self d), hne, hsets⟩
  | d :: e :: ds =>
    exact ⟨hsets d List.mem_cons_self, List.cons_ne_nil _ _,
      fun b hb => hsets b (List.mem_cons_of_mem d hb)⟩

theorem takeFrom_sets (h : Table.get? url shelves = some ds) (hsets : AreSets url ds) :
    (∃ ks, KeySource.readAnswer (takeFrom url shelves).1 = .ok ks) ∧
      ∃ ds', Table.get? url (takeFrom url shelves).2 = some ds' ∧ AreSets url ds' := by
  induction shelves with
  | nil => cases h
  | cons shelf shelves ih =>
    obtain ⟨u, es⟩ := shelf
    rw [Table.get?_cons] at h
    unfold takeFrom
    split at h
    · next hu =>
      cases h
      obtain ⟨hanswer, hrest⟩ := takeNext_sets hsets
      rw [if_pos hu]
      exact ⟨hanswer, _, by rw [Table.get?_cons, if_pos hu], hrest⟩
    · next hu =>
      obtain ⟨hanswer, ds', hds', hrest⟩ := ih h
      rw [if_neg hu]
      exact ⟨hanswer, ds', by rw [Table.get?_cons, if_neg hu, hds'], hrest⟩

theorem Supplies.retrieve (h : l.Supplies url) :
    (∃ ks, KeySource.readAnswer (l.retrieve url).1 = .ok ks) ∧ (l.retrieve url).2.Supplies url := by
  obtain ⟨ds, hds, hsets⟩ := h
  exact takeFrom_sets hds hsets

theorem Supplies.add {d : Document} {ks : KeySet} (h : l.Supplies url)
    (hd : KeySource.readAnswer (d.answer url) = .ok ks) : (l.add url d).Supplies url := by
  obtain ⟨ds, hds, hne, hsets⟩ := h
  refine ⟨ds ++ [d], ?_, List.append_ne_nil_of_left_ne_nil hne _, fun b hb => ?_⟩
  · obtain ⟨shelves, asked⟩ := l
    change Table.get? url (shelve url d shelves) = _
    induction shelves with
    | nil => cases hds
    | cons shelf shelves ih =>
      obtain ⟨u, es⟩ := shelf
      rw [Table.get?_cons] at hds
      unfold shelve
      split at hds
      · next hu =>
        cases hds
        rw [if_pos hu, Table.get?_cons, if_pos hu]
      · next hu =>
        rw [if_neg hu, Table.get?_cons, if_neg hu]
        exact ih hds
  · rcases List.mem_append.1 hb with hb | hb
    · exact hsets b hb
    · rw [List.mem_singleton.1 hb]
      exact ⟨ks, hd⟩

end Library

namespace KeyDesk

variable {d d' : KeyDesk} {policy : KeyCachePolicy} {i j : Nat} {m : KeyMove}

theorem Turn.stays (ht : Turn policy d m d') (hj : d.caller? j ≠ none) : d'.caller? j ≠ none := by
  by_cases hm : m.caller? = some j
  · obtain ⟨⟨q, p⟩, hc⟩ := Option.ne_none_iff_exists'.1 hj
    rcases ht.next hc hm with ⟨-, rfl⟩ | ⟨p', h⟩
    · exact hj
    · rw [h.updates.self]
      exact nofun
  · rwa [ht.other hm]

theorem remaining_le (d : KeyDesk) (i : Nat) : d.remaining i ≤ 9 := by
  have hwhy (why : RefreshReason) : why.movesAfter ≤ 4 := by cases why <;> decide
  unfold remaining
  split
  · next c _ =>
    cases c.phase with
    | reading => exact Nat.le_refl 9
    | done => exact Nat.zero_le 9
    | waiting why | checking why | retrieving why | storing why =>
      have h := hwhy why
      simp only [KeyPhase.remaining]
      omega
  · exact Nat.zero_le 9

theorem sum_remaining_le (d : KeyDesk) (is : List Nat) : (is.map d.remaining).sum ≤ 9 * is.length := by
  induction is with
  | nil => exact Nat.le_refl 0
  | cons i is ih =>
    have h := d.remaining_le i
    simp only [List.map_cons, List.sum_cons, List.length_cons]
    omega

theorem done_of_remaining {c : KeyCaller} (hi : d.caller? i = some c) (h : d.remaining i = 0) :
    ∃ o, c.phase = .done o := by
  obtain ⟨q, p⟩ := c
  rw [remaining_eq hi] at h
  cases p with
  | done o => exact ⟨o, rfl⟩
  | reading | waiting | checking | retrieving | storing => cases h

end KeyDesk

namespace Timeline

open Relation KeyDesk

variable {t t' t'' : Timeline} {policy : KeyCachePolicy} {i : Nat}

structure Supplied (t : Timeline) : Prop where
  library : t.library.Supplies t.desk.source.jwksUrl
  flights : ∀ f ∈ t.flights, ∃ ks, KeySource.readAnswer f.answer = .ok ks

structure Settles (policy : KeyCachePolicy) (t t' : Timeline) : Prop where
  happens : ReflTransGen (Happens policy) t t'
  supplied : t.Supplied → t'.Supplied
  now : t'.desk.now = t.desk.now
  refreshers : t'.refreshers = t.refreshers
  stays : ∀ i, t.desk.caller? i ≠ none → t'.desk.caller? i ≠ none

theorem Settles.refl (t : Timeline) : Settles policy t t :=
  ⟨.refl, fun h => h, rfl, rfl, fun _ h => h⟩

theorem Settles.trans (h : Settles policy t t') (h' : Settles policy t' t'') : Settles policy t t'' where
  happens := h.happens.trans h'.happens
  supplied hs := h'.supplied (h.supplied hs)
  now := h'.now.trans h.now
  refreshers := h'.refreshers.trans h.refreshers
  stays i hi := h'.stays i (h.stays i hi)

theorem Supplied.arrive (h : t.Supplied) (hsound : t.Sound policy) (q : KeyQuery) :
    (t.arrive q).2.Supplied := by
  refine ⟨?_, h.flights⟩
  change t.library.Supplies (t.desk.apply (.arrive t.nextCaller q)).source.jwksUrl
  rw [(hsound.desk.turn (.arrive t.nextCaller q)).source]
  exact h.library

theorem settles_arrive {q : KeyQuery} (h : t.Sound policy) (hq : q ≠ .refreshAhead) :
    Settles policy t (t.arrive q).2 where
  happens := .single (.arrived q hq)
  supplied hs := hs.arrive h q
  now := (h.desk.turn (.arrive t.nextCaller q)).now_eq rfl
  refreshers := rfl
  stays _ hi := (h.desk.turn (.arrive t.nextCaller q)).stays hi

theorem caller?_arrive (h : t.Sound policy) (q : KeyQuery) :
    (t.arrive q).2.desk.caller? (t.arrive q).1 ≠ none := by
  change (t.desk.apply (.arrive t.nextCaller q)).caller? t.nextCaller ≠ none
  by_cases hnew : t.desk.caller? t.nextCaller = none
  · rw [apply_arrive hnew, (updates_put _ _ t.desk).self]
    exact nofun
  · exact (h.desk.turn _).stays hnew

theorem settles_arriveAll {q : KeyQuery} (h : t.Sound policy) (hq : q ≠ .refreshAhead) (n : Nat) :
    Settles policy t (arriveAll q t n).2 ∧
      ∀ i ∈ (arriveAll q t n).1, (arriveAll q t n).2.desk.caller? i ≠ none := by
  induction n generalizing t with
  | zero => exact ⟨.refl t, fun i hi => absurd hi List.not_mem_nil⟩
  | succ n ih =>
    obtain ⟨hsettles, hcome⟩ := ih (h.arrive q)
    refine ⟨(settles_arrive h hq).trans hsettles, fun i hi => ?_⟩
    rcases List.mem_cons.1 hi with rfl | hi
    · exact hsettles.stays _ (caller?_arrive h q)
    · exact hcome i hi

theorem settles_step (h : t.Sound policy) (i : Nat) : Settles policy t (t.step i) where
  happens := .single (.stepped i)
  supplied hs := by
    have hsource : (t.desk.apply (.step i)).source = t.desk.source := (h.desk.turn (.step i)).source
    unfold Timeline.step
    dsimp only
    split
    · exact ⟨hsource ▸ hs.library, hs.flights⟩
    · obtain ⟨hanswer, hlibrary⟩ := hs.library.retrieve
      rw [hsource]
      refine ⟨by rw [hsource]; exact hlibrary, fun f hf => ?_⟩
      rcases List.mem_append.1 hf with hf | hf
      · exact hs.flights f hf
      · rw [List.mem_singleton.1 hf]
        exact hanswer
  now := by rw [step_desk]; exact (h.desk.turn (.step i)).now_eq rfl
  refreshers := step_refreshers t i
  stays j hj := by rw [step_desk]; exact (h.desk.turn (.step i)).stays hj

theorem settles_land {f : Flight} (h : t.Sound policy) (hf : f ∈ t.flights)
    (hok : ∀ o, ¬Fails policy t.desk.now f.answer o) : Settles policy t (t.land f) where
  happens := .single (.landed f hf hok)
  supplied hs := by
    refine ⟨?_, fun g hg => hs.flights g (List.mem_of_mem_filter hg)⟩
    change t.library.Supplies (t.desk.apply (.answer f.caller f.answer)).source.jwksUrl
    rw [(h.desk.turn (.answer f.caller f.answer)).source]
    exact hs.library
  now := (h.desk.turn (.answer f.caller f.answer)).now_eq rfl
  refreshers := rfl
  stays _ hj := (h.desk.turn (.answer f.caller f.answer)).stays hj

theorem not_fails {a : Except RetrievalError Bytes} {now : Instant}
    (ha : ∃ ks, KeySource.readAnswer a = .ok ks) (hrange : now + policy.lifespan < Instant.limit)
    (o : KeyOutcome) : ¬Fails policy now a o := by
  obtain ⟨ks, hks⟩ := ha
  intro h
  cases h with
  | answer e he => cases hks.symm.trans he
  | overflow ks' _ hlimit => exact Nat.not_lt.2 hlimit hrange

theorem Sound.landed (h : t.Sound policy) (hrest : t.desk.AtRest) : t.flights = [] := by
  refine List.eq_nil_iff_forall_not_mem.2 fun f hf => ?_
  have hretrieving : t.desk.isRetrieving f.caller = true := (h.flights _).2 (List.mem_map_of_mem hf)
  rw [hrest.isRetrieving] at hretrieving
  cases hretrieving

theorem idle_of_find? (h : t.desk.callers.find? (fun e => t.desk.isReady e.1) = none) (i : Nat) :
    t.desk.isReady i = false := by
  refine Bool.eq_false_iff.2 fun hready => ?_
  obtain ⟨q, p, hi⟩ := caller?_of_isReady hready
  exact List.find?_eq_none.1 h _ (Table.mem_of_get? hi) hready

/-- With moves enough for the callers, all that they do at an instant comes to an end. -/
theorem settle_settles (h : t.Sound policy) (hs : t.Supplied)
    (hrange : t.desk.now + policy.lifespan < Instant.limit) (is : List Nat)
    (hall : ∀ j c, t.desk.caller? j = some c → j ∈ is) (fuel : Nat)
    (hfuel : (is.map t.desk.remaining).sum ≤ fuel) :
    Settles policy t (t.settle fuel) ∧ (t.settle fuel).desk.AtRest := by
  induction fuel generalizing t with
  | zero =>
    refine ⟨.refl t, fun j c hj => done_of_remaining hj ?_⟩
    have hle := List.le_sum_of_mem (List.mem_map_of_mem (f := t.desk.remaining) (hall j c hj))
    exact Nat.le_zero.1 (Nat.le_trans hle hfuel)
  | succ fuel ih =>
    -- Whoever makes a move that does anything leaves fewer for the rest.
    have hgo {t₁ : Timeline} (m : KeyMove) {k : Nat} {q : KeyQuery} {p : KeyPhase}
        (hdesk : t₁.desk = t.desk.apply m) (hm : m.caller? = some k)
        (hk : t.desk.caller? k = some ⟨q, p⟩) (hcan : ¬t.desk.Ignores m) (hsettles : Settles policy t t₁)
        (hsound : t₁.Sound policy) : Settles policy t (t₁.settle fuel) ∧ (t₁.settle fuel).desk.AtRest := by
      have ht := h.desk.turn m
      have hless := ht.sum_remaining_lt (hall k _ hk) hk hm hcan
      rw [← hdesk] at ht hless
      obtain ⟨hsettles', hrest⟩ := ih hsound (hsettles.supplied hs) (hsettles.now ▸ hrange)
        (ht.forall hm hall (fun _ _ => hall k _ hk) (fun _ _ _ hi _ => hall _ _ hi))
        (Nat.le_of_lt_succ (Nat.lt_of_lt_of_le hless hfuel))
      exact ⟨hsettles.trans hsettles', hrest⟩
    unfold settle
    split
    · next e he =>
      have hready : t.desk.isReady e.1 = true := by simpa using List.find?_some he
      obtain ⟨q, p, hk⟩ := caller?_of_isReady hready
      exact hgo (.step e.1) (step_desk t e.1) rfl hk (by simp [Ignores, hready])
        (settles_step h e.1) (h.step e.1)
    · next hnobody =>
      split
      · next f hf =>
        have hmem : f ∈ t.flights := List.mem_of_find?_eq_some hf
        have hretrieving : t.desk.isRetrieving f.caller = true :=
          (h.flights _).2 (List.mem_map_of_mem hmem)
        obtain ⟨q, why, hk⟩ := isRetrieving_iff.1 hretrieving
        exact hgo (.answer f.caller f.answer) rfl rfl hk (by simp [Ignores, hretrieving])
          (settles_land h hmem (not_fails (hs.flights f hmem) hrange)) (h.land f)
      · next hnone =>
        refine ⟨.refl t, h.desk.order.atRest (idle_of_find? hnobody) fun i => ?_⟩
        refine Bool.eq_false_iff.2 fun hretrieving => ?_
        obtain ⟨f, hf, -⟩ := List.mem_map.1 ((h.flights i).1 hretrieving)
        exact List.find?_eq_none.1 hnone f hf (decide_eq_true (h.due f hf))

theorem settled_settles (h : t.Sound policy) (hs : t.Supplied)
    (hrange : t.desk.now + policy.lifespan < Instant.limit) :
    Settles policy t t.settled ∧ t.settled.desk.AtRest := by
  refine settle_settles h hs hrange (t.desk.callers.map Prod.fst) (fun j c hj => ?_) _ ?_
  · exact List.mem_map_of_mem (Table.mem_of_get? hj)
  · have hle := t.desk.sum_remaining_le (t.desk.callers.map Prod.fst)
    rw [List.length_map] at hle
    omega

theorem settled_eq (hrest : t.desk.AtRest) (hlanded : t.flights = []) : t.settled = t := by
  have hnobody : t.desk.callers.find? (fun e => t.desk.isReady e.1) = none := by
    rw [List.find?_eq_none]
    intro e _
    rw [hrest.isReady]
    exact Bool.false_ne_true
  unfold settled settle
  rw [hnobody, hlanded]
  rfl

end Timeline
end BearerTrust

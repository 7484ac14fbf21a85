import BearerTrust.Proofs.DeskHistory
import BearerTrust.Proofs.DeskProgress
import BearerTrust.Proofs.RefreshLimit

namespace BearerTrust

namespace KeySet

variable {id : Option String} {algorithm : Algorithm} {best : Option (Nat × Jwk)} {ks : KeySet}

def consider (id : Option String) (algorithm : Algorithm) (best : Option (Nat × Jwk)) (k : Jwk) :
    Option (Nat × Jwk) :=
  match fit? id algorithm k with
  | some score => better best score k
  | none => best

theorem choose_eq (ks : KeySet) (id : Option String) (algorithm : Algorithm) :
    ks.choose id algorithm = (ks.foldl (consider id algorithm) none).map Prod.snd := rfl

theorem consider_cases (best : Option (Nat × Jwk)) (k : Jwk) :
    (consider id algorithm best k = best ∧ (best.isSome ∨ fit? id algorithm k = none)) ∨
      ∃ score, fit? id algorithm k = some score ∧ consider id algorithm best k = some (score, k) := by
  unfold consider
  cases hk : fit? id algorithm k with
  | none => exact .inl ⟨rfl, .inr rfl⟩
  | some score =>
    cases best with
    | none => exact .inr ⟨score, rfl, rfl⟩
    | some b =>
      dsimp only [better]
      split
      · exact .inr ⟨score, rfl, rfl⟩
      · exact .inl ⟨rfl, .inl rfl⟩

theorem fits_of_foldl {b : Nat × Jwk} (h : ks.foldl (consider id algorithm) best = some b)
    (hbest : ∀ c, best = some c → (fit? id algorithm c.2).isSome) :
    (fit? id algorithm b.2).isSome := by
  induction ks generalizing best with
  | nil => exact hbest b h
  | cons k ks ih =>
    refine ih h fun c hc => ?_
    rcases consider_cases best k with ⟨hsame, -⟩ | ⟨score, hk, hnew⟩
    · exact hbest c (hsame ▸ hc)
    · obtain rfl : (score, k) = c := Option.some.inj (hnew.symm.trans hc)
      rw [hk]
      rfl

theorem isSome_foldl (h : best.isSome ∨ ∃ k ∈ ks, (fit? id algorithm k).isSome) :
    (ks.foldl (consider id algorithm) best).isSome := by
  induction ks generalizing best with
  | nil =>
    rcases h with h | ⟨k, hk, -⟩
    · exact h
    · cases hk
  | cons k ks ih =>
    apply ih
    rcases consider_cases best k with ⟨hsame, hkept⟩ | ⟨score, -, hnew⟩
    · rw [hsame]
      rcases h with h | ⟨k', hk', hfits⟩
      · exact .inl h
      · rcases List.mem_cons.1 hk' with rfl | hk'
        · refine .inl (hkept.resolve_right fun hnone => ?_)
          rw [hnone] at hfits
          cases hfits
        · exact .inr ⟨k', hk', hfits⟩
    · rw [hnew]
      exact .inl rfl

theorem fits_of_choose {k : Jwk} (h : ks.choose id algorithm = some k) : (fit? id algorithm k).isSome := by
  rw [choose_eq] at h
  obtain ⟨b, hb, rfl⟩ := Option.map_eq_some_iff.1 h
  exact fits_of_foldl hb nofun

theorem exists_choose (h : ∃ k ∈ ks, (fit? id algorithm k).isSome) :
    ∃ k, ks.choose id algorithm = some k := by
  have hsome : (ks.foldl (consider id algorithm) none).isSome := isSome_foldl (.inr h)
  obtain ⟨b, hb⟩ := Option.isSome_iff_exists.1 hsome
  exact ⟨b.2, by rw [choose_eq, hb]; rfl⟩

end KeySet

namespace KeyDesk

variable {d e e' : KeyDesk} {policy : KeyCachePolicy} {i : Nat} {id : Option String}
  {algorithm : Algorithm} {p : KeyPhase} {why : RefreshReason} {ks : KeySet} {s : StoredKeys}
  {m : KeyMove} {ms : List KeyMove} {o : KeyOutcome}

structure Attempt where
  ended : Instant
  result : Except KeySourceError KeySet
deriving DecidableEq

/-- What a lookup comes to with an attempt that was its last. -/
def Attempt.outcome (policy : KeyCachePolicy) (id : Option String) (algorithm : Algorithm)
    (a : Attempt) : KeyOutcome :=
  match a.result with
  | .error e => .failure e
  | .ok ks =>
    if a.ended + policy.lifespan < Instant.limit then .answer (.key (ks.choose id algorithm))
    else .abort .instantOverflow

def attempt? (i : Nat) (d : KeyDesk) : KeyMove → Option Attempt
  | .answer j a =>
    if j = i ∧ d.isRetrieving i then some ⟨d.now, KeySource.readAnswer a⟩ else none
  | _ => none

/-- The attempts of a caller in a run, the first one first. -/
def attempts (i : Nat) (d : KeyDesk) : List KeyMove → List Attempt
  | [] => []
  | m :: ms => (attempt? i d m).toList ++ attempts i (d.apply m) ms

theorem attempts_concat (i : Nat) (d : KeyDesk) (ms : List KeyMove) (m : KeyMove) :
    attempts i d (ms ++ [m]) = attempts i d ms ++ (attempt? i (d.run ms) m).toList :=
  collected_concat (f := fun d m => (attempt? i d m).toList) (g := attempts i) (fun _ => rfl)
    (fun _ _ _ => rfl) d ms m

/-- All moves are of one caller, and time passes only while it retrieves. -/
def Alone (i : Nat) (d : KeyDesk) : List KeyMove → Prop
  | [] => True
  | m :: ms => (m.caller? = some i ∨ m.caller? = none ∧ d.isRetrieving i = true) ∧ Alone i (d.apply m) ms

theorem alone_concat : Alone i d (ms ++ [m]) ↔
    Alone i d ms ∧ (m.caller? = some i ∨ m.caller? = none ∧ (d.run ms).isRetrieving i = true) := by
  induction ms generalizing d with
  | nil => simp [Alone, run]
  | cons n ms ih =>
    rw [List.cons_append, Alone, Alone, ih, and_assoc]
    rfl

def Stale (d : KeyDesk) : Prop := ∀ s, d.stored = some s → s.expiresAt ≤ d.now

/-- Why a lookup that came to the desk `d` retrieves, with these attempts behind it. -/
inductive Retries (policy : KeyCachePolicy) (d : KeyDesk) (id : Option String) (algorithm : Algorithm) :
    RefreshReason → List Attempt → Prop
  | stale (h : d.Stale) : Retries policy d id algorithm .expiry []
  | lacked (s : StoredKeys) (hs : d.stored = some s) (hlive : d.now < s.expiresAt)
      (hk : s.keys.choose id algorithm = none)
      (haged : policy.minRefreshInterval ≤ d.now - s.fetchedAt) :
      Retries policy d id algorithm .unknownKey []
  | again (t : Instant) (ks : KeySet) (h : d.Stale) (hk : ks.choose id algorithm = none)
      (hm : policy.minRefreshInterval = 0) :
      Retries policy d id algorithm .unknownKey [⟨t, .ok ks⟩]

inductive Holds (policy : KeyCachePolicy) (d : KeyDesk) (now : Instant) (s : StoredKeys) :
    List Attempt → Prop
  | found (hs : d.stored = some s) (hlive : d.now < s.expiresAt) (hnow : now = d.now) :
      Holds policy d now s []
  | retrieved (h : d.Stale) (hnow : s.fetchedAt = now) (hlimit : now + policy.lifespan < Instant.limit) :
      Holds policy d now s [⟨now, .ok s.keys⟩]

/-- How far a lookup of a key has come that came to the desk `d` and is alone there. -/
inductive Stage (policy : KeyCachePolicy) (d : KeyDesk) (id : Option String) (algorithm : Algorithm)
    (e : KeyDesk) : KeyPhase → List Attempt → Prop
  | reading (hs : e.stored = d.stored) (hnow : e.now = d.now) :
      Stage policy d id algorithm e .reading []
  | stale {p : KeyPhase} (hp : p = .waiting .expiry ∨ p = .checking .expiry)
      (hs : e.stored = d.stored) (hnow : e.now = d.now) (h : d.Stale) :
      Stage policy d id algorithm e p []
  | lacking {p : KeyPhase} (s : StoredKeys) {tries : List Attempt}
      (hp : p = .waiting .unknownKey ∨ p = .checking .unknownKey) (hs : e.stored = some s)
      (hk : s.keys.choose id algorithm = none) (h : Holds policy d e.now s tries) :
      Stage policy d id algorithm e p tries
  | retrieving {why : RefreshReason} {tries : List Attempt}
      (h : Retries policy d id algorithm why tries) :
      Stage policy d id algorithm e (.retrieving why) tries
  | storing {why : RefreshReason} (s : StoredKeys) {tries : List Attempt}
      (h : Retries policy d id algorithm why tries) (hnow : s.fetchedAt = e.now)
      (hlimit : e.now + policy.lifespan < Instant.limit) :
      Stage policy d id algorithm e (.storing why s) (tries ++ [⟨e.now, .ok s.keys⟩])
  | found (s : StoredKeys) (hs : d.stored = some s) (hlive : d.now < s.expiresAt)
      (hk : (s.keys.choose id algorithm).isSome ∨ d.now - s.fetchedAt < policy.minRefreshInterval) :
      Stage policy d id algorithm e (.done (.answer (.key (s.keys.choose id algorithm)))) []
  | ended {why : RefreshReason} {tries : List Attempt} (a : Attempt)
      (h : Retries policy d id algorithm why tries) :
      Stage policy d id algorithm e (.done (a.outcome policy id algorithm)) (tries ++ [a])

structure Lookup (policy : KeyCachePolicy) (d : KeyDesk) (i : Nat) (id : Option String)
    (algorithm : Algorithm) (e : KeyDesk) (p : KeyPhase) (tries : List Attempt) : Prop where
  caller : e.caller? i = some ⟨.key id algorithm, p⟩
  stage : Stage policy d id algorithm e p tries
  begun : e.begun = d.begun + tries.length + p.underway

theorem attempt?_eq_none (h : e.isRetrieving i = false) (m : KeyMove) : attempt? i e m = none := by
  cases m with
  | answer j a => exact if_neg (by simp [h])
  | pass | arrive | step => rfl

theorem attempt?_of_ignores (h : e.Ignores m) : attempt? i e m = none := by
  cases m with
  | answer j a =>
    refine if_neg ?_
    rintro ⟨rfl, hretrieving⟩
    exact Bool.false_ne_true (h.symm.trans hretrieving)
  | pass | arrive | step => rfl

theorem Handed.lookup {p : KeyPhase} (hd : Handed e i (.key id algorithm) p why ks e') :
    (((ks.choose id algorithm).isSome ∨ why = .unknownKey) ∧
      e'.caller? i = some ⟨.key id algorithm, .done (.answer (.key (ks.choose id algorithm)))⟩) ∨
    (ks.choose id algorithm = none ∧ why ≠ .unknownKey) ∧
      e'.caller? i = some ⟨.key id algorithm, .waiting .unknownKey⟩ := by
  cases hd with
  | answered a ha =>
    obtain ⟨hk, rfl⟩ : _ ∧ .key (ks.choose id algorithm) = a := by simpa [KeyQuery.reply?] using ha
    exact .inl ⟨hk, updates_setPhase.self⟩
  | again ha =>
    obtain ⟨_, _, ⟨⟩, hk, hwhy⟩ := reply?_eq_none ha
    exact .inr ⟨⟨hk, hwhy⟩, updates_enterLine.self⟩

theorem Lookup.read (h : Lookup policy d i id algorithm e .reading []) (hs : e.stored = d.stored)
    (hnow : e.now = d.now) (hgo : Goes policy e i (.key id algorithm) m e' .reading) :
    ∃ p, Lookup policy d i id algorithm e' p [] := by
  rcases hgo with ⟨rfl, hw⟩ | ⟨-, s, hstored, hw, hd⟩
  · refine ⟨_, updates_enterLine.self, .stale (.inl rfl) hs hnow fun s hstored => ?_, h.begun⟩
    rw [← hs] at hstored
    rw [← hnow]
    exact Nat.not_lt.1 (of_decide_eq_false (hw nofun s hstored))
  · have hlive : d.now < s.expiresAt := hnow ▸ of_decide_eq_true hw
    have hbegun : e'.begun = d.begun + 0 := hd.begun.trans h.begun
    rw [hs] at hstored
    rcases hd.lookup with ⟨hk, hc⟩ | ⟨⟨hk, -⟩, hc⟩
    · exact ⟨_, hc, .found s hstored hlive (.inl (hk.resolve_right nofun)), hbegun⟩
    · refine ⟨_, hc, .lacking s (.inl rfl) ?_ hk (.found hstored hlive ?_), hbegun⟩
      · rw [hd.stored, hs, hstored]
      · rw [hd.now, hnow]

theorem Lookup.retrieve {tries : List Attempt}
    (h : Lookup policy d i id algorithm e (.retrieving why) tries)
    (hr : Retries policy d id algorithm why tries)
    (hgo : Goes policy e i (.key id algorithm) m e' (.retrieving why)) :
    ∃ p, Lookup policy d i id algorithm e' p (tries ++ (attempt? i e m).toList) := by
  obtain ⟨a, rfl, hgo⟩ := hgo
  have hretrieving : e.isRetrieving i = true := isRetrieving_iff.2 ⟨_, _, h.caller⟩
  have hattempt : attempt? i e (.answer i a) = some ⟨e.now, KeySource.readAnswer a⟩ :=
    if_pos ⟨rfl, hretrieving⟩
  rw [hattempt, Option.toList_some]
  have hbegun (last : Attempt) : e.begun = d.begun + (tries ++ [last]).length := by
    rw [h.begun, List.length_append]
    rfl
  rcases hgo with ⟨o, ho, rfl⟩ | ⟨ks, ha, hlimit, rfl⟩
  · have hended : Attempt.outcome policy id algorithm ⟨e.now, KeySource.readAnswer a⟩ = o := by
      cases ho with
      | answer error ha => simp only [Attempt.outcome, ha]
      | overflow ks ha hlimit => simp only [Attempt.outcome, ha, if_neg (Nat.not_lt.2 hlimit)]
    rw [← hended]
    exact ⟨_, updates_leave.self, .ended _ hr, hbegun _⟩
  · rw [ha]
    refine ⟨_, updates_setPhase.self, ?_, hbegun _⟩
    exact .storing ⟨ks, e.now, e.now + policy.lifespan⟩ hr rfl hlimit

theorem Lookup.store {tries : List Attempt}
    (h : Lookup policy d i id algorithm e (.storing why s) (tries ++ [⟨e.now, .ok s.keys⟩]))
    (hr : Retries policy d id algorithm why tries) (hnow : s.fetchedAt = e.now)
    (hlimit : e.now + policy.lifespan < Instant.limit)
    (hd : Handed { e.leaveLine i with stored := some s } i (.key id algorithm) p why s.keys e') :
    ∃ p, Lookup policy d i id algorithm e' p (tries ++ [⟨e.now, .ok s.keys⟩]) := by
  have hbegun := hd.begun.trans h.begun
  rcases hd.lookup with ⟨-, hc⟩ | ⟨⟨hk, hwhy⟩, hc⟩
  · have hended : Attempt.outcome policy id algorithm ⟨e.now, .ok s.keys⟩ =
        .answer (.key (s.keys.choose id algorithm)) := if_pos hlimit
    rw [← hended] at hc
    exact ⟨_, hc, .ended _ hr, hbegun⟩
  · cases hr with
    | stale hstale =>
      have hnow' : e'.now = e.now := hd.now
      rw [← hnow'] at hnow hlimit hbegun ⊢
      exact ⟨_, hc, .lacking s (.inl rfl) hd.stored hk (.retrieved hstale hnow hlimit), hbegun⟩
    | lacked | again => exact absurd rfl hwhy

theorem Lookup.recheck {tries : List Attempt}
    (h : Lookup policy d i id algorithm e (.checking .unknownKey) tries) (hs : e.stored = some s)
    (hk : s.keys.choose id algorithm = none) (hh : Holds policy d e.now s tries)
    (hgo : Goes policy e i (.key id algorithm) m e' (.checking .unknownKey)) :
    ∃ p, Lookup policy d i id algorithm e' p tries := by
  rcases hgo with ⟨s', hs', hw, hd⟩ | ⟨hw, rfl⟩
  · obtain rfl : s = s' := Option.some.inj (hs.symm.trans hs')
    have hrecent : e.now - s.fetchedAt < policy.minRefreshInterval := of_decide_eq_true hw
    have hbegun : e'.begun = d.begun + tries.length := hd.begun.trans h.begun
    have hc := (hd.lookup.resolve_right fun hn => hn.1.2 rfl).2
    refine ⟨_, hc, ?_, hbegun⟩
    cases hh with
    | found hstored hlive hnow => exact .found s hstored hlive (.inr (hnow ▸ hrecent))
    | retrieved hstale hnow hlimit =>
      have hended : Attempt.outcome policy id algorithm ⟨e.now, .ok s.keys⟩ =
          .answer (.key (s.keys.choose id algorithm)) := if_pos hlimit
      rw [← hended]
      exact .ended _ (.stale hstale)
  · have haged : policy.minRefreshInterval ≤ e.now - s.fetchedAt :=
      Nat.not_lt.1 (of_decide_eq_false (hw s hs))
    have hbegun : e.begun + 1 = d.begun + tries.length + 1 := congrArg (· + 1) h.begun
    refine ⟨_, updates_beginRetrieval.self, .retrieving ?_, hbegun⟩
    cases hh with
    | found hstored hlive hnow => exact .lacked s hstored hlive hk (hnow ▸ haged)
    | retrieved hstale hnow hlimit =>
      rw [hnow, Nat.sub_self] at haged
      exact .again _ _ hstale hk (Nat.le_zero.1 haged)

theorem Lookup.turn {tries : List Attempt} (h : Lookup policy d i id algorithm e p tries)
    (ht : Turn policy e m e') (hm : m.caller? = some i ∨ m.caller? = none ∧ e.isRetrieving i = true) :
    ∃ p', Lookup policy d i id algorithm e' p' (tries ++ (attempt? i e m).toList) := by
  have hquiet (hp : ∀ why, p ≠ .retrieving why) :
      m.caller? = some i ∧ tries ++ (attempt? i e m).toList = tries := by
    have hidle := isRetrieving_eq_false h.caller hp
    refine ⟨hm.resolve_right fun hpass => ?_, ?_⟩
    · rw [hidle] at hpass
      cases hpass.2
    · rw [attempt?_eq_none hidle]
      exact List.append_nil tries
  cases h.stage with
  | reading hs hnow =>
    obtain ⟨hm, hnone⟩ := hquiet (fun _ => nofun)
    rw [hnone]
    rcases ht.own h.caller hm with ⟨-, rfl⟩ | hgo
    · exact ⟨_, h⟩
    · exact h.read hs hnow hgo
  | stale hp hs hnow hstale =>
    rcases hp with rfl | rfl
    · obtain ⟨hm, hnone⟩ := hquiet (fun _ => nofun)
      rw [hnone]
      rcases ht.own h.caller hm with ⟨-, rfl⟩ | ⟨-, rfl⟩
      · exact ⟨_, h⟩
      · exact ⟨_, updates_setPhase.self, .stale (.inr rfl) hs hnow hstale, h.begun⟩
    · obtain ⟨hm, hnone⟩ := hquiet (fun _ => nofun)
      rw [hnone]
      rcases ht.own h.caller hm with ⟨-, rfl⟩ | ⟨s, hstored, hw, -⟩ | ⟨-, rfl⟩
      · exact ⟨_, h⟩
      · have hlive : d.now < s.expiresAt := hnow ▸ of_decide_eq_true hw
        exact absurd hlive (Nat.not_lt.2 (hstale s (hs ▸ hstored)))
      · exact ⟨_, updates_beginRetrieval.self, .retrieving (.stale hstale), congrArg (· + 1) h.begun⟩
  | lacking s hp hs hk hh =>
    rcases hp with rfl | rfl
    · obtain ⟨hm, hnone⟩ := hquiet (fun _ => nofun)
      rw [hnone]
      rcases ht.own h.caller hm with ⟨-, rfl⟩ | ⟨-, rfl⟩
      · exact ⟨_, h⟩
      · exact ⟨_, updates_setPhase.self, .lacking s (.inr rfl) hs hk hh, h.begun⟩
    · obtain ⟨hm, hnone⟩ := hquiet (fun _ => nofun)
      rw [hnone]
      rcases ht.own h.caller hm with ⟨-, rfl⟩ | hgo
      · exact ⟨_, h⟩
      · exact h.recheck hs hk hh hgo
  | retrieving hr =>
    rcases hm with hm | ⟨hm, -⟩
    · rcases ht.own h.caller hm with ⟨hignores, rfl⟩ | hgo
      · rw [attempt?_of_ignores hignores, Option.toList_none, List.append_nil]
        exact ⟨_, h⟩
      · exact h.retrieve hr hgo
    · cases m with
      | pass span =>
        cases ht with
        | idle _ hignores => exact hignores.elim
        | passed =>
          have hnone : attempt? i e (.pass span) = none := rfl
          rw [hnone, Option.toList_none, List.append_nil]
          exact ⟨_, h.caller, .retrieving hr, h.begun⟩
      | arrive | step | answer => cases hm
  | storing s hr hnow hlimit =>
    obtain ⟨hm, hnone⟩ := hquiet (fun _ => nofun)
    rw [hnone]
    rcases ht.own h.caller hm with ⟨-, rfl⟩ | hd
    · exact ⟨_, h⟩
    · exact h.store hr hnow hlimit hd
  | found | ended =>
    obtain ⟨hm, hnone⟩ := hquiet (fun _ => nofun)
    rw [hnone]
    rcases ht.own h.caller hm with ⟨-, rfl⟩ | hgo
    · exact ⟨_, h⟩
    · exact hgo.elim

theorem lookup_run (hc : d.source.cache = some policy) (hi : d.caller? i = none)
    (he : d.apply (.arrive i (.key id algorithm)) = e) (ms : List KeyMove) (halone : Alone i e ms) :
    ∃ p, Lookup policy d i id algorithm (e.run ms) p (attempts i e ms) := by
  have hcome := apply_arrive hi (.key id algorithm)
  have hcache : e.source.cache = some policy := by
    rw [← he, hcome]
    exact hc
  have h₀ : Lookup policy d i id algorithm e .reading [] := by
    rw [← he, hcome]
    exact ⟨(updates_put i _ d).self, .reading rfl rfl, rfl⟩
  refine run_invariant
    (P := fun ms e' => Alone i e ms → ∃ p, Lookup policy d i id algorithm e' p (attempts i e ms))
    hcache (fun _ => ⟨.reading, h₀⟩) ?_ ms halone
  intro ms m e' ih ht halone
  obtain ⟨halone, hm⟩ := alone_concat.1 halone
  obtain ⟨p, h⟩ := ih halone
  rw [attempts_concat]
  exact h.turn ht hm

theorem others_done (hc : e.source.cache = some policy) (ms : List KeyMove) (halone : Alone i e ms)
    (hothers : ∀ j c, j ≠ i → e.caller? j = some c → ∃ o, c.phase = .done o) :
    ∀ j c, j ≠ i → (e.run ms).caller? j = some c → ∃ o, c.phase = .done o := by
  refine run_invariant (P := fun ms e' => Alone i e ms →
    ∀ j c, j ≠ i → e'.caller? j = some c → ∃ o, c.phase = .done o) hc (fun _ => hothers) ?_ ms halone
  intro ms m e' ih ht halone j c hj hcaller
  obtain ⟨halone, hm⟩ := alone_concat.1 halone
  have hother : m.caller? ≠ some j := by
    rcases hm with hm | ⟨hm, -⟩
    · rw [hm]
      exact fun h => hj (Option.some.inj h).symm
    · rw [hm]
      exact nofun
  rw [ht.other hother] at hcaller
  exact ih halone j c hj hcaller

theorem lookup_ends (hc : d.source.cache = some policy) (hi : d.caller? i = none) (hrest : d.AtRest)
    (horder : ∀ ms, (d.run ms).InOrder) (he : d.apply (.arrive i (.key id algorithm)) = e)
    (halone : Alone i e ms) (a : Except RetrievalError Bytes) :
    ∃ more, (∀ m ∈ more, m = .step i ∨ m = .answer i a) ∧ (e.run (ms ++ more)).outcome? i ≠ none := by
  have hcome : Turn policy d (.arrive i (.key id algorithm)) e := he ▸ turn_apply hc _
  have hcache : e.source.cache = some policy := by rw [hcome.source, hc]
  have hothers (j : Nat) (c : KeyCaller) (hj : j ≠ i) (hcaller : e.caller? j = some c) :
      ∃ o, c.phase = .done o := by
    rw [hcome.other fun h => hj (Option.some.inj h).symm] at hcaller
    exact hrest j c hcaller
  induction hn : (e.run ms).remaining i using Nat.strong_induction_on generalizing ms with
  | _ n ih =>
    obtain ⟨p, h⟩ := lookup_run hc hi he ms halone
    by_cases hp : ∃ o, p = .done o
    · obtain ⟨o, rfl⟩ := hp
      refine ⟨[], fun _ hm => absurd hm List.not_mem_nil, ?_⟩
      rw [List.append_nil, outcome?_eq_some_iff.2 ⟨_, h.caller⟩]
      exact nofun
    · have horder' : (e.run ms).InOrder := by
        rw [← he]
        exact horder (.arrive i (.key id algorithm) :: ms)
      obtain ⟨k, q, p', hk, hbusy, hgo⟩ := horder'.goesOn h.caller fun o ho => hp ⟨o, ho⟩
      obtain rfl : k = i := by
        by_contra hki
        obtain ⟨o, ho⟩ := others_done hcache ms halone hothers k _ hki hk
        exact hbusy o ho
      obtain ⟨m, hm, hcan⟩ : ∃ m, (m = .step k ∨ m = .answer k a) ∧ ¬(e.run ms).Ignores m := by
        rcases hgo with hgo | hgo
        · exact ⟨.step k, .inl rfl, by simp [Ignores, hgo]⟩
        · exact ⟨.answer k a, .inr rfl, by simp [Ignores, hgo]⟩
      have hmk : m.caller? = some k := by rcases hm with rfl | rfl <;> rfl
      have ht : Turn policy (e.run ms) m ((e.run ms).apply m) :=
        turn_apply (by rw [run_source hcache, hcache]) m
      have hless : (e.run (ms ++ [m])).remaining k < n := by
        rw [← hn, run_concat]
        exact ht.remaining_lt hk hmk hcan
      obtain ⟨more, hmore, hends⟩ := ih _ hless (alone_concat.2 ⟨halone, .inl hmk⟩) rfl
      refine ⟨m :: more, List.forall_mem_cons.2 ⟨hm, hmore⟩, ?_⟩
      rw [List.append_cons]
      exact hends

/-- How a lookup ends that came to the desk `d`, was alone there and made these attempts. -/
structure LookedUp (policy : KeyCachePolicy) (d : KeyDesk) (id : Option String) (algorithm : Algorithm)
    (tries : List Attempt) (o : KeyOutcome) : Prop where
  found : ∀ s k, d.stored = some s → d.now < s.expiresAt → s.keys.choose id algorithm = some k →
    tries = [] ∧ o = .answer (.key (some k))
  recent : ∀ s, d.stored = some s → d.now < s.expiresAt → s.keys.choose id algorithm = none →
    d.now - s.fetchedAt < policy.minRefreshInterval → tries = [] ∧ o = .answer (.key none)
  retrieved : (∀ s, d.stored = some s → s.expiresAt ≤ d.now ∨ s.keys.choose id algorithm = none ∧
      policy.minRefreshInterval ≤ d.now - s.fetchedAt) →
    ∃ last, tries.getLast? = some last ∧ o = last.outcome policy id algorithm
  once : 0 < policy.minRefreshInterval → tries.length ≤ 1
  current : ∀ k, o = .answer (.key (some k)) →
    (∃ s, d.stored = some s ∧ d.now < s.fetchedAt + policy.lifespan ∧
      s.keys.choose id algorithm = some k) ∨
    ∃ last ks, tries.getLast? = some last ∧ last.result = .ok ks ∧ ks.choose id algorithm = some k
  rotated : (∀ s, d.stored = some s → s.fetchedAt + policy.minRefreshInterval ≤ d.now) →
    (∀ a ∈ tries, a.ended + policy.lifespan < Instant.limit ∧
      ∃ ks, a.result = .ok ks ∧ ∃ k ∈ ks, (KeySet.fit? id algorithm k).isSome) →
    ∃ k, o = .answer (.key (some k)) ∧ (KeySet.fit? id algorithm k).isSome

theorem Retries.due {tries : List Attempt} (h : Retries policy d id algorithm why tries) :
    ∀ s, d.stored = some s → s.expiresAt ≤ d.now ∨
      s.keys.choose id algorithm = none ∧ policy.minRefreshInterval ≤ d.now - s.fetchedAt := by
  intro s hs
  cases h with
  | stale hstale => exact .inl (hstale s hs)
  | lacked s' hs' _ hk haged =>
    obtain rfl : s' = s := Option.some.inj (hs'.symm.trans hs)
    exact .inr ⟨hk, haged⟩
  | again _ _ hstale => exact .inl (hstale s hs)

theorem Retries.eq_nil {tries : List Attempt} (h : Retries policy d id algorithm why tries)
    (hm : 0 < policy.minRefreshInterval) : tries = [] := by
  cases h with
  | stale | lacked => rfl
  | again _ _ _ _ hm' => exact absurd hm' (Nat.pos_iff_ne_zero.1 hm)

theorem Attempt.outcome_ok {a : Attempt} (hks : a.result = .ok ks)
    (hlimit : a.ended + policy.lifespan < Instant.limit) :
    a.outcome policy id algorithm = .answer (.key (ks.choose id algorithm)) := by
  simp only [outcome, hks, if_pos hlimit]

theorem Attempt.outcome_eq_key {a : Attempt} {k : Jwk}
    (h : a.outcome policy id algorithm = .answer (.key (some k))) :
    ∃ ks, a.result = .ok ks ∧ ks.choose id algorithm = some k := by
  unfold outcome at h
  split at h
  · cases h
  · next ks hks =>
    split at h
    · exact ⟨ks, hks, by simpa using h⟩
    · cases h

theorem lookedUp_found (hs : d.stored = some s) (hlive : d.now < s.expiresAt)
    (hdated : s.expiresAt = s.fetchedAt + policy.lifespan)
    (hk : (s.keys.choose id algorithm).isSome ∨ d.now - s.fetchedAt < policy.minRefreshInterval) :
    LookedUp policy d id algorithm [] (.answer (.key (s.keys.choose id algorithm))) := by
  have honly {s' : StoredKeys} (hs' : d.stored = some s') : s' = s :=
    Option.some.inj (hs'.symm.trans hs)
  constructor
  case found =>
    intro s' k hs' _ hk
    rw [← honly hs', hk]
    exact ⟨rfl, rfl⟩
  case recent =>
    intro s' hs' _ hk _
    rw [← honly hs', hk]
    exact ⟨rfl, rfl⟩
  case retrieved =>
    intro hdue
    exfalso
    rcases hdue s hs with hdead | ⟨hnone, haged⟩
    · exact Nat.not_lt.2 hdead hlive
    · rw [hnone] at hk
      exact Nat.not_lt.2 haged (hk.resolve_left nofun)
  case once => exact fun _ => Nat.zero_le 1
  case current =>
    intro k hkey
    exact .inl ⟨s, hs, hdated ▸ hlive, by simpa using hkey⟩
  case rotated =>
    intro hpassed _
    have haged : policy.minRefreshInterval ≤ d.now - s.fetchedAt :=
      Nat.le_sub_of_add_le (Nat.add_comm _ _ ▸ hpassed s hs)
    obtain ⟨k, hk⟩ := Option.isSome_iff_exists.1 (hk.resolve_right (Nat.not_lt.2 haged))
    exact ⟨k, by rw [hk], KeySet.fits_of_choose hk⟩

theorem lookedUp_ended {tries : List Attempt} (a : Attempt) (h : Retries policy d id algorithm why tries) :
    LookedUp policy d id algorithm (tries ++ [a]) (a.outcome policy id algorithm) := by
  have hlast : (tries ++ [a]).getLast? = some a := List.getLast?_concat
  constructor
  case found =>
    intro s k hs hlive hk
    rcases h.due s hs with hdead | ⟨hnone, -⟩
    · exact absurd hlive (Nat.not_lt.2 hdead)
    · cases hk.symm.trans hnone
  case recent =>
    intro s hs hlive _ hrecent
    rcases h.due s hs with hdead | ⟨-, haged⟩
    · exact absurd hlive (Nat.not_lt.2 hdead)
    · exact absurd hrecent (Nat.not_lt.2 haged)
  case retrieved => exact fun _ => ⟨a, hlast, rfl⟩
  case once =>
    intro hm
    rw [h.eq_nil hm]
    exact Nat.le_refl 1
  case current =>
    intro k hk
    obtain ⟨ks, hks, hk⟩ := Attempt.outcome_eq_key hk
    exact .inr ⟨a, ks, hlast, hks, hk⟩
  case rotated =>
    intro _ hall
    obtain ⟨hlimit, ks, hks, hfits⟩ := hall a (List.mem_append_right _ (List.mem_singleton_self a))
    obtain ⟨k, hk⟩ := KeySet.exists_choose hfits
    exact ⟨k, by rw [Attempt.outcome_ok hks hlimit, hk], KeySet.fits_of_choose hk⟩

/-- A lookup of a key that comes to a desk at rest, and is alone there for as long as it takes, always
gets to an end. It makes only the retrievals that its attempts end, and ends as they and the stored set
say. Its retrievals may take time, but its own steps take none: were the interval to pass between them, a
lookup could retrieve once more (`Sample.attempts_delayed`). -/
theorem lookup_alone (url : Url) (policy : KeyCachePolicy) (now : Instant) (before ms : List KeyMove)
    (i : Nat) (id : Option String) (algorithm : Algorithm)
    (hd : (opened url policy now).run before = d) (hrest : d.AtRest) (hi : d.caller? i = none)
    (he : d.apply (.arrive i (.key id algorithm)) = e) (halone : Alone i e ms) :
    (∀ a : Except RetrievalError Bytes, ∃ more, (∀ m ∈ more, m = .step i ∨ m = .answer i a) ∧
        (e.run (ms ++ more)).outcome? i ≠ none) ∧
      ∀ o, (e.run ms).outcome? i = some o →
        (e.run ms).begun = d.begun + (attempts i e ms).length ∧
          LookedUp policy d id algorithm (attempts i e ms) o := by
  have hcache : d.source.cache = some policy := by
    rw [← hd]
    exact cache_run url policy now before
  have horder (ms : List KeyMove) : (d.run ms).InOrder := by
    rw [← hd, ← run_append]
    exact run_inOrder url policy now _
  have htimely : d.Timely policy := by
    rw [← hd]
    exact run_timely url policy now before
  refine ⟨lookup_ends hcache hi hrest horder he halone, fun o ho => ?_⟩
  obtain ⟨p, h⟩ := lookup_run hcache hi he ms halone
  obtain ⟨q, hdone⟩ := outcome?_eq_some_iff.1 ho
  cases h.caller.symm.trans hdone
  generalize attempts i e ms = tries at h ⊢
  refine ⟨h.begun, ?_⟩
  cases h.stage with
  | found s hs hlive hk => exact lookedUp_found hs hlive (htimely.stored s hs).expires hk
  | stale hp | lacking _ hp => rcases hp with hp | hp <;> cases hp
  | ended a hr => exact lookedUp_ended a hr

end KeyDesk

namespace Sample

open KeyDesk

def emptied : List KeyMove :=
  [.arrive 0 .keys, .step 0, .step 0, .step 0, .answer 0 (.ok noKeys), .step 0, .pass 20000]

def sought : List KeyMove := [.step 1, .step 1, .step 1, .pass 50, .answer 1 (.ok noKeys), .step 1]

theorem emptied_atRest : ((opened keysUrl quarterHour 0).run emptied).AtRest := by
  intro j c hj
  have hcallers : ((opened keysUrl quarterHour 0).run emptied).callers =
      [(0, ⟨.keys, .done (.answer (.keys []))⟩)] := by decide +kernel
  have hmem := Table.mem_of_get? hj
  rw [hcallers] at hmem
  cases List.mem_singleton.1 hmem
  exact ⟨_, rfl⟩

theorem sought_alone :
    Alone 1 (((opened keysUrl quarterHour 0).run emptied).apply (.arrive 1 newKey)) sought :=
  ⟨.inl rfl, .inl rfl, .inl rfl, .inr ⟨rfl, by decide +kernel⟩, .inl rfl, .inl rfl, trivial⟩

theorem lookup_alone_aged :
    let d := (opened keysUrl quarterHour 0).run emptied
    let e := d.apply (.arrive 1 newKey)
    d.AtRest ∧ d.caller? 1 = none ∧ Alone 1 e sought ∧
      (e.run sought).outcome? 1 = some (.answer (.key none)) ∧
      attempts 1 e sought = [⟨20050, .ok []⟩] ∧ (e.run sought).begun = d.begun + 1 ∧
      LookedUp quarterHour d (some "new") .rs256 (attempts 1 e sought) (.answer (.key none)) := by
  have hi : ((opened keysUrl quarterHour 0).run emptied).caller? 1 = none := by decide +kernel
  have ho : ((((opened keysUrl quarterHour 0).run emptied).apply (.arrive 1 newKey)).run
      sought).outcome? 1 = some (.answer (.key none)) := by decide +kernel
  have htries : attempts 1 (((opened keysUrl quarterHour 0).run emptied).apply (.arrive 1 newKey))
      sought = [⟨20050, .ok []⟩] := by decide +kernel
  obtain ⟨hbegun, hlooked⟩ := (lookup_alone keysUrl quarterHour 0 emptied sought 1 (some "new") .rs256
    rfl emptied_atRest hi rfl sought_alone).2 _ ho
  refine ⟨emptied_atRest, hi, sought_alone, ho, htries, ?_, hlooked⟩
  exact hbegun.trans (congrArg (fun tries => _ + tries.length) htries)

/-- The first set lacks the key, and the interval passes between its storing and the second look at it. -/
def delayed : List KeyMove :=
  [.step 0, .step 0, .step 0, .answer 0 (.ok noKeys), .step 0, .step 0, .pass 15000, .step 0,
    .answer 0 (.ok noKeys), .step 0]

/-- A lookup whose own steps take time may retrieve twice. -/
theorem attempts_delayed :
    let e := (opened keysUrl quarterHour 0).apply (.arrive 0 newKey)
    0 < quarterHour.minRefreshInterval ∧ ¬Alone 0 e delayed ∧
      attempts 0 e delayed = [⟨0, .ok []⟩, ⟨15000, .ok []⟩] ∧
      (e.run delayed).outcome? 0 = some (.answer (.key none)) := by
  refine ⟨by decide, ?_, by decide +kernel, by decide +kernel⟩
  -- When the time passes the caller has the lock and is not retrieving.
  rintro ⟨-, -, -, -, -, -, h | ⟨-, h⟩, -⟩
  · cases h
  · exact absurd h (by decide +kernel)

def endless : KeyCachePolicy := { lifespan := 18446744073709551615000 }

def firstAnswer : List KeyMove := [.step 0, .step 0, .step 0, .answer 0 (.ok noKeys)]

/-- The retrieval brings a set, but the lookup gives no answer. -/
theorem lookup_overruns :
    let e := (opened keysUrl endless 0).apply (.arrive 0 newKey)
    Alone 0 e firstAnswer ∧ attempts 0 e firstAnswer = [⟨0, .ok []⟩] ∧
      (e.run firstAnswer).outcome? 0 = some (.abort .instantOverflow) :=
  ⟨⟨.inl rfl, .inl rfl, .inl rfl, .inl rfl, trivial⟩, by decide +kernel, by decide +kernel⟩

end Sample
end BearerTrust

import BearerTrust.Proofs.DeskHistory

namespace BearerTrust
namespace KeyDesk

variable {d d' start : KeyDesk} {policy : KeyCachePolicy} {i j : Nat} {m : KeyMove} {ms : List KeyMove}
  {t : Instant}

/-- With its next step a lookup of a key begins a retrieval, although the stored set has not expired. -/
structure Forces (d : KeyDesk) (i : Nat) : Prop where
  lookup : ∃ id algorithm p, d.caller? i = some ⟨.key id algorithm, p⟩
  unexpired : ∃ s, d.stored = some s ∧ d.now < s.expiresAt
  idle : d.isRetrieving i = false
  begins : (d.step i).isRetrieving i = true

theorem Updates.not_retrieving {c : KeyCaller} (hu : Updates d i c d')
    (hc : ∀ why, c.phase ≠ .retrieving why) : d'.isRetrieving i ≠ true := by
  intro h
  obtain ⟨q, why, hi⟩ := isRetrieving_iff.1 h
  rw [hu.self] at hi
  cases hi
  exact hc why rfl

theorem Handed.not_retrieving {q : KeyQuery} {p : KeyPhase} {why : RefreshReason} {ks : KeySet}
    (hd : Handed d i q p why ks d') : d'.isRetrieving i ≠ true := by
  apply hd.updates.not_retrieving
  intro why'
  unfold phaseAfter
  split <;> exact nofun

theorem begins_step (hc : d.source.cache = some policy) (hidle : d.isRetrieving i = false)
    (hbegins : (d.step i).isRetrieving i = true) :
    ∃ q why, d.caller? i = some ⟨q, .checking why⟩ ∧
      (d.step i).caller? i = some ⟨q, .retrieving why⟩ ∧
      ∀ s, d.stored = some s → why.isSettledBy policy d.now s = false := by
  have ht : Turn policy d (.step i) (d.step i) := turn_step hc i
  generalize d.step i = d' at ht hbegins
  cases ht with
  | idle =>
    rw [hidle] at hbegins
    cases hbegins
  | began _ q why hi hw => exact ⟨q, why, hi, updates_beginRetrieval.self, hw⟩
  | found _ _ _ _ _ _ _ _ hd => exact absurd hbegins hd.not_retrieving
  | reused _ _ _ _ _ _ _ _ hd => exact absurd hbegins hd.not_retrieving
  | stored _ _ _ _ _ _ hd => exact absurd hbegins hd.not_retrieving
  | joined => exact absurd hbegins (updates_enterLine.not_retrieving (fun _ => nofun))
  | admitted => exact absurd hbegins (updates_setPhase.not_retrieving (fun _ => nofun))

theorem Forces.aged (hf : Forces d i) (hc : d.source.cache = some policy) (htimely : d.Timely policy)
    (hexplained : ∀ i c, d.caller? i = some c → Explained policy start ms i c) :
    ∃ q s, d.caller? i = some ⟨q, .checking .unknownKey⟩ ∧
      (d.step i).caller? i = some ⟨q, .retrieving .unknownKey⟩ ∧ d.stored = some s ∧
      s.fetchedAt + policy.minRefreshInterval ≤ d.now := by
  obtain ⟨q, why, hi, hnext, hw⟩ := begins_step hc hf.idle hf.begins
  obtain ⟨id, algorithm, p, hlookup⟩ := hf.lookup
  obtain ⟨s, hs, hexpires⟩ := hf.unexpired
  cases hi.symm.trans hlookup
  have hask : Asks policy start ms i (.key id algorithm) why := hexplained i _ hi
  have hunsettled : why.isSettledBy policy d.now s = false := hw s hs
  cases why with
  | expiry =>
    rw [RefreshReason.isSettledBy, decide_eq_true hexpires] at hunsettled
    cases hunsettled
  | ahead => cases hask.ahead_iff.1 rfl
  | unknownKey =>
    refine ⟨_, s, hi, hnext, hs, ?_⟩
    have hfetched : s.fetchedAt ≤ d.now := (htimely.stored s hs).fetched
    have hage : ¬d.now - s.fetchedAt < policy.minRefreshInterval := of_decide_eq_false hunsettled
    rw [Nat.add_comm]
    exact Nat.add_le_of_le_sub hfetched (Nat.not_lt.1 hage)

/-- What a retrieval that was begun at `t` has come to: it is on, or it brought a set, which is about
to be stored, or that set or one fetched later is stored. -/
inductive Under (t : Instant) (i : Nat) (d : KeyDesk) : Prop
  | retrieving (q : KeyQuery) (why : RefreshReason) (hi : d.caller? i = some ⟨q, .retrieving why⟩)
      (hnow : t ≤ d.now)
  | storing (q : KeyQuery) (why : RefreshReason) (s : StoredKeys)
      (hi : d.caller? i = some ⟨q, .storing why s⟩) (hs : t ≤ s.fetchedAt)
  | stored (s : StoredKeys) (hstored : d.stored = some s) (hs : t ≤ s.fetchedAt)

theorem Turn.under (h : Under t i d) (htimely : d.Timely policy) (ht : Turn policy d m d') :
    Under t i d' ∨ ∃ o, Loses policy i o d m := by
  cases h with
  | retrieving q why hi hnow =>
    by_cases hm : m.caller? = some i
    · rcases ht.of_retrieving hi hm with ⟨-, rfl⟩ | ⟨o, ho, -⟩ | ⟨s, hs, rfl⟩
      · exact .inl (.retrieving q why hi hnow)
      · exact .inr ⟨o, ho⟩
      · have hfetched : s.fetchedAt = d.now := hs.2.1
        exact .inl (.storing q why s updates_setPhase.self (by rw [hfetched]; exact hnow))
    · exact .inl (.retrieving q why (by rw [ht.other hm, hi]) (Nat.le_trans hnow ht.now_le))
  | storing q why s hi hs =>
    left
    by_cases hm : m.caller? = some i
    · rcases ht.own hi hm with ⟨-, rfl⟩ | hd
      · exact .storing q why s hi hs
      · have hstored : d'.stored = some s := Handed.stored hd
        exact .stored s hstored hs
    · exact .storing q why s (by rw [ht.other hm, hi]) hs
  | stored s hstored hs =>
    left
    rcases ht.stored_eq with hsame | ⟨j, q, why, s', -, hj, hs'⟩
    · exact .stored s (hsame.trans hstored) hs
    · have hlater : s.fetchedAt ≤ s'.fetchedAt := (htimely.storing j _ hj why s' rfl).2 s hstored
      exact .stored s' hs' (Nat.le_trans hs hlater)

theorem under_run (hc : d.source.cache = some policy) (htimely : ∀ ms, (d.run ms).Timely policy)
    (h : Under t i d) (ms : List KeyMove) :
    Under t i (d.run ms) ∨ Once d ms (fun e m => ∃ o, Loses policy i o e m) := by
  refine run_invariant (P := fun ms e => Under t i e ∨ Once d ms (fun e m => ∃ o, Loses policy i o e m))
    hc (.inl h) ?_ ms
  intro ms m d' h ht
  rcases h with h | h
  · rcases ht.under h (htimely ms) with h' | h'
    · exact .inl h'
    · exact .inr (.last h')
  · exact .inr (h.append [m])

/-- However lookups and time go on, and whatever the issuer answers: two retrievals that are forced
begin at least the least interval apart, unless the first of them fails in between. -/
theorem forced_apart (url : Url) (policy : KeyCachePolicy) (now : Instant) (before between : List KeyMove)
    (i j : Nat) (hi : Forces ((opened url policy now).run before) i)
    (hj : Forces ((opened url policy now).run (before ++ .step i :: between)) j) :
    ((opened url policy now).run before).now + policy.minRefreshInterval ≤
        ((opened url policy now).run (before ++ .step i :: between)).now ∨
      Once ((opened url policy now).run (before ++ [.step i])) between
        (fun d m => ∃ o, Loses policy i o d m) := by
  have hcache := cache_run url policy now
  have horder := run_inOrder url policy now
  have htimely := run_timely url policy now
  have hexplained := run_explained url policy now
  have hsplit (ms : List KeyMove) : (opened url policy now).run (before ++ .step i :: ms) =
      ((opened url policy now).run (before ++ [.step i])).run ms := by
    rw [← run_append, List.append_assoc, List.singleton_append]
  have hbegun : Under ((opened url policy now).run before).now i
      ((opened url policy now).run (before ++ [.step i])) := by
    obtain ⟨q, s, -, hnext, -⟩ := hi.aged (hcache before) (htimely before) (hexplained before)
    rw [run_concat]
    exact .retrieving q .unknownKey hnext (turn_step (hcache before) i).now_le
  have hlater := under_run (hcache _) (fun ms => hsplit ms ▸ htimely _) hbegun between
  rw [← hsplit] at hlater
  rcases hlater with h | h
  · left
    obtain ⟨q, s, hchecking, -, hstored, haged⟩ := hj.aged (hcache _) (htimely _) (hexplained _)
    cases h with
    | retrieving q' why hi' =>
      obtain rfl : i = j := (horder _).holder_unique hi' trivial hchecking trivial
      cases hi'.symm.trans hchecking
    | storing q' why s' hi' =>
      obtain rfl : i = j := (horder _).holder_unique hi' trivial hchecking trivial
      cases hi'.symm.trans hchecking
    | stored s' hs' hle =>
      cases hs'.symm.trans hstored
      exact Nat.le_trans (Nat.add_le_add_right hle _) haged
  · exact .inr h

end KeyDesk

namespace Sample

open KeyDesk

def newKey : KeyQuery := .key (some "new") .rs256

def missed : List KeyMove :=
  [.arrive 0 .keys, .step 0, .step 0, .step 0, .answer 0 (.ok noKeys), .step 0, .pass 20000,
    .arrive 1 newKey, .step 1, .step 1]

theorem missed_forces : Forces ((opened keysUrl quarterHour 0).run missed) 1 where
  lookup := ⟨some "new", .rs256, .checking .unknownKey, by decide +kernel⟩
  unexpired := ⟨⟨[], 0, 900000⟩, by decide +kernel, by decide +kernel⟩
  idle := by decide +kernel
  begins := by decide +kernel

def renewed : List KeyMove :=
  [.answer 1 (.ok noKeys), .step 1, .pass 15000, .arrive 2 newKey, .step 2, .step 2]

def refused : List KeyMove :=
  [.answer 1 (.error (.errorStatus keysUrl 500)), .arrive 2 newKey, .step 2, .step 2]

theorem renewed_forces : Forces ((opened keysUrl quarterHour 0).run (missed ++ .step 1 :: renewed)) 2 where
  lookup := ⟨some "new", .rs256, .checking .unknownKey, by decide +kernel⟩
  unexpired := ⟨⟨[], 20000, 920000⟩, by decide +kernel, by decide +kernel⟩
  idle := by decide +kernel
  begins := by decide +kernel

theorem refused_forces : Forces ((opened keysUrl quarterHour 0).run (missed ++ .step 1 :: refused)) 2 where
  lookup := ⟨some "new", .rs256, .checking .unknownKey, by decide +kernel⟩
  unexpired := ⟨⟨[], 0, 900000⟩, by decide +kernel, by decide +kernel⟩
  idle := by decide +kernel
  begins := by decide +kernel

theorem forced_apart_renewed :
    Forces ((opened keysUrl quarterHour 0).run missed) 1 ∧
      Forces ((opened keysUrl quarterHour 0).run (missed ++ .step 1 :: renewed)) 2 ∧
      (((opened keysUrl quarterHour 0).run missed).now + quarterHour.minRefreshInterval ≤
          ((opened keysUrl quarterHour 0).run (missed ++ .step 1 :: renewed)).now ∨
        Once ((opened keysUrl quarterHour 0).run (missed ++ [.step 1])) renewed
          (fun d m => ∃ o, Loses quarterHour 1 o d m)) :=
  ⟨missed_forces, renewed_forces,
    forced_apart keysUrl quarterHour 0 missed renewed 1 2 missed_forces renewed_forces⟩

/-- Two retrievals are forced at one instant. -/
theorem forced_together :
    Forces ((opened keysUrl quarterHour 0).run missed) 1 ∧
      Forces ((opened keysUrl quarterHour 0).run (missed ++ .step 1 :: refused)) 2 ∧
      ((opened keysUrl quarterHour 0).run (missed ++ .step 1 :: refused)).now =
        ((opened keysUrl quarterHour 0).run missed).now ∧
      0 < quarterHour.minRefreshInterval :=
  ⟨missed_forces, refused_forces, by decide +kernel, by decide⟩

end Sample
end BearerTrust

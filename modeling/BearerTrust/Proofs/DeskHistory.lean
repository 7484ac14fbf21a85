import BearerTrust.Proofs.DeskOrder

namespace BearerTrust
namespace KeyDesk

variable {d d' e : KeyDesk} {policy : KeyCachePolicy} {i : Nat} {c : KeyCaller} {q : KeyQuery}
  {p : KeyPhase} {why : RefreshReason} {ks : KeySet} {m : KeyMove} {ms more : List KeyMove}
  {E : KeyDesk → KeyMove → Prop}

/-- At a point of a run `E` holds of the desk and the next move. -/
def Once (d : KeyDesk) (ms : List KeyMove) (E : KeyDesk → KeyMove → Prop) : Prop :=
  ∃ before m after, ms = before ++ m :: after ∧ E (d.run before) m

theorem Once.append (h : Once d ms E) (more : List KeyMove) : Once d (ms ++ more) E := by
  obtain ⟨before, m, after, rfl, hE⟩ := h
  exact ⟨before, m, after ++ more, by simp, hE⟩

theorem Once.last (h : E (d.run ms) m) : Once d (ms ++ [m]) E := ⟨ms, m, [], rfl, h⟩

theorem Once.before_or_last (h : Once d (ms ++ [m]) E) : Once d ms E ∨ E (d.run ms) m := by
  obtain ⟨before, n, after, heq, hE⟩ := h
  rcases List.eq_nil_or_concat after with rfl | ⟨after, l, rfl⟩
  · obtain ⟨rfl, hmn⟩ := List.append_inj' heq rfl
    cases hmn
    exact .inr hE
  · rw [List.concat_eq_append, ← List.cons_append, ← List.append_assoc] at heq
    obtain ⟨rfl, -⟩ := List.append_inj' heq rfl
    exact .inl ⟨before, n, after, rfl, hE⟩

/-- A caller's retrieval ends with a key set, which is dated at once. -/
def Retrieves (policy : KeyCachePolicy) (i : Nat) (s : StoredKeys) (d : KeyDesk) (m : KeyMove) : Prop :=
  d.isRetrieving i = true ∧ s.fetchedAt = d.now ∧ s.expiresAt = d.now + policy.lifespan ∧
    ∃ body, m = .answer i (.ok body) ∧ KeySet.parse? body = some s.keys

def Loses (policy : KeyCachePolicy) (i : Nat) (o : KeyOutcome) (d : KeyDesk) (m : KeyMove) : Prop :=
  d.isRetrieving i = true ∧ ∃ a, m = .answer i a ∧ Fails policy d.now a o

theorem retrieves_answer {a : Except RetrievalError Bytes} (hi : d.caller? i = some ⟨q, .retrieving why⟩)
    (ha : KeySource.readAnswer a = .ok ks) :
    Retrieves policy i ⟨ks, d.now, d.now + policy.lifespan⟩ d (.answer i a) := by
  obtain ⟨body, rfl, hbody⟩ := KeySource.readAnswer_eq_ok_iff.1 ha
  exact ⟨isRetrieving_iff.2 ⟨q, why, hi⟩, rfl, rfl, body, rfl, hbody⟩

theorem Turn.of_retrieving (ht : Turn policy d m d') (hi : d.caller? i = some ⟨q, .retrieving why⟩)
    (hm : m.caller? = some i) :
    (d.Ignores m ∧ d' = d) ∨
    (∃ o, Loses policy i o d m ∧ d' = (d.leaveLine i).finish i ⟨q, .retrieving why⟩ o) ∨
    ∃ s, Retrieves policy i s d m ∧ d' = d.setPhase i ⟨q, .retrieving why⟩ (.storing why s) := by
  rcases ht.own hi hm with h | ⟨a, rfl, ⟨o, ho, hd⟩ | ⟨ks, ha, -, hd⟩⟩
  · exact .inl h
  · exact .inr (.inl ⟨o, ⟨isRetrieving_iff.2 ⟨q, why, hi⟩, a, rfl, ho⟩, hd⟩)
  · exact .inr (.inr ⟨_, retrieves_answer hi ha, hd⟩)

/-- A caller looks whether the stored set settles the matter, before it asks for the lock or with it. -/
def IsLooking (d : KeyDesk) (i : Nat) (why : RefreshReason) : Prop :=
  ∃ q, d.caller? i = some ⟨q, .checking why⟩ ∨ d.caller? i = some ⟨q, .reading⟩ ∧ why = .expiry

def Finds (policy : KeyCachePolicy) (i : Nat) (why : RefreshReason) (ks : KeySet) (d : KeyDesk)
    (m : KeyMove) : Prop :=
  m = .step i ∧ d.IsLooking i why ∧
    ∃ s, d.stored = some s ∧ s.keys = ks ∧ why.isSettledBy policy d.now s = true

/-- How a caller came by a set: it found it stored, or retrieved it. -/
def Obtains (policy : KeyCachePolicy) (d : KeyDesk) (ms : List KeyMove) (i : Nat)
    (why : RefreshReason) (ks : KeySet) : Prop :=
  Once d ms (Finds policy i why ks) ∨ ∃ s, s.keys = ks ∧ Once d ms (Retrieves policy i s)

theorem Obtains.append (h : Obtains policy d ms i why ks) (more : List KeyMove) :
    Obtains policy d (ms ++ more) i why ks := by
  rcases h with h | ⟨s, hs, h⟩
  · exact .inl (h.append more)
  · exact .inr ⟨s, hs, h.append more⟩

/-- The reasons that a query can have. A newer set is asked for only by a lookup of a key that was
handed a set without it. -/
structure Asks (policy : KeyCachePolicy) (d : KeyDesk) (ms : List KeyMove) (i : Nat) (q : KeyQuery)
    (why : RefreshReason) : Prop where
  ahead_iff : why = .ahead ↔ q = .refreshAhead
  lacks : why = .unknownKey → ∃ ks, Obtains policy d ms i .expiry ks ∧ q.reply? .expiry ks = none

theorem Asks.append (h : Asks policy d ms i q why) (more : List KeyMove) :
    Asks policy d (ms ++ more) i q why := by
  refine ⟨h.ahead_iff, fun hwhy => ?_⟩
  obtain ⟨ks, hks, hq⟩ := h.lacks hwhy
  exact ⟨ks, hks.append more, hq⟩

def Explained (policy : KeyCachePolicy) (d : KeyDesk) (ms : List KeyMove) (i : Nat) (c : KeyCaller) :
    Prop :=
  match c.phase with
  | .reading => True
  | .waiting why | .checking why | .retrieving why => Asks policy d ms i c.query why
  | .storing why s => Asks policy d ms i c.query why ∧ Once d ms (Retrieves policy i s)
  | .done (.answer a) => ∃ why ks, Asks policy d ms i c.query why ∧ Obtains policy d ms i why ks ∧
      c.query.reply? why ks = some a
  | .done (.failure e) => Once d ms (Loses policy i (.failure e))
  | .done (.abort a) => Once d ms (Loses policy i (.abort a))

theorem Explained.append (h : Explained policy d ms i c) (more : List KeyMove) :
    Explained policy d (ms ++ more) i c := by
  obtain ⟨q, p⟩ := c
  cases p with
  | reading => trivial
  | waiting | checking | retrieving => exact Asks.append h more
  | storing why s => exact ⟨h.1.append more, h.2.append more⟩
  | done o =>
    cases o with
    | answer a =>
      obtain ⟨why, ks, hask, hks, ha⟩ := h
      exact ⟨why, ks, hask.append more, hks.append more, ha⟩
    | failure | abort => exact Once.append h more

theorem reply?_eq_none (h : q.reply? why ks = none) :
    ∃ id algorithm, q = .key id algorithm ∧ ks.choose id algorithm = none ∧ why ≠ .unknownKey := by
  cases q with
  | keys | refreshAhead => cases h
  | key id algorithm =>
    simp only [KeyQuery.reply?, ite_eq_right_iff, reduceCtorEq, imp_false, not_or] at h
    exact ⟨id, algorithm, rfl, by simpa using h.1, h.2⟩

theorem Explained.phaseAfter (hask : Asks policy d ms i q why) (hks : Obtains policy d ms i why ks) :
    Explained policy d ms i ⟨q, phaseAfter q why ks⟩ := by
  unfold KeyDesk.phaseAfter
  cases ha : q.reply? why ks with
  | some a => exact ⟨why, ks, hask, hks, ha⟩
  | none =>
    obtain ⟨id, algorithm, rfl, hk, hwhy⟩ := reply?_eq_none ha
    have hexpiry : why = .expiry := by
      cases why with
      | expiry => rfl
      | unknownKey => exact absurd rfl hwhy
      | ahead => cases hask.ahead_iff.1 rfl
    subst hexpiry
    exact ⟨by simp, fun _ => ⟨ks, hks, ha⟩⟩

theorem Turn.explained (he : e = d.run ms) (h : ∀ i c, e.caller? i = some c → Explained policy d ms i c)
    (ht : Turn policy e m d') : ∀ i c, d'.caller? i = some c → Explained policy d (ms ++ [m]) i c := by
  subst he
  have hold (i : Nat) (c : KeyCaller) (hi : (d.run ms).caller? i = some c) :
      Explained policy d (ms ++ [m]) i c := (h i c hi).append [m]
  cases ht with
  | idle | passed => exact hold
  | arrived i q hi => exact (updates_put i _ _).forall hold trivial
  | found i q s _ hi hq hs hw hd =>
    have hlook : (d.run ms).IsLooking i .expiry := ⟨q, .inr ⟨hi, rfl⟩⟩
    refine hd.updates.forall hold (.phaseAfter ⟨by simp [hq], nofun⟩ (.inl ?_))
    exact .last ⟨rfl, hlook, s, hs, rfl, hw⟩
  | joined i q why hi hwhy =>
    refine updates_enterLine.forall hold ?_
    subst hwhy
    constructor
    · by_cases hq : q = .refreshAhead <;> simp [hq]
    · by_cases hq : q = .refreshAhead <;> simp [hq]
  | admitted i q why hi =>
    have hask : Asks policy d _ i q why := hold i _ hi
    exact updates_setPhase.forall hold hask
  | reused i q why s _ hi hs hw hd =>
    have hask : Asks policy d _ i q why := hold i _ hi
    refine hd.updates.forall hold (.phaseAfter hask (.inl ?_))
    exact .last ⟨rfl, ⟨q, .inl hi⟩, s, hs, rfl, hw⟩
  | began i q why hi =>
    have hask : Asks policy d _ i q why := hold i _ hi
    exact updates_beginRetrieval.forall hold hask
  | failed i q why a o hi ho =>
    have hlost : Once d (ms ++ [.answer i a]) (Loses policy i o) :=
      .last ⟨isRetrieving_iff.2 ⟨q, why, hi⟩, a, rfl, ho⟩
    refine updates_leave.forall hold ?_
    cases ho with
    | answer | overflow => exact hlost
  | retrieved i q why a ks hi ha hlimit =>
    have hask : Asks policy d _ i q why := hold i _ hi
    exact updates_setPhase.forall hold ⟨hask, .last (retrieves_answer hi ha)⟩
  | stored i q why s _ hi hd =>
    obtain ⟨hask, hs⟩ : Asks policy d _ i q why ∧ Once d _ (Retrieves policy i s) := hold i _ hi
    exact hd.updates.forall hold (.phaseAfter hask (.inr ⟨s, rfl, hs⟩))

def opened (url : Url) (policy : KeyCachePolicy) (now : Instant) : KeyDesk where
  source := ⟨url, some policy⟩
  now

theorem cache_opened (url : Url) (policy : KeyCachePolicy) (now : Instant) :
    (opened url policy now).source.cache = some policy := rfl

theorem caller?_opened (url : Url) (policy : KeyCachePolicy) (now : Instant) (i : Nat) (c : KeyCaller) :
    (opened url policy now).caller? i ≠ some c := by
  intro h
  cases h

theorem cache_run (url : Url) (policy : KeyCachePolicy) (now : Instant) (ms : List KeyMove) :
    ((opened url policy now).run ms).source.cache = some policy := by
  rw [run_source (cache_opened url policy now)]
  rfl

theorem run_inOrder (url : Url) (policy : KeyCachePolicy) (now : Instant) (ms : List KeyMove) :
    ((opened url policy now).run ms).InOrder := by
  refine run_invariant (P := fun _ e => e.InOrder) (cache_opened url policy now) ?_ ?_ ms
  · refine ⟨.nil, fun i => iff_of_false List.not_mem_nil ?_, fun i c hi => ?_⟩
    · rintro ⟨c, hi, -⟩
      exact caller?_opened url policy now i c hi
    · exact absurd hi (caller?_opened url policy now i c)
  · exact fun _ _ _ h ht => ht.inOrder h

theorem run_timely (url : Url) (policy : KeyCachePolicy) (now : Instant) (ms : List KeyMove) :
    ((opened url policy now).run ms).Timely policy := by
  refine run_invariant (P := fun _ e => e.Timely policy) rfl ?_ ?_ ms
  · refine ⟨fun s hs => ?_, fun i c hi => ?_⟩
    · cases hs
    · exact absurd hi (caller?_opened url policy now i c)
  · exact fun ms _ _ h ht => ht.timely h (run_inOrder url policy now ms)

theorem run_explained (url : Url) (policy : KeyCachePolicy) (now : Instant) (ms : List KeyMove) :
    ∀ i c, ((opened url policy now).run ms).caller? i = some c →
      Explained policy (opened url policy now) ms i c := by
  refine run_invariant
    (P := fun ms e => ∀ i c, e.caller? i = some c → Explained policy (opened url policy now) ms i c)
    (cache_opened url policy now) (fun i c hi => absurd hi (caller?_opened url policy now i c)) ?_ ms
  exact fun _ _ _ h ht => ht.explained rfl h

/-- What a desk with a cache keeps to, after the moves `ms` and whatever comes next. -/
structure Consistent (policy : KeyCachePolicy) (start : KeyDesk) (ms : List KeyMove) : Prop where
  one_retrieval : ∀ i j, (start.run ms).isRetrieving i = true →
    (start.run ms).isRetrieving j = true → i = j
  changes : ∀ m, ((start.run ms).apply m).stored = (start.run ms).stored ∨
    ∃ i s, m = .step i ∧ ((start.run ms).apply m).stored = some s ∧
      Once start ms (Retrieves policy i s) ∧
      ∀ s₀, (start.run ms).stored = some s₀ → s₀.fetchedAt ≤ s.fetchedAt
  expires : ∀ s, (start.run ms).stored = some s → s.expiresAt = s.fetchedAt + policy.lifespan
  failure : ∀ i a e, (start.run ms).isRetrieving i = true → KeySource.readAnswer a = .error e →
    ((start.run ms).apply (.answer i a)).stored = (start.run ms).stored ∧
      ((start.run ms).apply (.answer i a)).outcome? i = some (.failure e)
  keys : ∀ i ks, (start.run ms).outcome? i = some (.answer (.keys ks)) →
    Obtains policy start ms i .expiry ks
  lacks : ∀ i q, (start.run ms).caller? i = some ⟨q, .waiting .unknownKey⟩ →
    ∃ ks, Obtains policy start ms i .expiry ks ∧ q.reply? .expiry ks = none
  lookups : ∀ i id algorithm found,
    (start.run ms).caller? i = some ⟨.key id algorithm, .done (.answer (.key found))⟩ →
      ∃ ks, Obtains policy start ms i .expiry ks ∧ ((found = ks.choose id algorithm ∧ found.isSome) ∨
        ks.choose id algorithm = none ∧
          ∃ newer, Obtains policy start ms i .unknownKey newer ∧ found = newer.choose id algorithm)

theorem Explained.keys (h : Explained policy d ms i ⟨q, .done (.answer (.keys ks))⟩) :
    Obtains policy d ms i .expiry ks := by
  obtain ⟨why, ks', hask, hks, ha⟩ := h
  cases q with
  | keys =>
    cases ha
    cases why with
    | expiry => exact hks
    | unknownKey => obtain ⟨_, _, hnone⟩ := hask.lacks rfl; cases hnone
    | ahead => cases hask.ahead_iff.1 rfl
  | refreshAhead => cases ha
  | key id algorithm => simp [KeyQuery.reply?] at ha

theorem Explained.lookup {id : Option String} {algorithm : Algorithm} {found : Option Jwk}
    (h : Explained policy d ms i ⟨.key id algorithm, .done (.answer (.key found))⟩) :
    ∃ ks, Obtains policy d ms i .expiry ks ∧ ((found = ks.choose id algorithm ∧ found.isSome) ∨
      ks.choose id algorithm = none ∧
        ∃ newer, Obtains policy d ms i .unknownKey newer ∧ found = newer.choose id algorithm) := by
  obtain ⟨why, ks, hask, hks, ha⟩ := h
  simp only [KeyQuery.reply?, Option.ite_none_right_eq_some, Option.some.injEq,
    KeyAnswer.key.injEq] at ha
  obtain ⟨hfound, rfl⟩ := ha
  cases why with
  | expiry => exact ⟨ks, hks, .inl ⟨rfl, by simpa using hfound⟩⟩
  | unknownKey =>
    obtain ⟨old, hold, hnone⟩ := hask.lacks rfl
    obtain ⟨_, _, ⟨⟩, hlack, -⟩ := reply?_eq_none hnone
    exact ⟨old, hold, .inr ⟨hlack, ks, hks, rfl⟩⟩
  | ahead => cases hask.ahead_iff.1 rfl

/-- However the steps of its callers follow each other, and whatever the issuer answers, a desk with a
cache keeps to this at every moment. -/
theorem run_consistent (url : Url) (policy : KeyCachePolicy) (now : Instant) (ms : List KeyMove) :
    Consistent policy (opened url policy now) ms := by
  have horder := run_inOrder url policy now ms
  have htimely := run_timely url policy now ms
  have hexplained := run_explained url policy now ms
  have hcache := cache_run url policy now ms
  refine ⟨?_, ?_, ?_, ?_, ?_, ?_, ?_⟩
  · intro i j hi hj
    obtain ⟨q, why, hi⟩ := isRetrieving_iff.1 hi
    obtain ⟨r, why', hj⟩ := isRetrieving_iff.1 hj
    exact horder.holder_unique hi trivial hj trivial
  · intro m
    rcases (turn_apply hcache m).stored_eq with hsame | ⟨i, q, why, s, hm, hi, hs⟩
    · exact .inl hsame
    · have hretrieved : Once (opened url policy now) ms (Retrieves policy i s) := (hexplained i _ hi).2
      exact .inr ⟨i, s, hm, hs, hretrieved, (htimely.storing i _ hi why s rfl).2⟩
  · intro s hs
    exact (htimely.stored s hs).expires
  · intro i a e hi ha
    obtain ⟨q, why, hi⟩ := isRetrieving_iff.1 hi
    rw [apply, answer_of_error hi ha, outcome?_eq_some_iff]
    exact ⟨rfl, q, Updates.self updates_setPhase⟩
  · intro i ks h
    obtain ⟨q, hi⟩ := outcome?_eq_some_iff.1 h
    exact (hexplained i _ hi).keys
  · intro i q hi
    have hask : Asks policy _ ms i q .unknownKey := hexplained i _ hi
    exact hask.lacks rfl
  · intro i id algorithm found hi
    exact (hexplained i _ hi).lookup

end KeyDesk

namespace Sample

def keysUrl : Url := { scheme := "https", path := .segments ["keys"] }

def quarterHour : KeyCachePolicy := { lifespan := 900000 }

def noKeys : Bytes := "[[]]".toUTF8.toList

example : ((KeyDesk.opened keysUrl quarterHour 5).run
    [.arrive 0 .keys, .step 0, .step 0, .step 0, .pass 10, .answer 0 (.ok noKeys), .pass 10,
      .step 0]).stored = some ⟨[], 15, 900015⟩ := by
  decide +kernel

end Sample
end BearerTrust

import BearerTrust.KeySource.Concurrent
import BearerTrust.Proofs.KeyLookup
import Mathlib.Data.List.Induction

namespace BearerTrust

/-- What a query gets out of a set; nothing if it has to ask for a newer one. -/
def KeyQuery.reply? (why : RefreshReason) (ks : KeySet) : KeyQuery → Option KeyAnswer
  | keys => some (.keys ks)
  | refreshAhead => some .refreshed
  | key id algorithm =>
    if (ks.choose id algorithm).isSome ∨ why = .unknownKey then
      some (.key (ks.choose id algorithm))
    else none

def KeyMove.caller? : KeyMove → Option Nat
  | pass _ => none
  | arrive i _ | step i | answer i _ => some i

namespace KeyDesk

variable {d d' : KeyDesk} {policy : KeyCachePolicy} {i j : Nat} {c : KeyCaller} {q : KeyQuery}
  {p : KeyPhase} {why : RefreshReason} {ks : KeySet} {m : KeyMove}

def caller? (d : KeyDesk) (i : Nat) : Option KeyCaller := Table.get? i d.callers

theorem isRetrieving_iff : d.isRetrieving i = true ↔ ∃ q why, d.caller? i = some ⟨q, .retrieving why⟩ := by
  unfold isRetrieving caller?
  split
  · next q why h => simp [h]
  · next h =>
    refine iff_of_false (by simp) ?_
    rintro ⟨q, why, hc⟩
    exact h q why hc

theorem isRetrieving_eq_false (hi : d.caller? i = some ⟨q, p⟩) (hp : ∀ why, p ≠ .retrieving why) :
    d.isRetrieving i = false := by
  refine Bool.eq_false_iff.2 fun h => ?_
  obtain ⟨q', why, hi'⟩ := isRetrieving_iff.1 h
  cases hi.symm.trans hi'
  exact hp why rfl

theorem outcome?_eq_some_iff {o : KeyOutcome} :
    d.outcome? i = some o ↔ ∃ q, d.caller? i = some ⟨q, .done o⟩ := by
  unfold outcome? caller?
  split
  · next q o' h => simp [h, eq_comm]
  · next h =>
    refine iff_of_false (by simp) ?_
    rintro ⟨q, hc⟩
    exact h q o hc

theorem isReady_of_checking (hi : d.caller? i = some ⟨q, .checking why⟩) : d.isReady i = true := by
  unfold caller? at hi
  simp [isReady, hi]

theorem isReady_of_storing {s : StoredKeys} (hi : d.caller? i = some ⟨q, .storing why s⟩) :
    d.isReady i = true := by
  unfold caller? at hi
  simp [isReady, hi]

theorem isReady_of_waiting (hi : d.caller? i = some ⟨q, .waiting why⟩) (hfirst : d.line.head? = some i) :
    d.isReady i = true := by
  unfold caller? at hi
  simp [isReady, hi, hfirst]

def Updates (d : KeyDesk) (i : Nat) (c : KeyCaller) (d' : KeyDesk) : Prop :=
  ∀ j, d'.caller? j = if j = i then some c else d.caller? j

theorem Updates.self (h : Updates d i c d') : d'.caller? i = some c := by
  rw [h i, if_pos rfl]

theorem Updates.other (h : Updates d i c d') (hj : j ≠ i) : d'.caller? j = d.caller? j := by
  rw [h j, if_neg hj]

theorem updates_put (i : Nat) (c : KeyCaller) (d : KeyDesk) :
    Updates d i c { d with callers := Table.put i c d.callers } :=
  fun j => Table.get?_put j i c d.callers

theorem updates_setPhase : Updates d i ⟨c.query, p⟩ (d.setPhase i c p) := updates_put i _ d

theorem updates_enterLine : Updates d i ⟨c.query, .waiting why⟩ (d.enterLine i c why) :=
  updates_put i _ d

theorem updates_beginRetrieval : Updates d i ⟨c.query, .retrieving why⟩ (d.beginRetrieval i c why) :=
  updates_put i _ d

theorem updates_leave {o : KeyOutcome} : Updates d i ⟨c.query, .done o⟩ ((d.leaveLine i).finish i c o) :=
  updates_put i _ d

theorem Updates.forall {X : Nat → KeyCaller → Prop} (h : Updates d i c d')
    (hX : ∀ j b, d.caller? j = some b → X j b) (hi : X i c) :
    ∀ j b, d'.caller? j = some b → X j b := by
  intro j b hj
  by_cases hji : j = i
  · subst hji
    obtain rfl : c = b := Option.some.inj (h.self.symm.trans hj)
    exact hi
  · rw [h.other hji] at hj
    exact hX j b hj

/-- A set is handed over: the caller gets its answer, or it lacks a key and goes to the end of the line
for a newer set. -/
inductive Handed (d : KeyDesk) (i : Nat) (q : KeyQuery) (p : KeyPhase) (why : RefreshReason)
    (ks : KeySet) : KeyDesk → Prop
  | answered (a : KeyAnswer) (ha : q.reply? why ks = some a) :
      Handed d i q p why ks (d.finish i ⟨q, p⟩ (.answer a))
  | again (ha : q.reply? why ks = none) :
      Handed d i q p why ks (d.enterLine i ⟨q, p⟩ .unknownKey)

theorem handed_deliver (hc : d.source.cache = some policy) :
    Handed d i q p why ks (d.deliver i ⟨q, p⟩ why ks) := by
  unfold deliver
  cases q with
  | keys => exact .answered _ rfl
  | refreshAhead => exact .answered _ rfl
  | key id algorithm =>
    dsimp only
    cases hk : ks.choose id algorithm with
    | some k => exact .answered _ (by simp [KeyQuery.reply?, hk])
    | none =>
      dsimp only
      by_cases hwhy : why = .unknownKey
      · rw [if_pos (Or.inl hwhy)]
        exact .answered _ (by simp [KeyQuery.reply?, hk, hwhy])
      · rw [if_neg (by simp [hwhy, hc])]
        exact .again (by simp [KeyQuery.reply?, hk, hwhy])

def phaseAfter (q : KeyQuery) (why : RefreshReason) (ks : KeySet) : KeyPhase :=
  match q.reply? why ks with
  | some a => .done (.answer a)
  | none => .waiting .unknownKey

theorem Handed.updates (hd : Handed d i q p why ks d') : Updates d i ⟨q, phaseAfter q why ks⟩ d' := by
  cases hd with
  | answered a ha =>
    simp only [phaseAfter, ha]
    exact updates_setPhase
  | again ha =>
    simp only [phaseAfter, ha]
    exact updates_enterLine

theorem Handed.source (hd : Handed d i q p why ks d') : d'.source = d.source := by
  cases hd <;> rfl

theorem Handed.now (hd : Handed d i q p why ks d') : d'.now = d.now := by
  cases hd <;> rfl

theorem Handed.stored (hd : Handed d i q p why ks d') : d'.stored = d.stored := by
  cases hd <;> rfl

theorem Handed.begun (hd : Handed d i q p why ks d') : d'.begun = d.begun := by
  cases hd <;> rfl

theorem Handed.line (hd : Handed d i q p why ks d') : d.line <+: d'.line := by
  cases hd with
  | answered => exact List.prefix_rfl
  | again => exact List.prefix_append _ _

/-- How a retrieval fails: the issuer's answer is an error or no key set, or the set would expire past
the clock's range. -/
inductive Fails (policy : KeyCachePolicy) (now : Instant) (a : Except RetrievalError Bytes) :
    KeyOutcome → Prop
  | answer (e : KeySourceError) (h : KeySource.readAnswer a = .error e) : Fails policy now a (.failure e)
  | overflow (ks : KeySet) (h : KeySource.readAnswer a = .ok ks)
      (hlimit : Instant.limit ≤ now + policy.lifespan) : Fails policy now a (.abort .instantOverflow)

/-- Moves that do nothing: a caller has come before, or has nothing to do. -/
def Ignores (d : KeyDesk) : KeyMove → Prop
  | .pass _ => False
  | .arrive i _ => d.caller? i ≠ none
  | .step i => d.isReady i = false
  | .answer i _ => d.isRetrieving i = false

/-- All that a move can do at a desk with a cache. -/
inductive Turn (policy : KeyCachePolicy) (d : KeyDesk) : KeyMove → KeyDesk → Prop
  | idle (m : KeyMove) (hm : d.Ignores m) : Turn policy d m d
  | passed (span : Span) : Turn policy d (.pass span) { d with now := d.now + span }
  | arrived (i : Nat) (q : KeyQuery) (hi : d.caller? i = none) :
      Turn policy d (.arrive i q) { d with callers := Table.put i { query := q } d.callers }
  | found (i : Nat) (q : KeyQuery) (s : StoredKeys) (d' : KeyDesk)
      (hi : d.caller? i = some ⟨q, .reading⟩) (hq : q ≠ .refreshAhead) (hs : d.stored = some s)
      (hw : RefreshReason.expiry.isSettledBy policy d.now s = true)
      (hd : Handed d i q .reading .expiry s.keys d') : Turn policy d (.step i) d'
  | joined (i : Nat) (q : KeyQuery) (why : RefreshReason)
      (hi : d.caller? i = some ⟨q, .reading⟩)
      (hwhy : why = if q = .refreshAhead then .ahead else .expiry)
      (hw : q ≠ .refreshAhead → ∀ s, d.stored = some s → why.isSettledBy policy d.now s = false) :
      Turn policy d (.step i) (d.enterLine i ⟨q, .reading⟩ why)
  | admitted (i : Nat) (q : KeyQuery) (why : RefreshReason)
      (hi : d.caller? i = some ⟨q, .waiting why⟩) (hfirst : d.line.head? = some i) :
      Turn policy d (.step i) (d.setPhase i ⟨q, .waiting why⟩ (.checking why))
  | reused (i : Nat) (q : KeyQuery) (why : RefreshReason) (s : StoredKeys) (d' : KeyDesk)
      (hi : d.caller? i = some ⟨q, .checking why⟩) (hs : d.stored = some s)
      (hw : why.isSettledBy policy d.now s = true)
      (hd : Handed (d.leaveLine i) i q (.checking why) why s.keys d') : Turn policy d (.step i) d'
  | began (i : Nat) (q : KeyQuery) (why : RefreshReason)
      (hi : d.caller? i = some ⟨q, .checking why⟩)
      (hw : ∀ s, d.stored = some s → why.isSettledBy policy d.now s = false) :
      Turn policy d (.step i) (d.beginRetrieval i ⟨q, .checking why⟩ why)
  | failed (i : Nat) (q : KeyQuery) (why : RefreshReason) (a : Except RetrievalError Bytes)
      (o : KeyOutcome) (hi : d.caller? i = some ⟨q, .retrieving why⟩)
      (ho : Fails policy d.now a o) :
      Turn policy d (.answer i a) ((d.leaveLine i).finish i ⟨q, .retrieving why⟩ o)
  | retrieved (i : Nat) (q : KeyQuery) (why : RefreshReason) (a : Except RetrievalError Bytes)
      (ks : KeySet) (hi : d.caller? i = some ⟨q, .retrieving why⟩)
      (ha : KeySource.readAnswer a = .ok ks) (hlimit : d.now + policy.lifespan < Instant.limit) :
      Turn policy d (.answer i a)
        (d.setPhase i ⟨q, .retrieving why⟩ (.storing why ⟨ks, d.now, d.now + policy.lifespan⟩))
  | stored (i : Nat) (q : KeyQuery) (why : RefreshReason) (s : StoredKeys) (d' : KeyDesk)
      (hi : d.caller? i = some ⟨q, .storing why s⟩)
      (hd : Handed { d.leaveLine i with stored := some s } i q (.storing why s) why s.keys d') :
      Turn policy d (.step i) d'

theorem turn_step (hc : d.source.cache = some policy) (i : Nat) : Turn policy d (.step i) (d.step i) := by
  unfold step
  cases hi : Table.get? i d.callers with
  | none => exact .idle _ (by simp [Ignores, isReady, hi])
  | some c =>
    obtain ⟨q, p⟩ := c
    rw [hc]
    cases p with
    | reading =>
      dsimp only
      by_cases hq : q = .refreshAhead
      · subst hq
        exact .joined i _ .ahead hi rfl fun h => absurd rfl h
      · have hjoin (hw : ∀ s, d.stored = some s → RefreshReason.expiry.isSettledBy policy d.now s = false) :
            Turn policy d (.step i) (d.enterLine i ⟨q, .reading⟩ .expiry) :=
          .joined i q .expiry hi (by rw [if_neg hq]) fun _ => hw
        have hfound (s : StoredKeys) (hs : d.stored = some s) : Turn policy d (.step i)
            (if RefreshReason.expiry.isSettledBy policy d.now s then
              d.deliver i ⟨q, .reading⟩ .expiry s.keys else d.enterLine i ⟨q, .reading⟩ .expiry) := by
          split
          · next hw => exact .found i q s _ hi hq hs hw (handed_deliver hc)
          · next hw =>
            refine hjoin fun s' hs' => ?_
            obtain rfl : s = s' := Option.some.inj (hs.symm.trans hs')
            exact Bool.eq_false_iff.2 hw
        cases q with
        | refreshAhead => exact absurd rfl hq
        | keys | key =>
          cases hs : d.stored with
          | none => exact hjoin (by simp [hs])
          | some s => exact hfound s hs
    | waiting why =>
      dsimp only
      split
      · next hfirst => exact .admitted i q why hi hfirst
      · next hfirst => exact .idle _ (by simp [Ignores, isReady, hi, hfirst])
    | checking why =>
      dsimp only
      cases hs : d.stored with
      | none => exact .began i q why hi (by simp [hs])
      | some s =>
        dsimp only
        split
        · next hw => exact .reused i q why s _ hi hs hw (handed_deliver hc)
        · next hw =>
          refine .began i q why hi fun s' hs' => ?_
          obtain rfl : s = s' := Option.some.inj (hs.symm.trans hs')
          exact Bool.eq_false_iff.2 hw
    | storing why s => exact .stored i q why s _ hi (handed_deliver hc)
    | retrieving | done => exact .idle _ (by simp [Ignores, isReady, hi])

theorem answer_of_error {a : Except RetrievalError Bytes} {e : KeySourceError}
    (hi : d.caller? i = some ⟨q, .retrieving why⟩) (ha : KeySource.readAnswer a = .error e) :
    d.answer i a = (d.leaveLine i).finish i ⟨q, .retrieving why⟩ (.failure e) := by
  unfold caller? at hi
  unfold answer
  rw [hi]
  dsimp only
  rw [ha]

theorem turn_answer (hc : d.source.cache = some policy) (i : Nat) (a : Except RetrievalError Bytes) :
    Turn policy d (.answer i a) (d.answer i a) := by
  cases hi : Table.get? i d.callers with
  | none =>
    simp only [answer, hi]
    exact .idle _ (by simp [Ignores, isRetrieving, hi])
  | some c =>
    obtain ⟨q, p⟩ := c
    cases p with
    | retrieving why =>
      cases ha : KeySource.readAnswer a with
      | error e =>
        rw [answer_of_error hi ha]
        exact .failed i q why a _ hi (.answer e ha)
      | ok ks =>
        simp only [answer, hi, ha, hc]
        by_cases hlimit : d.now + policy.lifespan < Instant.limit
        · simp only [KeySource.storedAt, hlimit, if_true]
          exact .retrieved i q why a ks hi ha hlimit
        · simp only [KeySource.storedAt, hlimit, if_false]
          exact .failed i q why a _ hi (.overflow ks ha (Nat.not_lt.1 hlimit))
    | reading | waiting | checking | storing | done =>
      simp only [answer, hi]
      exact .idle _ (by simp [Ignores, isRetrieving, hi])

theorem turn_apply (hc : d.source.cache = some policy) (m : KeyMove) : Turn policy d m (d.apply m) := by
  cases m with
  | pass span => exact .passed span
  | arrive i q =>
    simp only [apply]
    cases hi : Table.get? i d.callers with
    | none => exact .arrived i q hi
    | some c => exact .idle _ (by simp [Ignores, caller?, hi])
  | step i => exact turn_step hc i
  | answer i a => exact turn_answer hc i a

theorem apply_arrive (hi : d.caller? i = none) (q : KeyQuery) :
    d.apply (.arrive i q) = { d with callers := Table.put i { query := q } d.callers } := by
  unfold caller? at hi
  simp [apply, hi]

theorem Turn.source (ht : Turn policy d m d') : d'.source = d.source := by
  cases ht with
  | found _ _ _ _ _ _ _ _ hd => exact hd.source
  | reused _ _ _ _ _ _ _ _ hd => exact hd.source
  | stored _ _ _ _ _ _ hd => exact hd.source
  | idle | passed | arrived | joined | admitted | began | failed | retrieved => rfl

theorem Turn.stored_eq (ht : Turn policy d m d') : d'.stored = d.stored ∨
    ∃ i q why s, m = .step i ∧ d.caller? i = some ⟨q, .storing why s⟩ ∧ d'.stored = some s := by
  cases ht with
  | found _ _ _ _ _ _ _ _ hd => exact .inl hd.stored
  | reused _ _ _ _ _ _ _ _ hd => exact .inl hd.stored
  | stored i q why s _ hi hd => exact .inr ⟨i, q, why, s, rfl, hi, hd.stored⟩
  | idle | passed | arrived | joined | admitted | began | failed | retrieved => exact .inl rfl

theorem Turn.now_eq (ht : Turn policy d m d') (hm : m.caller? = some i) : d'.now = d.now := by
  cases ht with
  | passed => cases hm
  | found _ _ _ _ _ _ _ _ hd => exact hd.now
  | reused _ _ _ _ _ _ _ _ hd => exact hd.now
  | stored _ _ _ _ _ _ hd => exact hd.now
  | idle | arrived | joined | admitted | began | failed | retrieved => rfl

theorem Turn.now_le (ht : Turn policy d m d') : d.now ≤ d'.now := by
  cases m with
  | pass =>
    cases ht with
    | idle _ hignores => exact hignores.elim
    | passed span => exact Nat.le_add_right _ _
  | arrive | step | answer => exact Nat.le_of_eq (ht.now_eq rfl).symm

theorem Turn.other (ht : Turn policy d m d') (hj : m.caller? ≠ some j) : d'.caller? j = d.caller? j := by
  have hne {i : Nat} (hi : m.caller? = some i) : j ≠ i := by
    rintro rfl
    exact hj hi
  cases ht with
  | idle | passed => rfl
  | arrived i q => exact (updates_put i _ d).other (hne rfl)
  | found _ _ _ _ _ _ _ _ hd => exact hd.updates.other (hne rfl)
  | joined => exact updates_enterLine.other (hne rfl)
  | admitted => exact updates_setPhase.other (hne rfl)
  | reused _ _ _ _ _ _ _ _ hd => exact hd.updates.other (hne rfl)
  | began => exact updates_beginRetrieval.other (hne rfl)
  | failed => exact updates_leave.other (hne rfl)
  | retrieved => exact updates_setPhase.other (hne rfl)
  | stored _ _ _ _ _ _ hd => exact hd.updates.other (hne rfl)

def Goes (policy : KeyCachePolicy) (d : KeyDesk) (i : Nat) (q : KeyQuery) (m : KeyMove)
    (d' : KeyDesk) : KeyPhase → Prop
  | .reading =>
    (d' = d.enterLine i ⟨q, .reading⟩ (if q = .refreshAhead then .ahead else .expiry) ∧
      (q ≠ .refreshAhead →
        ∀ s, d.stored = some s → RefreshReason.expiry.isSettledBy policy d.now s = false)) ∨
    q ≠ .refreshAhead ∧ ∃ s, d.stored = some s ∧
      RefreshReason.expiry.isSettledBy policy d.now s = true ∧ Handed d i q .reading .expiry s.keys d'
  | .waiting why => d.line.head? = some i ∧ d' = d.setPhase i ⟨q, .waiting why⟩ (.checking why)
  | .checking why =>
    (∃ s, d.stored = some s ∧ why.isSettledBy policy d.now s = true ∧
      Handed (d.leaveLine i) i q (.checking why) why s.keys d') ∨
    (∀ s, d.stored = some s → why.isSettledBy policy d.now s = false) ∧
      d' = d.beginRetrieval i ⟨q, .checking why⟩ why
  | .retrieving why =>
    ∃ a, m = .answer i a ∧
      ((∃ o, Fails policy d.now a o ∧ d' = (d.leaveLine i).finish i ⟨q, .retrieving why⟩ o) ∨
      ∃ ks, KeySource.readAnswer a = .ok ks ∧ d.now + policy.lifespan < Instant.limit ∧
        d' = d.setPhase i ⟨q, .retrieving why⟩ (.storing why ⟨ks, d.now, d.now + policy.lifespan⟩))
  | .storing why s =>
    Handed { d.leaveLine i with stored := some s } i q (.storing why s) why s.keys d'
  | .done _ => False

theorem Turn.own (ht : Turn policy d m d') (hi : d.caller? i = some ⟨q, p⟩) (hm : m.caller? = some i) :
    (d.Ignores m ∧ d' = d) ∨ Goes policy d i q m d' p := by
  cases ht with
  | idle _ hignores => exact .inl ⟨hignores, rfl⟩
  | passed => cases hm
  | arrived _ _ hj =>
    cases hm
    rw [hi] at hj
    cases hj
  | found _ _ s _ hj hq hs hw hd =>
    cases hm
    cases hi.symm.trans hj
    exact .inr (.inr ⟨hq, s, hs, hw, hd⟩)
  | joined _ _ why hj hwhy hw =>
    cases hm
    cases hi.symm.trans hj
    refine .inr (.inl ⟨by rw [← hwhy], fun hq => ?_⟩)
    rw [if_neg hq] at hwhy
    exact hwhy ▸ hw hq
  | admitted _ _ _ hj hfirst =>
    cases hm
    cases hi.symm.trans hj
    exact .inr ⟨hfirst, rfl⟩
  | reused _ _ _ s _ hj hs hw hd =>
    cases hm
    cases hi.symm.trans hj
    exact .inr (.inl ⟨s, hs, hw, hd⟩)
  | began _ _ _ hj hw =>
    cases hm
    cases hi.symm.trans hj
    exact .inr (.inr ⟨hw, rfl⟩)
  | failed _ _ _ a o hj ho =>
    cases hm
    cases hi.symm.trans hj
    exact .inr ⟨a, rfl, .inl ⟨o, ho, rfl⟩⟩
  | retrieved _ _ _ a ks hj ha hlimit =>
    cases hm
    cases hi.symm.trans hj
    exact .inr ⟨a, rfl, .inr ⟨ks, ha, hlimit, rfl⟩⟩
  | stored _ _ _ _ _ hj hd =>
    cases hm
    cases hi.symm.trans hj
    exact .inr hd

theorem Turn.done {o : KeyOutcome} (ht : Turn policy d m d') (hi : d.caller? i = some ⟨q, .done o⟩) :
    d'.caller? i = some ⟨q, .done o⟩ := by
  by_cases hm : m.caller? = some i
  · rcases ht.own hi hm with ⟨-, rfl⟩ | hgo
    · exact hi
    · exact hgo.elim
  · rw [ht.other hm, hi]

theorem run_append (d : KeyDesk) (ms ns : List KeyMove) : d.run (ms ++ ns) = (d.run ms).run ns :=
  List.foldl_append

theorem run_concat (d : KeyDesk) (ms : List KeyMove) (m : KeyMove) :
    d.run (ms ++ [m]) = (d.run ms).apply m := by
  rw [run_append]
  rfl

theorem collected_concat {α : Type} {f : KeyDesk → KeyMove → List α}
    {g : KeyDesk → List KeyMove → List α} (hnil : ∀ d, g d [] = [])
    (hcons : ∀ d m ms, g d (m :: ms) = f d m ++ g (d.apply m) ms) (d : KeyDesk) (ms : List KeyMove)
    (m : KeyMove) : g d (ms ++ [m]) = g d ms ++ f (d.run ms) m := by
  induction ms generalizing d with
  | nil =>
    rw [List.nil_append, hcons, hnil, hnil, List.append_nil]
    rfl
  | cons n ms ih =>
    rw [List.cons_append, hcons, hcons, ih, List.append_assoc]
    rfl

/-- What holds at first and is kept by every turn holds after every run, with the run on record. -/
theorem run_invariant {P : List KeyMove → KeyDesk → Prop} (hc : d.source.cache = some policy)
    (h₀ : P [] d)
    (hstep : ∀ ms m d', P ms (d.run ms) → Turn policy (d.run ms) m d' → P (ms ++ [m]) d')
    (ms : List KeyMove) : P ms (d.run ms) := by
  have hboth : (d.run ms).source = d.source ∧ P ms (d.run ms) := by
    induction ms using List.reverseRecOn with
    | nil => exact ⟨rfl, h₀⟩
    | append_singleton ms m ih =>
      obtain ⟨hsource, hP⟩ := ih
      have ht : Turn policy (d.run ms) m ((d.run ms).apply m) := turn_apply (by rw [hsource, hc]) m
      rw [run_concat]
      exact ⟨ht.source.trans hsource, hstep ms m _ hP ht⟩
  exact hboth.2

theorem run_source (hc : d.source.cache = some policy) (ms : List KeyMove) :
    (d.run ms).source = d.source :=
  run_invariant (P := fun _ e => e.source = d.source) hc rfl
    (fun _ _ _ h ht => ht.source.trans h) ms

end KeyDesk
end BearerTrust

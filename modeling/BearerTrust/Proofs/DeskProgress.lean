import Mathlib.Algebra.Order.BigOperators.Group.List
import Mathlib.Algebra.Order.Ring.Nat
import BearerTrust.Proofs.DeskOrder

namespace BearerTrust

def RefreshReason.movesAfter : RefreshReason → Nat
  | unknownKey => 0
  | expiry | ahead => 4

namespace KeyPhase

/-- How many moves a caller needs at most from here. -/
def remaining : KeyPhase → Nat
  | reading => 9
  | waiting why => why.movesAfter + 4
  | checking why => why.movesAfter + 3
  | retrieving why => why.movesAfter + 2
  | storing why _ => why.movesAfter + 1
  | done _ => 0

def underway : KeyPhase → Nat
  | retrieving _ => 1
  | reading | waiting _ | checking _ | storing _ _ | done _ => 0

def storedNext (stored : Option StoredKeys) : KeyPhase → Option StoredKeys
  | storing _ s => some s
  | reading | waiting _ | checking _ | retrieving _ | done _ => stored

end KeyPhase

namespace KeyDesk

variable {d d' : KeyDesk} {policy : KeyCachePolicy} {i k : Nat} {c : KeyCaller} {q : KeyQuery}
  {p p' : KeyPhase} {why : RefreshReason} {ks : KeySet} {m : KeyMove} {is : List Nat}

inductive Next (policy : KeyCachePolicy) (d : KeyDesk) (q : KeyQuery) (m : KeyMove) :
    KeyPhase → KeyPhase → Prop
  | join : Next policy d q m .reading (.waiting (if q = .refreshAhead then .ahead else .expiry))
  | find (hq : q ≠ .refreshAhead) (s : StoredKeys) (hs : d.stored = some s)
      (hw : RefreshReason.expiry.isSettledBy policy d.now s = true) :
      Next policy d q m .reading (phaseAfter q .expiry s.keys)
  | enter (why : RefreshReason) : Next policy d q m (.waiting why) (.checking why)
  | reuse (why : RefreshReason) (s : StoredKeys) (hs : d.stored = some s)
      (hw : why.isSettledBy policy d.now s = true) :
      Next policy d q m (.checking why) (phaseAfter q why s.keys)
  | start (why : RefreshReason) (hw : ∀ s, d.stored = some s → why.isSettledBy policy d.now s = false) :
      Next policy d q m (.checking why) (.retrieving why)
  | fail (why : RefreshReason) (a : Except RetrievalError Bytes) (o : KeyOutcome) (i : Nat)
      (hm : m = .answer i a) (ho : Fails policy d.now a o) : Next policy d q m (.retrieving why) (.done o)
  | bring (why : RefreshReason) (a : Except RetrievalError Bytes) (ks : KeySet) (i : Nat)
      (hm : m = .answer i a) (ha : KeySource.readAnswer a = .ok ks) :
      Next policy d q m (.retrieving why) (.storing why ⟨ks, d.now, d.now + policy.lifespan⟩)
  | store (why : RefreshReason) (s : StoredKeys) :
      Next policy d q m (.storing why s) (phaseAfter q why s.keys)

theorem underway_phaseAfter (q : KeyQuery) (why : RefreshReason) (ks : KeySet) :
    (phaseAfter q why ks).underway = 0 := by
  unfold phaseAfter
  split <;> rfl

structure Advances (policy : KeyCachePolicy) (d : KeyDesk) (i : Nat) (q : KeyQuery) (m : KeyMove)
    (p : KeyPhase) (d' : KeyDesk) (p' : KeyPhase) : Prop where
  next : Next policy d q m p p'
  updates : Updates d i ⟨q, p'⟩ d'
  begun : d'.begun = d.begun + p'.underway
  stored : d'.stored = p.storedNext d.stored

theorem Handed.advances {e : KeyDesk} (hd : Handed e i q p why ks d')
    (hnext : Next policy d q m p (phaseAfter q why ks)) (hcallers : e.callers = d.callers)
    (hbegun : e.begun = d.begun) (hstored : e.stored = p.storedNext d.stored) :
    Advances policy d i q m p d' (phaseAfter q why ks) where
  next := hnext
  updates j := by rw [hd.updates j, caller?, caller?, hcallers]
  begun := by rw [hd.begun, hbegun, underway_phaseAfter, Nat.add_zero]
  stored := hd.stored.trans hstored

theorem Turn.next (ht : Turn policy d m d') (hi : d.caller? i = some ⟨q, p⟩) (hm : m.caller? = some i) :
    (d.Ignores m ∧ d' = d) ∨ ∃ p', Advances policy d i q m p d' p' := by
  refine (ht.own hi hm).imp_right fun hgoes => ?_
  cases p with
  | reading =>
    rcases hgoes with ⟨rfl, -⟩ | ⟨hq, s, hs, hw, hd⟩
    · exact ⟨_, .join, updates_enterLine, rfl, rfl⟩
    · exact ⟨_, hd.advances (.find hq s hs hw) rfl rfl rfl⟩
  | waiting why =>
    obtain ⟨-, rfl⟩ := hgoes
    exact ⟨_, .enter why, updates_setPhase, rfl, rfl⟩
  | checking why =>
    rcases hgoes with ⟨s, hs, hw, hd⟩ | ⟨hw, rfl⟩
    · exact ⟨_, hd.advances (.reuse why s hs hw) rfl rfl rfl⟩
    · exact ⟨_, .start why hw, updates_beginRetrieval, rfl, rfl⟩
  | retrieving why =>
    obtain ⟨a, rfl, ⟨o, ho, rfl⟩ | ⟨ks, ha, -, rfl⟩⟩ := hgoes
    · exact ⟨_, .fail why a o i rfl ho, updates_leave, rfl, rfl⟩
    · exact ⟨_, .bring why a ks i rfl ha, updates_setPhase, rfl, rfl⟩
  | storing why s => exact ⟨_, Handed.advances hgoes (.store why s) rfl rfl rfl⟩
  | done => exact hgoes.elim

theorem Turn.come (ht : Turn policy d m d') (hi : d.caller? i = none) (hm : m.caller? = some i) :
    d' = d ∨ ∃ q, m = .arrive i q ∧ d' = { d with callers := Table.put i { query := q } d.callers } := by
  have hnobody {c : KeyCaller} {j : Nat} (hj : d.caller? j = some c) (hji : some j = some i) : False := by
    cases hji
    cases hi.symm.trans hj
  cases ht with
  | idle => exact .inl rfl
  | passed => cases hm
  | arrived j q =>
    cases hm
    exact .inr ⟨q, rfl, rfl⟩
  | found _ _ _ _ hj => exact (hnobody hj hm).elim
  | joined _ _ _ hj => exact (hnobody hj hm).elim
  | admitted _ _ _ hj => exact (hnobody hj hm).elim
  | reused _ _ _ _ _ hj => exact (hnobody hj hm).elim
  | began _ _ _ hj => exact (hnobody hj hm).elim
  | failed _ _ _ _ _ hj => exact (hnobody hj hm).elim
  | retrieved _ _ _ _ _ hj => exact (hnobody hj hm).elim
  | stored _ _ _ _ _ hj => exact (hnobody hj hm).elim

theorem Turn.forall {X : Nat → KeyCaller → Prop} (ht : Turn policy d m d') (hm : m.caller? = some i)
    (hX : ∀ j c, d.caller? j = some c → X j c) (hcome : ∀ q, m = .arrive i q → X i ⟨q, .reading⟩)
    (hnext : ∀ q p p', d.caller? i = some ⟨q, p⟩ → Next policy d q m p p' → X i ⟨q, p'⟩) :
    ∀ j c, d'.caller? j = some c → X j c := by
  cases hi : d.caller? i with
  | none =>
    rcases ht.come hi hm with rfl | ⟨q, hq, rfl⟩
    · exact hX
    · exact (updates_put i _ d).forall hX (hcome q hq)
  | some c =>
    obtain ⟨q, p⟩ := c
    rcases ht.next hi hm with ⟨-, rfl⟩ | ⟨p', h⟩
    · exact hX
    · exact h.updates.forall hX (hnext q p p' hi h.next)

def remaining (d : KeyDesk) (i : Nat) : Nat :=
  match d.caller? i with
  | some c => c.phase.remaining
  | none => 0

theorem remaining_eq (hi : d.caller? i = some ⟨q, p⟩) : d.remaining i = p.remaining := by
  rw [remaining, hi]

theorem remaining_phaseAfter (q : KeyQuery) (why : RefreshReason) (ks : KeySet) :
    (phaseAfter q why ks).remaining ≤ why.movesAfter := by
  unfold phaseAfter
  cases ha : q.reply? why ks with
  | some a => exact Nat.zero_le _
  | none =>
    have hwhy : why ≠ .unknownKey := by
      rintro rfl
      cases q <;> simp [KeyQuery.reply?] at ha
    cases why with
    | unknownKey => exact absurd rfl hwhy
    | expiry | ahead => exact Nat.le_refl 4

theorem Next.remaining_lt (h : Next policy d q m p p') : p'.remaining < p.remaining := by
  have hhanded (why : RefreshReason) (ks : KeySet) {n : Nat} (hn : why.movesAfter < n) :
      (phaseAfter q why ks).remaining < n :=
    Nat.lt_of_le_of_lt (remaining_phaseAfter q why ks) hn
  cases h with
  | join => split <;> exact Nat.lt_succ_self 8
  | find _ s => exact hhanded .expiry s.keys (by decide)
  | reuse why s => exact hhanded why s.keys (Nat.lt_add_of_pos_right (Nat.zero_lt_succ 2))
  | store why s => exact hhanded why s.keys (Nat.lt_succ_self _)
  | enter | start | bring => exact Nat.lt_succ_self _
  | fail => exact Nat.zero_lt_succ _

theorem Turn.remaining_lt (ht : Turn policy d m d') (hi : d.caller? i = some ⟨q, p⟩)
    (hm : m.caller? = some i) (hgo : ¬d.Ignores m) : d'.remaining i < d.remaining i := by
  rcases ht.next hi hm with ⟨hignores, -⟩ | ⟨p', h⟩
  · exact absurd hignores hgo
  · rw [remaining_eq hi, remaining_eq h.updates.self]
    exact h.next.remaining_lt

theorem Turn.sum_remaining_lt (ht : Turn policy d m d') (hk : k ∈ is)
    (hi : d.caller? k = some ⟨q, p⟩) (hm : m.caller? = some k) (hgo : ¬d.Ignores m) :
    (is.map d'.remaining).sum < (is.map d.remaining).sum := by
  have hless : d'.remaining k < d.remaining k := ht.remaining_lt hi hm hgo
  refine List.sum_lt_sum _ _ (fun i _ => ?_) ⟨k, hk, hless⟩
  by_cases hik : k = i
  · rw [← hik]
    exact Nat.le_of_lt hless
  · have hother : d'.caller? i = d.caller? i := ht.other (by rw [hm]; simpa using hik)
    rw [remaining, remaining, hother]

theorem InOrder.first_goesOn (h : d.InOrder) (hk : d.line.head? = some k) :
    ∃ q p, d.caller? k = some ⟨q, p⟩ ∧ p.IsQueued ∧ (d.isReady k = true ∨ d.isRetrieving k = true) := by
  obtain ⟨⟨q, p⟩, hc, hp⟩ := (h.mem_iff k).1 (List.mem_of_head? hk)
  refine ⟨q, p, hc, hp, ?_⟩
  cases p with
  | waiting => exact .inl (isReady_of_waiting hc hk)
  | checking => exact .inl (isReady_of_checking hc)
  | storing => exact .inl (isReady_of_storing hc)
  | retrieving why => exact .inr (isRetrieving_iff.2 ⟨q, why, hc⟩)
  | reading | done => exact hp.elim

/-- As long as a caller is not done, somebody can go on: it or the first in line. -/
theorem InOrder.goesOn (h : d.InOrder) (hi : d.caller? i = some ⟨q, p⟩) (hp : ∀ o, p ≠ .done o) :
    ∃ k q p, d.caller? k = some ⟨q, p⟩ ∧ (∀ o, p ≠ .done o) ∧
      (d.isReady k = true ∨ d.isRetrieving k = true) := by
  by_cases hread : p = .reading
  · refine ⟨i, q, p, hi, hp, .inl ?_⟩
    subst hread
    unfold caller? at hi
    simp [isReady, hi]
  · have hmem : i ∈ d.line := by
      refine (h.mem_iff i).2 ⟨_, hi, ?_⟩
      cases p with
      | reading => exact absurd rfl hread
      | done o => exact absurd rfl (hp o)
      | waiting | checking | retrieving | storing => trivial
    obtain ⟨k, hk⟩ := Option.ne_none_iff_exists'.1 (mt List.head?_eq_none_iff.1 (List.ne_nil_of_mem hmem))
    obtain ⟨q', p', hc, hqueued, hgo⟩ := h.first_goesOn hk
    refine ⟨k, q', p', hc, ?_, hgo⟩
    rintro o rfl
    exact hqueued

/-- Whoever has come is done. -/
def AtRest (d : KeyDesk) : Prop := ∀ j c, d.caller? j = some c → ∃ o, c.phase = .done o

theorem caller?_of_isReady (h : d.isReady i = true) : ∃ q p, d.caller? i = some ⟨q, p⟩ := by
  cases hi : d.caller? i with
  | none =>
    unfold caller? at hi
    simp [isReady, hi] at h
  | some c => exact ⟨c.query, c.phase, rfl⟩

theorem AtRest.isReady (h : d.AtRest) (i : Nat) : d.isReady i = false := by
  refine Bool.eq_false_iff.2 fun hready => ?_
  obtain ⟨q, p, hi⟩ := caller?_of_isReady hready
  obtain ⟨o, rfl⟩ : ∃ o, p = .done o := h i _ hi
  unfold caller? at hi
  simp [KeyDesk.isReady, hi] at hready

theorem AtRest.isRetrieving (h : d.AtRest) (i : Nat) : d.isRetrieving i = false := by
  refine Bool.eq_false_iff.2 fun hretrieving => ?_
  obtain ⟨q, why, hi⟩ := isRetrieving_iff.1 hretrieving
  obtain ⟨o, ho⟩ := h i _ hi
  cases ho

theorem InOrder.atRest (h : d.InOrder) (hidle : ∀ i, d.isReady i = false)
    (hlanded : ∀ i, d.isRetrieving i = false) : d.AtRest := by
  rintro j ⟨q, p⟩ hj
  by_contra hbusy
  obtain ⟨k, -, -, -, -, hready | hretrieving⟩ := h.goesOn hj fun o ho => hbusy ⟨o, ho⟩
  · rw [hidle k] at hready
    cases hready
  · rw [hlanded k] at hretrieving
    cases hretrieving

end KeyDesk
end BearerTrust

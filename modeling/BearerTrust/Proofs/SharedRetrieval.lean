import BearerTrust.Proofs.DeskHistory
import BearerTrust.Proofs.DeskProgress

namespace BearerTrust

namespace KeyPhase

def IsSeeking : KeyPhase → Prop
  | waiting why | checking why | retrieving why => why = .expiry
  | reading | storing _ _ | done _ => False

end KeyPhase

namespace KeyDesk

variable {d d' e : KeyDesk} {policy : KeyCachePolicy} {i k : Nat} {m : KeyMove} {ms : List KeyMove}
  {is failed shared rest : List Nat} {s : StoredKeys}

def retriever? (is : List Nat) (d : KeyDesk) : KeyMove → Option Nat
  | .answer i _ => if i ∈ is ∧ d.isRetrieving i then some i else none
  | _ => none

/-- Those callers whose retrievals end in a run, one after the other. -/
def retrievers (is : List Nat) (d : KeyDesk) : List KeyMove → List Nat
  | [] => []
  | m :: ms => (retriever? is d m).toList ++ retrievers is (d.apply m) ms

theorem retrievers_concat (is : List Nat) (d : KeyDesk) (ms : List KeyMove) (m : KeyMove) :
    retrievers is d (ms ++ [m]) = retrievers is d ms ++ (retriever? is (d.run ms) m).toList :=
  collected_concat (f := fun d m => (retriever? is d m).toList) (g := retrievers is) (fun _ => rfl)
    (fun _ _ _ => rfl) d ms m

theorem retrievers_same (he : e = d.run ms)
    (h : ∀ i ∈ is, ∀ a, m = .answer i a → e.isRetrieving i = false) :
    retrievers is d (ms ++ [m]) = retrievers is d ms := by
  have hnone : retriever? is e m = none := by
    cases m with
    | answer i a =>
      refine if_neg ?_
      rintro ⟨hi, hretrieving⟩
      rw [h i hi a rfl] at hretrieving
      cases hretrieving
    | pass | arrive | step => rfl
  rw [retrievers_concat, ← he, hnone]
  exact List.append_nil _

theorem retrievers_ended (he : e = d.run ms) (hk : k ∈ is) (hretrieving : e.isRetrieving k = true)
    {a : Except RetrievalError Bytes} (ha : m = .answer k a) :
    retrievers is d (ms ++ [m]) = retrievers is d ms ++ [k] := by
  have hsome : retriever? is e m = some k := by
    rw [ha]
    exact if_pos ⟨hk, hretrieving⟩
  rw [retrievers_concat, ← he, hsome]
  rfl

/-- Callers of the key set that are the first in line, and found no set or an expired one; no retrieval
of theirs has ended. -/
structure Gathered (d : KeyDesk) (is : List Nat) : Prop where
  line : is <+: d.line
  seeking : ∀ i ∈ is, ∃ p, d.caller? i = some ⟨.keys, p⟩ ∧ p.IsSeeking
  stale : ∀ s, d.stored = some s → s.expiresAt ≤ d.now

def Lost (policy : KeyCachePolicy) (d : KeyDesk) (ms : List KeyMove) (e : KeyDesk) (failed : List Nat) :
    Prop :=
  ∀ i ∈ failed, ∃ o, e.caller? i = some ⟨.keys, .done o⟩ ∧ Once d ms (Loses policy i o)

structure Seeking (policy : KeyCachePolicy) (d : KeyDesk) (ms : List KeyMove) (e : KeyDesk)
    (failed rest : List Nat) : Prop where
  line : rest <+: e.line
  lost : Lost policy d ms e failed
  seeking : ∀ i ∈ rest, ∃ p, e.caller? i = some ⟨.keys, p⟩ ∧ p.IsSeeking
  stale : rest ≠ [] → ∀ s, e.stored = some s → s.expiresAt ≤ e.now
  count : retrievers (failed ++ rest) d ms = failed

structure Storing (policy : KeyCachePolicy) (d : KeyDesk) (ms : List KeyMove) (e : KeyDesk)
    (failed : List Nat) (k : Nat) (s : StoredKeys) (rest : List Nat) : Prop where
  line : k :: rest <+: e.line
  lost : Lost policy d ms e failed
  storing : e.caller? k = some ⟨.keys, .storing .expiry s⟩
  retrieved : Once d ms (Retrieves policy k s)
  waiting : ∀ i ∈ rest, e.caller? i = some ⟨.keys, .waiting .expiry⟩
  count : retrievers (failed ++ k :: rest) d ms = failed ++ [k]

structure Sharing (policy : KeyCachePolicy) (d : KeyDesk) (ms : List KeyMove) (e : KeyDesk)
    (failed : List Nat) (k : Nat) (s : StoredKeys) (shared rest : List Nat) : Prop where
  line : rest <+: e.line
  lost : Lost policy d ms e failed
  retrieved : Once d ms (Retrieves policy k s)
  served : ∀ i ∈ k :: shared, e.caller? i = some ⟨.keys, .done (.answer (.keys s.keys))⟩
  seeking : ∀ i ∈ rest, e.caller? i = some ⟨.keys, .waiting .expiry⟩ ∨
    e.caller? i = some ⟨.keys, .checking .expiry⟩
  stored : rest ≠ [] → e.stored = some s
  count : retrievers (failed ++ k :: shared ++ rest) d ms = failed ++ [k]

inductive Course (policy : KeyCachePolicy) (d : KeyDesk) (ms : List KeyMove) (e : KeyDesk) :
    List Nat → Prop
  | seeking {failed rest : List Nat} (h : Seeking policy d ms e failed rest) :
      Course policy d ms e (failed ++ rest)
  | storing {failed : List Nat} {k : Nat} {s : StoredKeys} {rest : List Nat}
      (h : Storing policy d ms e failed k s rest) : Course policy d ms e (failed ++ k :: rest)
  | sharing {failed : List Nat} {k : Nat} {s : StoredKeys} {shared rest : List Nat}
      (h : Sharing policy d ms e failed k s shared rest) :
      Course policy d ms e (failed ++ k :: shared ++ rest)

theorem Lost.turn (h : Lost policy d ms e failed) (ht : Turn policy e m d') :
    Lost policy d (ms ++ [m]) d' failed := by
  intro i hi
  obtain ⟨o, hdone, ho⟩ := h i hi
  exact ⟨o, ht.done hdone, ho.append [m]⟩

theorem Lost.not_retrieving (h : Lost policy d ms e failed) (hi : i ∈ failed) :
    e.isRetrieving i = false := by
  obtain ⟨o, hdone, -⟩ := h i hi
  exact isRetrieving_eq_false hdone (fun _ => nofun)

theorem erase_first (h : k :: rest <+: e.line) : rest <+: e.line.erase k := by
  obtain ⟨others, h⟩ := h
  refine ⟨others, ?_⟩
  rw [← h, List.cons_append, List.erase_cons_head]

theorem head_line (h : k :: rest <+: e.line) : e.line.head? = some k := by
  obtain ⟨others, h⟩ := h
  rw [← h]
  rfl

theorem InOrder.not_retrieving (ho : e.InOrder) (hk : e.line.head? = some k) (hm : m.caller? ≠ some k)
    (i : Nat) (a : Except RetrievalError Bytes) (ha : m = .answer i a) : e.isRetrieving i = false := by
  refine Bool.eq_false_iff.2 fun h => ?_
  obtain ⟨q, why, hi⟩ := isRetrieving_iff.1 h
  rw [ho.first i _ hi trivial] at hk
  apply hm
  rw [ha, ← hk]
  rfl

theorem not_retrieving_own {q : KeyQuery} {p : KeyPhase} (hk : e.caller? k = some ⟨q, p⟩)
    (hp : ∀ why, p ≠ .retrieving why) (hm : m.caller? = some k) (i : Nat)
    (a : Except RetrievalError Bytes) (ha : m = .answer i a) : e.isRetrieving i = false := by
  rw [ha] at hm
  cases hm
  exact isRetrieving_eq_false hk hp

theorem Seeking.fail {why : RefreshReason} {o : KeyOutcome} (he : e = d.run ms) (ho : e.InOrder)
    (h : Seeking policy d ms e failed (k :: rest)) (hloses : Loses policy k o e m)
    (hd : d' = (e.leaveLine k).finish k ⟨.keys, .retrieving why⟩ o) (ht : Turn policy e m d') :
    Seeking policy d (ms ++ [m]) d' (failed ++ [k]) rest where
  line := by
    rw [hd]
    exact erase_first h.line
  lost := by
    intro i hi
    rcases List.mem_append.1 hi with hi | hi
    · exact h.lost.turn ht i hi
    · obtain rfl : i = k := List.mem_singleton.1 hi
      rw [hd]
      exact ⟨o, updates_leave.self, .last (he ▸ hloses)⟩
  seeking i hi := by
    rw [ht.tail ho h.line hi]
    exact h.seeking i (List.mem_cons_of_mem k hi)
  stale _ s hs := by
    have hstored : d'.stored = e.stored := by rw [hd]; rfl
    rw [hstored] at hs
    exact Nat.le_trans (h.stale (List.cons_ne_nil _ _) s hs) ht.now_le
  count := by
    obtain ⟨hretrieving, a, ha, -⟩ := hloses
    rw [← List.append_cons, retrievers_ended he (by simp) hretrieving ha, h.count]

theorem Seeking.bring {why : RefreshReason} (he : e = d.run ms) (ho : e.InOrder)
    (h : Seeking policy d ms e failed (k :: rest)) (hbrings : Retrieves policy k s e m)
    (hd : d' = e.setPhase k ⟨.keys, .retrieving why⟩ (.storing .expiry s)) (ht : Turn policy e m d') :
    Storing policy d (ms ++ [m]) d' failed k s rest where
  line := by
    rw [hd]
    exact h.line
  lost := h.lost.turn ht
  storing := by
    rw [hd]
    exact updates_setPhase.self
  retrieved := .last (he ▸ hbrings)
  waiting i hi := by
    obtain ⟨p, hp, hseeks⟩ := h.seeking i (List.mem_cons_of_mem k hi)
    have hfirst : e.line.head? ≠ some i := ho.not_first h.line hi
    rw [ht.tail ho h.line hi, hp]
    cases p with
    | waiting why' => rw [show why' = .expiry from hseeks]
    | checking | retrieving => exact absurd (ho.first i _ hp trivial) hfirst
    | reading | storing | done => exact hseeks.elim
  count := by
    obtain ⟨hretrieving, -, -, body, ha, -⟩ := hbrings
    rw [retrievers_ended he (by simp) hretrieving ha, h.count]

theorem Seeking.turn (he : e = d.run ms) (ho : e.InOrder) (h : Seeking policy d ms e failed rest)
    (ht : Turn policy e m d') : Course policy d (ms ++ [m]) d' (failed ++ rest) := by
  have hlost := h.lost.turn ht
  cases rest with
  | nil =>
    have hidle : ∀ i ∈ failed ++ [], ∀ a, m = .answer i a → e.isRetrieving i = false := by
      intro i hi _ _
      rw [List.append_nil] at hi
      exact h.lost.not_retrieving hi
    exact .seeking ⟨List.nil_prefix, hlost, nofun, fun hne => absurd rfl hne,
      (retrievers_same he hidle).trans h.count⟩
  | cons k rest =>
    have hhead : e.line.head? = some k := head_line h.line
    obtain ⟨p, hk, hp⟩ := h.seeking k List.mem_cons_self
    have hstay {p' : KeyPhase} (hk' : d'.caller? k = some ⟨.keys, p'⟩) (hp' : p'.IsSeeking)
        (hline : e.line <+: d'.line) (hstored : d'.stored = e.stored)
        (hidle : ∀ i a, m = .answer i a → e.isRetrieving i = false) :
        Course policy d (ms ++ [m]) d' (failed ++ k :: rest) := by
      refine .seeking ⟨h.line.trans hline, hlost, ?_, ?_, ?_⟩
      · intro i hi
        rcases List.mem_cons.1 hi with rfl | hi
        · exact ⟨p', hk', hp'⟩
        · rw [ht.tail ho h.line hi]
          exact h.seeking i (List.mem_cons_of_mem k hi)
      · intro hne s hs
        rw [hstored] at hs
        exact Nat.le_trans (h.stale hne s hs) ht.now_le
      · rw [retrievers_same he (fun i _ => hidle i)]
        exact h.count
    by_cases hm : m.caller? = some k
    · cases p with
      | reading | storing | done => exact hp.elim
      | waiting why =>
        cases hp
        have hidle := not_retrieving_own hk (fun _ => nofun) hm
        rcases ht.own hk hm with ⟨-, rfl⟩ | ⟨-, rfl⟩
        · exact hstay hk rfl List.prefix_rfl rfl hidle
        · exact hstay updates_setPhase.self rfl List.prefix_rfl rfl hidle
      | checking why =>
        cases hp
        have hidle := not_retrieving_own hk (fun _ => nofun) hm
        rcases ht.own hk hm with ⟨-, rfl⟩ | ⟨s, hs, hw, -⟩ | ⟨-, rfl⟩
        · exact hstay hk rfl List.prefix_rfl rfl hidle
        · have hexpires : e.now < s.expiresAt := of_decide_eq_true hw
          exact absurd hexpires (Nat.not_lt.2 (h.stale (List.cons_ne_nil _ _) s hs))
        · exact hstay updates_beginRetrieval.self rfl List.prefix_rfl rfl hidle
      | retrieving why =>
        cases hp
        rcases ht.of_retrieving hk hm with ⟨hignores, rfl⟩ | ⟨o, hlose, rfl⟩ | ⟨s, hbring, rfl⟩
        · refine hstay hk rfl List.prefix_rfl rfl ?_
          rintro i a rfl
          exact hignores
        · rw [List.append_cons failed]
          exact .seeking (h.fail he ho hlose rfl ht)
        · exact .storing (h.bring he ho hbring rfl ht)
    · obtain ⟨hstored, hline⟩ := ht.beside ho hhead hm
      exact hstay (by rw [ht.other hm, hk]) hp hline hstored (ho.not_retrieving hhead hm)

theorem Storing.turn (he : e = d.run ms) (ho : e.InOrder) (h : Storing policy d ms e failed k s rest)
    (ht : Turn policy e m d') : Course policy d (ms ++ [m]) d' (failed ++ k :: rest) := by
  have hlost := h.lost.turn ht
  have hhead : e.line.head? = some k := head_line h.line
  have hwaiting : ∀ i ∈ rest, d'.caller? i = some ⟨.keys, .waiting .expiry⟩ := by
    intro i hi
    rw [ht.tail ho h.line hi]
    exact h.waiting i hi
  have hcount (hidle : ∀ i a, m = .answer i a → e.isRetrieving i = false) :
      retrievers (failed ++ k :: rest) d (ms ++ [m]) = failed ++ [k] := by
    rw [retrievers_same he (fun i _ => hidle i)]
    exact h.count
  by_cases hm : m.caller? = some k
  · have hidle := not_retrieving_own h.storing (fun _ => nofun) hm
    rcases ht.own h.storing hm with ⟨-, rfl⟩ | hd
    · exact .storing ⟨h.line, hlost, h.storing, h.retrieved.append [m], hwaiting, hcount hidle⟩
    · have hserved : d'.caller? k = some ⟨.keys, .done (.answer (.keys s.keys))⟩ := hd.updates.self
      have hstored : d'.stored = some s := hd.stored
      have hline : e.line.erase k <+: d'.line := hd.line
      have hall : failed ++ k :: rest = failed ++ k :: [] ++ rest := by simp
      rw [hall]
      refine .sharing ⟨(erase_first h.line).trans hline, hlost, h.retrieved.append [m], ?_,
        fun i hi => .inl (hwaiting i hi), fun _ => hstored, ?_⟩
      · intro i hi
        obtain rfl : i = k := List.mem_singleton.1 hi
        exact hserved
      · rw [← hall]
        exact hcount hidle
  · obtain ⟨hstored, hline⟩ := ht.beside ho hhead hm
    exact .storing ⟨h.line.trans hline, hlost, by rw [ht.other hm, h.storing], h.retrieved.append [m],
      hwaiting, hcount (ho.not_retrieving hhead hm)⟩

theorem Sharing.not_retrieving (h : Sharing policy d ms e failed k s shared rest)
    (hi : i ∈ failed ++ k :: shared ++ rest) : e.isRetrieving i = false := by
  rcases List.mem_append.1 hi with hi | hi
  · rcases List.mem_append.1 hi with hi | hi
    · exact h.lost.not_retrieving hi
    · exact isRetrieving_eq_false (h.served i hi) (fun _ => nofun)
  · rcases h.seeking i hi with hi | hi
    · exact isRetrieving_eq_false hi (fun _ => nofun)
    · exact isRetrieving_eq_false hi (fun _ => nofun)

theorem Sharing.turn (he : e = d.run ms) (ho : e.InOrder) (hfresh : e.now < s.expiresAt)
    (h : Sharing policy d ms e failed k s shared rest) (ht : Turn policy e m d') :
    Course policy d (ms ++ [m]) d' (failed ++ k :: shared ++ rest) := by
  have hlost := h.lost.turn ht
  have hserved : ∀ i ∈ k :: shared, d'.caller? i = some ⟨.keys, .done (.answer (.keys s.keys))⟩ :=
    fun i hi => ht.done (h.served i hi)
  have hcount : retrievers (failed ++ k :: shared ++ rest) d (ms ++ [m]) = failed ++ [k] := by
    rw [retrievers_same he (fun i hi _ _ => h.not_retrieving hi)]
    exact h.count
  cases rest with
  | nil => exact .sharing ⟨List.nil_prefix, hlost, h.retrieved.append [m], hserved, nofun,
      fun hne => absurd rfl hne, hcount⟩
  | cons j rest =>
    have hhead : e.line.head? = some j := head_line h.line
    have htail : ∀ i ∈ rest, d'.caller? i = some ⟨.keys, .waiting .expiry⟩ ∨
        d'.caller? i = some ⟨.keys, .checking .expiry⟩ := by
      intro i hi
      rw [ht.tail ho h.line hi]
      exact h.seeking i (List.mem_cons_of_mem j hi)
    have hstored : e.stored = some s := h.stored (List.cons_ne_nil _ _)
    have hstay (hj : d'.caller? j = some ⟨.keys, .waiting .expiry⟩ ∨
        d'.caller? j = some ⟨.keys, .checking .expiry⟩) (hline : e.line <+: d'.line)
        (hs : d'.stored = e.stored) :
        Course policy d (ms ++ [m]) d' (failed ++ k :: shared ++ j :: rest) := by
      refine .sharing ⟨h.line.trans hline, hlost, h.retrieved.append [m], hserved, ?_,
        fun _ => hs.trans hstored, hcount⟩
      intro i hi
      rcases List.mem_cons.1 hi with rfl | hi
      · exact hj
      · exact htail i hi
    by_cases hm : m.caller? = some j
    · rcases h.seeking j List.mem_cons_self with hj | hj
      · rcases ht.own hj hm with ⟨-, rfl⟩ | ⟨-, rfl⟩
        · exact hstay (.inl hj) List.prefix_rfl rfl
        · exact hstay (.inr updates_setPhase.self) List.prefix_rfl rfl
      · rcases ht.own hj hm with ⟨-, rfl⟩ | ⟨s', hs', -, hd⟩ | ⟨hw, -⟩
        · exact hstay (.inr hj) List.prefix_rfl rfl
        · cases hstored.symm.trans hs'
          have hj' : d'.caller? j = some ⟨.keys, .done (.answer (.keys s.keys))⟩ := hd.updates.self
          have hline : e.line.erase j <+: d'.line := hd.line
          have hall : failed ++ k :: shared ++ j :: rest = failed ++ k :: (shared ++ [j]) ++ rest := by
            simp
          rw [hall]
          refine .sharing ⟨(erase_first h.line).trans hline, hlost, h.retrieved.append [m], ?_, htail,
            fun _ => hd.stored.trans hstored, ?_⟩
          · intro i hi
            rcases List.mem_append.1 (List.cons_append ▸ hi) with hi | hi
            · exact hserved i hi
            · obtain rfl : i = j := List.mem_singleton.1 hi
              exact hj'
          · rw [← hall]
            exact hcount
        · have hunsettled : RefreshReason.expiry.isSettledBy policy e.now s = false := hw s hstored
          exact absurd hfresh (of_decide_eq_false hunsettled)
    · obtain ⟨hs, hline⟩ := ht.beside ho hhead hm
      refine hstay ?_ hline hs
      rw [ht.other hm]
      exact h.seeking j List.mem_cons_self

def Fresh (policy : KeyCachePolicy) (d : KeyDesk) (is : List Nat) (ms : List KeyMove) : Prop :=
  ∀ i ∈ is, ∀ s, Once d ms (Retrieves policy i s) → (d.run ms).now < s.expiresAt

theorem course_run (hc : d.source.cache = some policy) (horder : ∀ ms, (d.run ms).InOrder)
    (hg : Gathered d is) (ms : List KeyMove) (hfresh : Fresh policy d is ms) :
    Course policy d ms (d.run ms) is := by
  refine run_invariant (P := fun ms e =>
    (∀ i ∈ is, ∀ s, Once d ms (Retrieves policy i s) → e.now < s.expiresAt) → Course policy d ms e is)
    hc (fun _ => ?_) ?_ ms hfresh
  · have h : Seeking policy d [] d [] is := ⟨hg.line, nofun, hg.seeking, fun _ => hg.stale, rfl⟩
    exact .seeking h
  · intro ms m d' ih ht hfresh'
    have hfresh : Fresh policy d is ms :=
      fun i hi s hs => Nat.lt_of_le_of_lt ht.now_le (hfresh' i hi s (hs.append [m]))
    cases ih hfresh with
    | seeking h => exact h.turn rfl (horder ms) ht
    | storing h => exact h.turn rfl (horder ms) ht
    | sharing h => exact h.turn rfl (horder ms) (hfresh _ (by simp) _ h.retrieved) ht

theorem Course.goesOn (h : Course policy d ms e is) (hi : i ∈ is) (hnone : e.outcome? i = none)
    (answers : Nat → Except RetrievalError Bytes) :
    ∃ k ∈ is, ∃ p m, e.caller? k = some ⟨.keys, p⟩ ∧ (m = .step k ∨ m = .answer k (answers k)) ∧
      ¬e.Ignores m := by
  have hpending {q : KeyQuery} {o : KeyOutcome} (hdone : e.caller? i = some ⟨q, .done o⟩) : False := by
    rw [outcome?_eq_some_iff.2 ⟨q, hdone⟩] at hnone
    cases hnone
  have hready {k : Nat} {p : KeyPhase} (hk : k ∈ is) (hc : e.caller? k = some ⟨.keys, p⟩)
      (hready : e.isReady k = true) : ∃ k ∈ is, ∃ p m, e.caller? k = some ⟨.keys, p⟩ ∧
        (m = .step k ∨ m = .answer k (answers k)) ∧ ¬e.Ignores m :=
    ⟨k, hk, p, .step k, hc, .inl rfl, by simp [Ignores, hready]⟩
  cases h with
  | @seeking failed rest h =>
    cases rest with
    | nil =>
      rw [List.append_nil] at hi
      obtain ⟨o, hdone, -⟩ := h.lost i hi
      exact (hpending hdone).elim
    | cons k rest =>
      obtain ⟨p, hk, hp⟩ := h.seeking k List.mem_cons_self
      cases p with
      | waiting => exact hready (by simp) hk (isReady_of_waiting hk (head_line h.line))
      | checking => exact hready (by simp) hk (isReady_of_checking hk)
      | retrieving why =>
        have hretrieving : e.isRetrieving k = true := isRetrieving_iff.2 ⟨_, _, hk⟩
        exact ⟨k, by simp, _, .answer k (answers k), hk, .inr rfl, by simp [Ignores, hretrieving]⟩
      | reading | storing | done => exact hp.elim
  | storing h => exact hready (by simp) h.storing (isReady_of_storing h.storing)
  | @sharing failed k s shared rest h =>
    cases rest with
    | nil =>
      rw [List.append_nil] at hi
      rcases List.mem_append.1 hi with hi | hi
      · obtain ⟨o, hdone, -⟩ := h.lost i hi
        exact (hpending hdone).elim
      · exact (hpending (h.served i hi)).elim
    | cons j rest =>
      rcases h.seeking j List.mem_cons_self with hj | hj
      · exact hready (by simp) hj (isReady_of_waiting hj (head_line h.line))
      · exact hready (by simp) hj (isReady_of_checking hj)

theorem Fresh.concat (hlife : 0 < policy.lifespan) (h : Fresh policy d is ms)
    (hnow : ((d.run ms).apply m).now = (d.run ms).now) : Fresh policy d is (ms ++ [m]) := by
  intro i hi s hs
  rw [run_concat, hnow]
  rcases hs.before_or_last with hs | ⟨-, -, hexpires, -⟩
  · exact h i hi s hs
  · rw [hexpires]
    exact Nat.lt_add_of_pos_right hlife

theorem Gathered.ends (hc : d.source.cache = some policy) (horder : ∀ ms, (d.run ms).InOrder)
    (hlife : 0 < policy.lifespan) (hg : Gathered d is) (hfresh : Fresh policy d is ms)
    (answers : Nat → Except RetrievalError Bytes) :
    ∃ more, (∀ m ∈ more, ∃ k ∈ is, m = .step k ∨ m = .answer k (answers k)) ∧
      ∀ i ∈ is, (d.run (ms ++ more)).outcome? i ≠ none := by
  induction hn : (is.map (d.run ms).remaining).sum using Nat.strong_induction_on generalizing ms with
  | _ n ih =>
    by_cases hdone : ∃ i ∈ is, (d.run ms).outcome? i = none
    · obtain ⟨i, hi, hnone⟩ := hdone
      have hcourse : Course policy d ms (d.run ms) is := course_run hc horder hg ms hfresh
      obtain ⟨k, hk, p, m, hcaller, hm, hgo⟩ := hcourse.goesOn hi hnone answers
      have hmk : m.caller? = some k := by rcases hm with rfl | rfl <;> rfl
      have ht : Turn policy (d.run ms) m ((d.run ms).apply m) :=
        turn_apply (by rw [run_source hc, hc]) m
      have hless : (is.map (d.run (ms ++ [m])).remaining).sum < n := by
        rw [← hn, run_concat]
        exact ht.sum_remaining_lt hk hcaller hmk hgo
      obtain ⟨more, hmore, hends⟩ := ih _ hless (hfresh.concat hlife (ht.now_eq hmk)) rfl
      refine ⟨m :: more, ?_, ?_⟩
      · exact List.forall_mem_cons.2 ⟨⟨k, hk, hm⟩, hmore⟩
      · rw [List.append_cons]
        exact hends
    · refine ⟨[], fun _ h => absurd h List.not_mem_nil, fun i hi hnone => hdone ⟨i, hi, ?_⟩⟩
      rw [List.append_nil] at hnone
      exact hnone

/-- What comes of it: first some callers retrieve in vain, each for itself and one after the other; then
one more retrieves a set, which it and all the others receive. -/
structure Shares (policy : KeyCachePolicy) (d : KeyDesk) (ms : List KeyMove) (failed sharing : List Nat) :
    Prop where
  retrievers : retrievers (failed ++ sharing) d ms = failed ++ sharing.take 1
  failures : ∀ i ∈ failed, ∃ o, (d.run ms).outcome? i = some o ∧ Once d ms (Loses policy i o)
  shared : sharing ≠ [] → ∃ k s, sharing.head? = some k ∧ Once d ms (Retrieves policy k s) ∧
    ∀ i ∈ sharing, (d.run ms).outcome? i = some (.answer (.keys s.keys))

theorem Lost.outcome (h : Lost policy d ms e failed) (hi : i ∈ failed) :
    ∃ o, e.outcome? i = some o ∧ Once d ms (Loses policy i o) := by
  obtain ⟨o, hdone, ho⟩ := h i hi
  exact ⟨o, outcome?_eq_some_iff.2 ⟨_, hdone⟩, ho⟩

theorem Course.shares (h : Course policy d ms (d.run ms) is)
    (hdone : ∀ i ∈ is, (d.run ms).outcome? i ≠ none) :
    ∃ failed sharing, is = failed ++ sharing ∧ Shares policy d ms failed sharing := by
  have hbusy {i : Nat} {p : KeyPhase} (hi : i ∈ is) (hc : (d.run ms).caller? i = some ⟨.keys, p⟩)
      (hp : ∀ o, p ≠ .done o) : False := by
    obtain ⟨o, ho⟩ := Option.ne_none_iff_exists'.1 (hdone i hi)
    obtain ⟨q, hc'⟩ := outcome?_eq_some_iff.1 ho
    cases hc.symm.trans hc'
    exact hp o rfl
  cases h with
  | @seeking failed rest h =>
    cases rest with
    | nil => exact ⟨failed, [], rfl, h.count.trans (by simp), fun i hi => h.lost.outcome hi, nofun⟩
    | cons k rest =>
      obtain ⟨p, hk, hp⟩ := h.seeking k List.mem_cons_self
      refine (hbusy (by simp) hk ?_).elim
      rintro o rfl
      exact hp
  | storing h => exact (hbusy (by simp) h.storing (fun _ => nofun)).elim
  | @sharing failed k s shared rest h =>
    cases rest with
    | nil =>
      refine ⟨failed, k :: shared, List.append_nil _, ?_, fun i hi => h.lost.outcome hi, fun _ => ?_⟩
      · rw [← List.append_nil (failed ++ k :: shared)]
        exact h.count
      · exact ⟨k, s, rfl, h.retrieved, fun i hi => outcome?_eq_some_iff.2 ⟨_, h.served i hi⟩⟩
    | cons j rest =>
      rcases h.seeking j List.mem_cons_self with hj | hj
      · exact (hbusy (by simp) hj (fun _ => nofun)).elim
      · exact (hbusy (by simp) hj (fun _ => nofun)).elim

/-- Callers that find no current set at the same time share the first retrieval that does not fail, as
long as its set does not expire before the last of them looks. None of them is left waiting: whatever
has happened, they end by their own steps and the answers to them. -/
theorem gathered_share (url : Url) (policy : KeyCachePolicy) (now : Instant) (before ms : List KeyMove)
    (is : List Nat) (hd : (opened url policy now).run before = d) (hlife : 0 < policy.lifespan)
    (hg : Gathered d is) (hfresh : Fresh policy d is ms) :
    (∀ answers : Nat → Except RetrievalError Bytes, ∃ more,
        (∀ m ∈ more, ∃ k ∈ is, m = .step k ∨ m = .answer k (answers k)) ∧
        ∀ i ∈ is, (d.run (ms ++ more)).outcome? i ≠ none) ∧
      ((∀ i ∈ is, (d.run ms).outcome? i ≠ none) →
        ∃ failed sharing, is = failed ++ sharing ∧ Shares policy d ms failed sharing) := by
  have hcache : d.source.cache = some policy := by
    rw [← hd]
    exact cache_run url policy now before
  have horder (ms : List KeyMove) : (d.run ms).InOrder := by
    rw [← hd, ← run_append]
    exact run_inOrder url policy now _
  exact ⟨hg.ends hcache horder hlife hfresh, (course_run hcache horder hg ms hfresh).shares⟩

end KeyDesk

namespace Sample

open KeyDesk

def pair : List KeyMove := [.arrive 0 .keys, .arrive 1 .keys, .step 0, .step 1, .step 0, .step 0]

theorem pair_gathered : Gathered ((opened keysUrl quarterHour 0).run pair) [0, 1] where
  line := List.prefix_rfl
  seeking := by
    intro i hi
    rcases List.mem_cons.1 hi with rfl | hi
    · exact ⟨.retrieving .expiry, by rfl, rfl⟩
    · obtain rfl := List.mem_singleton.1 hi
      exact ⟨.waiting .expiry, by rfl, rfl⟩
  stale := nofun

def sharedAnswer : List KeyMove := [.answer 0 (.ok noKeys), .step 0, .step 1, .step 1]

theorem gathered_share_pair :
    0 < quarterHour.lifespan ∧ Gathered ((opened keysUrl quarterHour 0).run pair) [0, 1] ∧
      (∀ i ∈ [0, 1], (((opened keysUrl quarterHour 0).run pair).run sharedAnswer).outcome? i =
        some (.answer (.keys []))) ∧
      ∃ failed sharing, [0, 1] = failed ++ sharing ∧
        Shares quarterHour ((opened keysUrl quarterHour 0).run pair) sharedAnswer failed sharing := by
  have houtcome : ∀ i ∈ [0, 1], (((opened keysUrl quarterHour 0).run pair).run sharedAnswer).outcome? i =
      some (.answer (.keys [])) := by
    decide +kernel
  have hnow : (((opened keysUrl quarterHour 0).run pair).run sharedAnswer).now = 0 := by decide +kernel
  refine ⟨by decide, pair_gathered, houtcome,
    (gathered_share keysUrl quarterHour 0 pair sharedAnswer [0, 1] rfl (by decide) pair_gathered ?_).2
      ?_⟩
  · rintro i - s ⟨before, m, after, -, -, -, hexpires, -⟩
    rw [hnow, hexpires]
    exact Nat.lt_of_lt_of_le (by decide) (Nat.le_add_left quarterHour.lifespan _)
  · intro i hi
    rw [houtcome i hi]
    exact nofun

def refusedTwice : List KeyMove :=
  [.answer 0 (.error (.errorStatus keysUrl 500)), .step 1, .step 1,
    .answer 1 (.error (.errorStatus keysUrl 500))]

/-- Two callers, two retrievals. -/
theorem failure_repeated :
    Gathered ((opened keysUrl quarterHour 0).run pair) [0, 1] ∧
      retrievers [0, 1] ((opened keysUrl quarterHour 0).run pair) refusedTwice = [0, 1] ∧
      ∀ i ∈ [0, 1], (((opened keysUrl quarterHour 0).run pair).run refusedTwice).outcome? i =
        some (.failure (.retrieval (.errorStatus keysUrl 500))) :=
  ⟨pair_gathered, by decide +kernel, by decide +kernel⟩

end Sample
end BearerTrust

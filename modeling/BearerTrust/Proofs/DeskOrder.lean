import BearerTrust.Proofs.DeskMoves

namespace BearerTrust

namespace KeyPhase

def IsQueued : KeyPhase → Prop
  | waiting _ | checking _ | retrieving _ | storing _ _ => True
  | reading | done _ => False

def IsHolding : KeyPhase → Prop
  | checking _ | retrieving _ | storing _ _ => True
  | reading | waiting _ | done _ => False

theorem IsHolding.isQueued {p : KeyPhase} (h : p.IsHolding) : p.IsQueued := by
  cases p with
  | reading | waiting | done => exact h.elim
  | checking | retrieving | storing => trivial

end KeyPhase

namespace KeyDesk

variable {d d' : KeyDesk} {policy : KeyCachePolicy} {i j : Nat} {c : KeyCaller} {q : KeyQuery}
  {p : KeyPhase} {why : RefreshReason} {ks : KeySet} {m : KeyMove}

/-- The line holds each caller once that waits for the lock or has it, and who has it stands first. -/
structure InOrder (d : KeyDesk) : Prop where
  nodup : d.line.Nodup
  mem_iff : ∀ i, i ∈ d.line ↔ ∃ c, d.caller? i = some c ∧ c.phase.IsQueued
  first : ∀ i c, d.caller? i = some c → c.phase.IsHolding → d.line.head? = some i

theorem InOrder.holder_unique (h : d.InOrder) {b c : KeyCaller} (hi : d.caller? i = some b)
    (hb : b.phase.IsHolding) (hj : d.caller? j = some c) (hc : c.phase.IsHolding) : i = j :=
  Option.some.inj ((h.first i b hi hb).symm.trans (h.first j c hj hc))

theorem InOrder.goOn (h : d.InOrder) (hu : Updates d i c d') (hl : d'.line = d.line)
    (hfirst : d.line.head? = some i) (hc : c.phase.IsQueued) : d'.InOrder where
  nodup := by
    rw [hl]
    exact h.nodup
  mem_iff j := by
    rw [hl]
    by_cases hj : j = i
    · subst hj
      have hmem : j ∈ d.line := List.mem_of_head? hfirst
      simp [hmem, hu.self, hc]
    · rw [hu.other hj]
      exact h.mem_iff j
  first j b hj hb := by
    rw [hl]
    by_cases hji : j = i
    · rw [hji]
      exact hfirst
    · rw [hu.other hji] at hj
      exact h.first j b hj hb

theorem InOrder.first_erase (h : d.InOrder) (hij : j ≠ i) {b : KeyCaller} (hj : d.caller? j = some b)
    (hb : b.phase.IsHolding) : (d.line.erase i).head? = some j := by
  have hfirst := h.first j b hj hb
  cases hl : d.line with
  | nil => rw [hl] at hfirst; cases hfirst
  | cons k l =>
    rw [hl] at hfirst
    obtain rfl : k = j := Option.some.inj hfirst
    rw [List.erase_cons_tail (by simpa using hij)]
    rfl

theorem InOrder.leave (h : d.InOrder) (hu : Updates d i c d') (hl : d'.line = d.line.erase i)
    (hc : ¬c.phase.IsQueued) : d'.InOrder where
  nodup := by
    rw [hl]
    exact h.nodup.erase i
  mem_iff j := by
    rw [hl, h.nodup.mem_erase_iff, h.mem_iff, hu j]
    by_cases hj : j = i
    · simp [hj, hc]
    · simp [hj]
  first j b hj hb := by
    rw [hl]
    by_cases hji : j = i
    · subst hji
      obtain rfl : c = b := Option.some.inj (hu.self.symm.trans hj)
      exact absurd hb.isQueued hc
    · rw [hu.other hji] at hj
      exact h.first_erase hji hj hb

theorem InOrder.toEnd (h : d.InOrder) (hu : Updates d i ⟨q, .waiting why⟩ d')
    (hl : d'.line = d.line.erase i ++ [i]) : d'.InOrder where
  nodup := by
    rw [hl]
    refine List.nodup_append.2 ⟨h.nodup.erase i, by simp, ?_⟩
    rintro j hj _ hi rfl
    obtain rfl := List.mem_singleton.1 hi
    exact (h.nodup.mem_erase_iff.1 hj).1 rfl
  mem_iff j := by
    rw [hl, List.mem_append, h.nodup.mem_erase_iff, h.mem_iff, hu j]
    by_cases hj : j = i
    · simp [hj, KeyPhase.IsQueued]
    · simp [hj]
  first j b hj hb := by
    by_cases hji : j = i
    · subst hji
      obtain rfl : ⟨q, .waiting why⟩ = b := Option.some.inj (hu.self.symm.trans hj)
      exact hb.elim
    · rw [hu.other hji] at hj
      rw [hl, List.head?_append, h.first_erase hji hj hb]
      rfl

theorem Handed.inOrder {e : KeyDesk} (hd : Handed e i q p why ks d') (h : d.InOrder)
    (hcallers : e.callers = d.callers) (hl : e.line = d.line.erase i) : d'.InOrder := by
  have hcaller : e.caller? = d.caller? := by
    funext j
    rw [caller?, caller?, hcallers]
  have hupdates {c : KeyCaller} (hu : Updates e i c d') : Updates d i c d' := by
    intro j
    rw [hu j, hcaller]
  cases hd with
  | answered a => exact h.leave (hupdates updates_setPhase) hl (fun hq => hq)
  | again => exact h.toEnd (hupdates updates_enterLine) (congrArg (· ++ [i]) hl)

theorem InOrder.erase_of_not_queued (h : d.InOrder) (hi : d.caller? i = some ⟨q, p⟩)
    (hp : ¬p.IsQueued) : d.line.erase i = d.line := by
  refine List.erase_of_not_mem fun hmem => ?_
  obtain ⟨c, hc, hq⟩ := (h.mem_iff i).1 hmem
  obtain rfl : c = ⟨q, p⟩ := Option.some.inj (hc.symm.trans hi)
  exact hp hq

theorem Turn.inOrder (h : d.InOrder) (ht : Turn policy d m d') : d'.InOrder := by
  cases ht with
  | idle => exact h
  | passed => exact ⟨h.nodup, h.mem_iff, h.first⟩
  | arrived i q hi =>
    have hout : i ∉ d.line := by
      intro hmem
      obtain ⟨c, hc, -⟩ := (h.mem_iff i).1 hmem
      rw [hi] at hc
      cases hc
    exact h.leave (updates_put i _ d) (List.erase_of_not_mem hout).symm (fun hq => hq)
  | found i q s _ hi _ _ _ hd =>
    exact hd.inOrder h rfl (h.erase_of_not_queued hi (fun hq => hq)).symm
  | joined i q why hi =>
    have hl := h.erase_of_not_queued hi (fun hq => hq)
    exact h.toEnd updates_enterLine (congrArg (· ++ [i]) hl.symm)
  | admitted i q why hi hfirst => exact h.goOn updates_setPhase rfl hfirst trivial
  | reused i q why s _ hi _ _ hd => exact hd.inOrder h rfl rfl
  | began i q why hi => exact h.goOn updates_beginRetrieval rfl (h.first i _ hi trivial) trivial
  | failed i q why a o hi => exact h.leave updates_leave rfl (fun hq => hq)
  | retrieved i q why a ks hi => exact h.goOn updates_setPhase rfl (h.first i _ hi trivial) trivial
  | stored i q why s _ hi hd => exact hd.inOrder h rfl rfl

theorem InOrder.not_first (h : d.InOrder) {k : Nat} {l : List Nat} (hl : k :: l <+: d.line)
    (hi : i ∈ l) : d.line.head? ≠ some i := by
  obtain ⟨others, hothers⟩ := hl
  have hnodup : (k :: l).Nodup := (hothers ▸ h.nodup).sublist (List.sublist_append_left _ _)
  rw [← hothers]
  rintro ⟨rfl⟩
  exact (List.nodup_cons.1 hnodup).1 hi

theorem Turn.beside {k : Nat} (h : d.InOrder) (hk : d.line.head? = some k) (hm : m.caller? ≠ some k)
    (ht : Turn policy d m d') : d'.stored = d.stored ∧ d.line <+: d'.line := by
  have hfirst {i : Nat} (hi : m.caller? = some i) : d.line.head? ≠ some i := by
    rw [hk]
    rintro ⟨rfl⟩
    exact hm hi
  have hholds {i : Nat} {c : KeyCaller} (hi : m.caller? = some i) (hc : d.caller? i = some c) :
      ¬c.phase.IsHolding := fun hp => hfirst hi (h.first i c hc hp)
  cases ht with
  | idle | passed | arrived => exact ⟨rfl, List.prefix_rfl⟩
  | found _ _ _ _ _ _ _ _ hd => exact ⟨hd.stored, hd.line⟩
  | joined => exact ⟨rfl, List.prefix_append _ _⟩
  | admitted _ _ _ _ hi => exact absurd hi (hfirst rfl)
  | reused _ _ _ _ _ hi => exact absurd trivial (hholds rfl hi)
  | began _ _ _ hi => exact absurd trivial (hholds rfl hi)
  | failed _ _ _ _ _ hi => exact absurd trivial (hholds rfl hi)
  | retrieved _ _ _ _ _ hi => exact absurd trivial (hholds rfl hi)
  | stored _ _ _ _ _ hi => exact absurd trivial (hholds rfl hi)

theorem Turn.tail {k : Nat} {l : List Nat} (h : d.InOrder) (hl : k :: l <+: d.line) (hi : i ∈ l)
    (ht : Turn policy d m d') : d'.caller? i = d.caller? i := by
  have hfirst : d.line.head? ≠ some i := h.not_first hl hi
  by_cases hm : m.caller? = some i
  · obtain ⟨⟨q, p⟩, hc, hp⟩ := (h.mem_iff i).1 (hl.subset (List.mem_cons_of_mem k hi))
    cases p with
    | reading | done => exact hp.elim
    | waiting why =>
      rcases ht.own hc hm with ⟨-, rfl⟩ | ⟨hhead, -⟩
      · rfl
      · exact absurd hhead hfirst
    | checking | retrieving | storing => exact absurd (h.first i _ hc trivial) hfirst
  · exact ht.other hm

structure Dated (policy : KeyCachePolicy) (now : Instant) (s : StoredKeys) : Prop where
  fetched : s.fetchedAt ≤ now
  expires : s.expiresAt = s.fetchedAt + policy.lifespan

theorem Dated.later {now later : Instant} {s : StoredKeys} (h : Dated policy now s)
    (hle : now ≤ later) : Dated policy later s :=
  ⟨Nat.le_trans h.fetched hle, h.expires⟩

/-- The stored set, and one that is about to be stored in its place, are dated, and the latter was
fetched later. -/
structure Timely (policy : KeyCachePolicy) (d : KeyDesk) : Prop where
  stored : ∀ s, d.stored = some s → Dated policy d.now s
  storing : ∀ i c, d.caller? i = some c → ∀ why s, c.phase = .storing why s → Dated policy d.now s ∧
    ∀ s₀, d.stored = some s₀ → s₀.fetchedAt ≤ s.fetchedAt

theorem Timely.updates (h : d.Timely policy) (hu : Updates d i c d') (hs : d'.stored = d.stored)
    (hnow : d'.now = d.now) (hc : ∀ why s, c.phase ≠ .storing why s) : d'.Timely policy := by
  refine ⟨?_, ?_⟩
  · rw [hs, hnow]
    exact h.stored
  · rw [hs, hnow]
    exact hu.forall h.storing (fun why s hp => absurd hp (hc why s))

theorem phaseAfter_ne_storing (q : KeyQuery) (why : RefreshReason) (ks : KeySet) (why' : RefreshReason)
    (s : StoredKeys) : phaseAfter q why ks ≠ .storing why' s := by
  unfold phaseAfter
  split <;> exact nofun

theorem Turn.timely (h : d.Timely policy) (ho : d.InOrder) (ht : Turn policy d m d') :
    d'.Timely policy := by
  cases ht with
  | idle => exact h
  | passed span =>
    have hle : d.now ≤ d.now + span := Nat.le_add_right _ _
    refine ⟨fun s hs => (h.stored s hs).later hle, fun i c hi why s hp => ?_⟩
    obtain ⟨hdated, hlater⟩ := h.storing i c hi why s hp
    exact ⟨hdated.later hle, hlater⟩
  | arrived i q hi => exact h.updates (updates_put i _ d) rfl rfl (fun _ _ => nofun)
  | found i q s _ hi _ _ _ hd =>
    exact h.updates hd.updates hd.stored hd.now (phaseAfter_ne_storing _ _ _)
  | joined i q why hi => exact h.updates updates_enterLine rfl rfl (fun _ _ => nofun)
  | admitted i q why hi => exact h.updates updates_setPhase rfl rfl (fun _ _ => nofun)
  | reused i q why s _ hi _ _ hd =>
    exact h.updates hd.updates hd.stored hd.now (phaseAfter_ne_storing _ _ _)
  | began i q why hi => exact h.updates updates_beginRetrieval rfl rfl (fun _ _ => nofun)
  | failed i q why a o hi => exact h.updates updates_leave rfl rfl (fun _ _ => nofun)
  | retrieved i q why a ks hi =>
    refine ⟨h.stored, updates_setPhase.forall h.storing ?_⟩
    rintro why' s ⟨⟩
    exact ⟨⟨Nat.le_refl _, rfl⟩, fun s₀ hs₀ => (h.stored s₀ hs₀).fetched⟩
  | stored i q why s _ hi hd =>
    obtain ⟨hdated, -⟩ := h.storing i _ hi why s rfl
    have hs : d'.stored = some s := hd.stored
    have hnow : d'.now = d.now := hd.now
    refine ⟨fun s' hs' => ?_, fun j c hj why' s' hp => ?_⟩
    · obtain rfl : s = s' := Option.some.inj (hs.symm.trans hs')
      rw [hnow]
      exact hdated
    · -- Nobody else can be about to store a set: whoever is has the lock.
      exfalso
      by_cases hji : j = i
      · subst hji
        obtain rfl := Option.some.inj (hd.updates.self.symm.trans hj)
        exact phaseAfter_ne_storing _ _ _ _ _ hp
      · have hj' : d.caller? j = some c := (hd.updates.other hji).symm.trans hj
        exact hji (ho.holder_unique hj' (by rw [hp]; trivial) hi trivial)

end KeyDesk
end BearerTrust

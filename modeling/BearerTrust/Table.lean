namespace BearerTrust.Table

variable {κ α : Type} [DecidableEq κ]

def get? (k : κ) (t : List (κ × α)) : Option α := (t.find? (fun e => e.1 = k)).map Prod.snd

/-- Replaces the value under a key where it stands, or adds the entry at the end. -/
def put (k : κ) (v : α) : List (κ × α) → List (κ × α)
  | [] => [(k, v)]
  | (l, w) :: t => if l = k then (l, v) :: t else (l, w) :: put k v t

def erase (k : κ) (t : List (κ × α)) : List (κ × α) := t.filter (fun e => e.1 ≠ k)

def insertSorted (k : String) (v : α) : List (String × α) → List (String × α)
  | [] => [(k, v)]
  | (l, w) :: t =>
    if k = l then (k, v) :: t
    else if k < l then (k, v) :: (l, w) :: t
    else (l, w) :: insertSorted k v t

theorem mem_of_get? {k : κ} {v : α} {t : List (κ × α)} (h : get? k t = some v) : (k, v) ∈ t := by
  obtain ⟨e, he, rfl⟩ := Option.map_eq_some_iff.1 h
  have hk : e.1 = k := by simpa using List.find?_some he
  rw [← hk]
  exact List.mem_of_find?_eq_some he

theorem get?_eq_none_iff {k : κ} {t : List (κ × α)} : get? k t = none ↔ k ∉ t.map Prod.fst := by
  rw [get?, Option.map_eq_none_iff, List.find?_eq_none, List.mem_map]
  constructor
  · rintro h ⟨e, he, hk⟩
    exact h e he (decide_eq_true hk)
  · intro h e he hk
    exact h ⟨e, he, of_decide_eq_true hk⟩

theorem get?_cons (k l : κ) (v : α) (t : List (κ × α)) :
    get? k ((l, v) :: t) = if l = k then some v else get? k t := by
  by_cases h : l = k <;> simp [get?, h]

theorem get?_put_self (k : κ) (v : α) (t : List (κ × α)) : get? k (put k v t) = some v := by
  induction t with
  | nil => simp [put, get?]
  | cons e t ih =>
    obtain ⟨l, w⟩ := e
    by_cases h : l = k
    · simp [put, get?, h]
    · simpa [put, get?, h] using ih

theorem get?_put_of_ne {j k : κ} (hjk : j ≠ k) (v : α) (t : List (κ × α)) :
    get? j (put k v t) = get? j t := by
  induction t with
  | nil => simp [put, get?, Ne.symm hjk]
  | cons e t ih =>
    obtain ⟨l, w⟩ := e
    by_cases h : l = k
    · subst h
      simp [put, get?, Ne.symm hjk]
    · by_cases hl : l = j
      · subst hl
        simp [put, get?, h]
      · simpa [put, get?, h, hl] using ih

theorem get?_put (j k : κ) (v : α) (t : List (κ × α)) :
    get? j (put k v t) = if j = k then some v else get? j t := by
  split
  · next h => rw [h]; exact get?_put_self k v t
  · next h => exact get?_put_of_ne h v t

theorem get?_erase_self (k : κ) (t : List (κ × α)) : get? k (erase k t) = none := by
  simp [get?, erase]

theorem get?_erase_of_ne {j k : κ} (hjk : j ≠ k) (t : List (κ × α)) :
    get? j (erase k t) = get? j t := by
  simp only [get?, erase, List.find?_filter]
  congr 2
  funext e
  by_cases h : e.1 = j <;> simp [h, hjk]

theorem erase_of_get?_eq_none {k : κ} {t : List (κ × α)} (h : get? k t = none) : erase k t = t := by
  rw [erase, List.filter_eq_self]
  intro e he
  refine decide_eq_true fun hk => get?_eq_none_iff.1 h ?_
  rw [← hk]
  exact List.mem_map_of_mem he

theorem keys_put (k : κ) (v : α) (t : List (κ × α)) :
    (put k v t).map Prod.fst = if k ∈ t.map Prod.fst then t.map Prod.fst else t.map Prod.fst ++ [k] := by
  induction t with
  | nil => simp [put]
  | cons e t ih =>
    obtain ⟨l, w⟩ := e
    by_cases h : l = k
    · simp [put, h]
    · by_cases hk : k ∈ t.map Prod.fst <;> simp_all [put, Ne.symm h]

theorem nodup_keys_put (k : κ) (v : α) {t : List (κ × α)} (h : (t.map Prod.fst).Nodup) :
    ((put k v t).map Prod.fst).Nodup := by
  rw [keys_put]
  split
  · exact h
  · next hk =>
    rw [List.nodup_append]
    refine ⟨h, by simp, ?_⟩
    rintro a ha b hb rfl
    rw [List.mem_singleton.1 hb] at ha
    exact hk ha

theorem mem_put {k : κ} {v : α} {t : List (κ × α)} {e : κ × α} (h : e ∈ put k v t) :
    e = (k, v) ∨ e ∈ t := by
  induction t with
  | nil => exact .inl (List.mem_singleton.1 h)
  | cons f t ih =>
    obtain ⟨l, w⟩ := f
    unfold put at h
    split at h
    · next hl =>
      rw [List.mem_cons, hl] at h
      exact h.imp_right (List.mem_cons_of_mem _)
    · rcases List.mem_cons.1 h with rfl | h
      · exact .inr (by simp)
      · exact (ih h).imp_right (List.mem_cons_of_mem _)

end BearerTrust.Table

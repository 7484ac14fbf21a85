import BearerTrust.Claims.Requirement
import Mathlib.Data.List.Basic
import Mathlib.Data.List.TakeWhile

namespace BearerTrust

namespace Text

def Blank (s : String) : Prop := ∀ c ∈ s.toList, isBlank c = true

-- Over the characters of the text, never over all characters.
instance (s : String) : Decidable (Blank s) :=
  decidable_of_iff (s.toList.all isBlank = true) List.all_eq_true

instance (cs : List Char) : Decidable (Trimmed cs) :=
  decidable_of_iff (trim cs = cs) ⟨fun h => h ▸ trimmed_trim cs, trim_eq_self⟩

theorem trimStart_pad {before cs : List Char} (h : ∀ c ∈ before, isBlank c = true) :
    trimStart (before ++ cs) = trimStart cs :=
  List.dropWhile_append_of_pos h

theorem trimEnd_pad {cs after : List Char} (h : ∀ c ∈ after, isBlank c = true) :
    trimEnd (cs ++ after) = trimEnd cs := by
  have hafter : ∀ c ∈ after.reverse, isBlank c = true := fun c hc => h c (List.mem_reverse.1 hc)
  rw [trimEnd, List.reverse_append, List.dropWhile_append_of_pos hafter, trimEnd]

theorem trim_pad {before cs after : List Char} (hbefore : ∀ c ∈ before, isBlank c = true)
    (hafter : ∀ c ∈ after, isBlank c = true) (hcs : Trimmed cs) : trim (before ++ cs ++ after) = cs := by
  rw [trim, List.append_assoc, trimStart_pad hbefore]
  cases cs with
  | nil =>
    have hnone : trimStart after = [] := List.dropWhile_eq_nil_iff.2 hafter
    rw [List.nil_append, hnone]
    rfl
  | cons c cs =>
    rw [trimStart_eq_self (by simpa using hcs.1), trimEnd_pad hafter, trimEnd_eq_self hcs.2]

theorem exists_pad (cs : List Char) : ∃ before after, cs = before ++ trim cs ++ after ∧
    (∀ c ∈ before, isBlank c = true) ∧ ∀ c ∈ after, isBlank c = true := by
  refine ⟨cs.takeWhile isBlank, ((trimStart cs).reverse.takeWhile isBlank).reverse, ?_,
    fun c hc => List.mem_takeWhile_imp hc, fun c hc => List.mem_takeWhile_imp (List.mem_reverse.1 hc)⟩
  have hend : trim cs ++ ((trimStart cs).reverse.takeWhile isBlank).reverse = trimStart cs := by
    rw [trim, trimEnd, ← List.reverse_append, List.takeWhile_append_dropWhile, List.reverse_reverse]
  rw [List.append_assoc, hend]
  exact List.takeWhile_append_dropWhile.symm

theorem trim_blank_around {before cs after : List Char} (hbefore : ∀ c ∈ before, isBlank c = true)
    (hafter : ∀ c ∈ after, isBlank c = true) : trim (before ++ cs ++ after) = trim cs := by
  obtain ⟨front, back, hcs, hfront, hback⟩ := exists_pad cs
  have hwhole : before ++ cs ++ after = (before ++ front) ++ trim cs ++ (back ++ after) := by
    rw [hcs, trim_pad hfront hback (trimmed_trim cs)]
    simp only [List.append_assoc]
  rw [hwhole]
  exact trim_pad (List.forall_mem_append.2 ⟨hbefore, hfront⟩) (List.forall_mem_append.2 ⟨hback, hafter⟩)
    (trimmed_trim cs)

theorem mem_of_mem_trim {c : Char} {cs : List Char} (h : c ∈ trim cs) : c ∈ cs := by
  obtain ⟨before, after, hcs, -⟩ := exists_pad cs
  rw [hcs, List.mem_append, List.mem_append]
  exact .inl (.inr h)

theorem trimStart_append_cons {before : List Char} {c : Char} (h : isBlank c = false) (after : List Char) :
    trimStart (before ++ c :: after) = trimStart before ++ c :: after := by
  induction before with
  | nil => simp [trimStart, h]
  | cons b before ih =>
    unfold trimStart at ih ⊢
    by_cases hb : isBlank b = true
    · simpa [hb] using ih
    · simp [hb]

theorem trim_append_cons {before : List Char} {c : Char} (h : isBlank c = false) (after : List Char) :
    trim (before ++ c :: after) = trimStart before ++ c :: trimEnd after := by
  have hend (cs : List Char) : trimEnd cs = (trimStart cs.reverse).reverse := rfl
  rw [trim, trimStart_append_cons h, hend, List.reverse_append, List.reverse_cons, List.append_assoc,
    List.singleton_append, trimStart_append_cons h, hend]
  simp

theorem trim_trimStart (cs : List Char) : trim (trimStart cs) = trim cs := by
  have hstart : trimStart (trimStart cs) = trimStart cs := trimStart_eq_self (head?_dropWhile_isBlank cs)
  rw [trim, hstart, trim]

theorem trim_trimEnd (cs : List Char) : trim (trimEnd cs) = trim cs := by
  have hcs : [] ++ trimEnd cs ++ (cs.reverse.takeWhile isBlank).reverse = cs := by
    rw [List.nil_append, trimEnd, ← List.reverse_append, List.takeWhile_append_dropWhile, List.reverse_reverse]
  have hafter : ∀ c ∈ (cs.reverse.takeWhile isBlank).reverse, isBlank c = true :=
    fun c hc => List.mem_takeWhile_imp (List.mem_reverse.1 hc)
  have h : trim ([] ++ trimEnd cs ++ (cs.reverse.takeWhile isBlank).reverse) = trim (trimEnd cs) :=
    trim_blank_around (List.forall_mem_nil _) hafter
  rw [hcs] at h
  exact h.symm

/-- One text is another between blanks, and the other has no blanks at its ends. -/
structure TrimsTo (s t : String) : Prop where
  around : ∃ before after, Blank before ∧ Blank after ∧ s = before ++ t ++ after
  trimmed : Trimmed t.toList

variable {s t : String}

theorem trimsTo_iff : TrimsTo s t ↔ trim s.toList = t.toList := by
  constructor
  · rintro ⟨⟨before, after, hbefore, hafter, rfl⟩, htrimmed⟩
    rw [String.toList_append, String.toList_append]
    exact trim_pad hbefore hafter htrimmed
  · intro h
    obtain ⟨before, after, hs, hbefore, hafter⟩ := exists_pad s.toList
    refine ⟨⟨String.ofList before, String.ofList after, ?_, ?_, ?_⟩, h ▸ trimmed_trim s.toList⟩
    · rwa [Blank, String.toList_ofList]
    · rwa [Blank, String.toList_ofList]
    · rw [← String.toList_inj, String.toList_append, String.toList_append, String.toList_ofList,
        String.toList_ofList, ← h]
      exact hs

theorem exists_trimsTo (s : String) : ∃ t, TrimsTo s t :=
  ⟨String.ofList (trim s.toList), trimsTo_iff.2 String.toList_ofList.symm⟩

theorem TrimsTo.self (h : Trimmed t.toList) : TrimsTo t t := trimsTo_iff.2 (trim_eq_self h)

theorem blank_iff_trim : Blank s ↔ trim s.toList = [] := by
  constructor
  · intro h
    have htrim : trim (s.toList ++ [] ++ []) = trim [] := trim_blank_around h (List.forall_mem_nil _)
    rwa [List.append_nil, List.append_nil] at htrim
  · intro h
    obtain ⟨before, after, hs, hbefore, hafter⟩ := exists_pad s.toList
    rw [Blank, hs, h, List.append_nil]
    exact List.forall_mem_append.2 ⟨hbefore, hafter⟩

theorem TrimsTo.blank_iff (h : TrimsTo s t) : Blank s ↔ t = "" := by
  rw [blank_iff_trim, trimsTo_iff.1 h, String.toList_eq_nil_iff]

end Text

namespace Text

theorem not_mem_of_mem_splitOn {mark : Char} {cs piece : List Char} (h : piece ∈ cs.splitOn mark) :
    mark ∉ piece := by
  induction cs generalizing piece with
  | nil =>
    rw [List.splitOn_nil, List.mem_singleton] at h
    rw [h]
    exact List.not_mem_nil
  | cons c cs ih =>
    rw [List.splitOn_cons_eq_if_modifyHead] at h
    split at h
    · rcases List.mem_cons.1 h with rfl | h
      · exact List.not_mem_nil
      · exact ih h
    · next hc =>
      obtain ⟨first, rest, hsplit⟩ := List.exists_cons_of_ne_nil (List.splitOn_ne_nil mark cs)
      rw [hsplit] at ih h
      rw [List.modifyHead_cons, List.mem_cons] at h
      rcases h with rfl | h
      · rw [List.mem_cons, not_or]
        exact ⟨fun heq => hc (beq_iff_eq.2 heq.symm), ih List.mem_cons_self⟩
      · exact ih (List.mem_cons_of_mem _ h)

theorem bne_of_not_mem {mark : Char} {cs : List Char} (h : mark ∉ cs) : ∀ c ∈ cs, (c != mark) = true := by
  intro c hc
  rw [bne_iff_ne]
  rintro rfl
  exact h hc

theorem append_inj_of_mark {mark : Char} {t u xs ys : List Char} (ht : mark ∉ t) (hu : mark ∉ u)
    (hxs : xs = [] ∨ xs.head? = some mark) (hys : ys = [] ∨ ys.head? = some mark) (h : t ++ xs = u ++ ys) :
    t = u ∧ xs = ys := by
  have htake {t xs : List Char} (ht : mark ∉ t) (hxs : xs = [] ∨ xs.head? = some mark) :
      (t ++ xs).takeWhile (· != mark) = t := by
    have hstop : xs.takeWhile (· != mark) = [] := by
      rcases hxs with rfl | hxs
      · rfl
      · obtain ⟨r, rfl⟩ := List.head?_eq_some_iff.1 hxs
        simp
    rw [List.takeWhile_append_of_pos (bne_of_not_mem ht), hstop, List.append_nil]
  have htu : t = u := by rw [← htake ht hxs, h, htake hu hys]
  subst htu
  exact ⟨rfl, List.append_cancel_left h⟩

theorem intercalate_inj {mark : Char} {xs ys : List (List Char)} (hxs : ∀ x ∈ xs, x ≠ [] ∧ mark ∉ x)
    (hys : ∀ y ∈ ys, y ≠ [] ∧ mark ∉ y) (h : [mark].intercalate xs = [mark].intercalate ys) : xs = ys := by
  -- No pieces and a single empty piece would be joined to the same text.
  have hsplit {xs : List (List Char)} (hxs : ∀ x ∈ xs, x ≠ [] ∧ mark ∉ x) :
      (([mark].intercalate xs).splitOn mark).filter (!·.isEmpty) = xs := by
    cases xs with
    | nil => rfl
    | cons x xs =>
      rw [List.splitOn_intercalate mark (fun y hy => (hxs y hy).2) (List.cons_ne_nil x xs)]
      exact List.filter_eq_self.2 fun y hy => by simpa using (hxs y hy).1
  rw [← hsplit hxs, h, hsplit hys]

theorem filterMap_splitOn_intercalate {ι α : Type} {s : String} {mark : Char} {read : List Char → Option α}
    {xs : List ι} {text : ι → String} {found : ι → Option α} (hmark : s.toList = [mark]) (hempty : read [] = none)
    (h : ∀ x ∈ xs, read (text x).toList = found x ∧ mark ∉ (text x).toList) :
    ((s.intercalate (xs.map text)).toList.splitOn mark).filterMap read = xs.filterMap found := by
  cases xs with
  | nil => simp [List.splitOn_nil, hempty]
  | cons x xs =>
    have hapart : ∀ l ∈ (x :: xs).map fun x => (text x).toList, mark ∉ l := by
      intro l hl
      obtain ⟨y, hy, rfl⟩ := List.mem_map.1 hl
      exact (h y hy).2
    have htext : (s.intercalate ((x :: xs).map text)).toList =
        [mark].intercalate ((x :: xs).map fun x => (text x).toList) := by
      rw [String.toList_intercalate, List.map_map, hmark]
      rfl
    rw [htext, List.splitOn_intercalate mark hapart (List.cons_ne_nil _ _), List.filterMap_map]
    exact List.filterMap_congr fun y hy => (h y hy).1

end Text

namespace ClaimRequirement

variable {mark : Char} {cs xs : List Char}

theorem cut?_eq_none_iff : cut? mark cs = none ↔ mark ∉ cs := by
  have hnil : cs.dropWhile (· != mark) = [] ↔ mark ∉ cs := by
    rw [List.dropWhile_eq_nil_iff]
    exact ⟨fun h hmark => by simpa using h mark hmark, Text.bne_of_not_mem⟩
  rw [← hnil, cut?]
  split <;> simp_all

theorem cut?_append (h : mark ∉ xs) (ys : List Char) :
    cut? mark (xs ++ mark :: ys) = some (xs, ys) := by
  have hxs := Text.bne_of_not_mem h
  rw [cut?, List.dropWhile_append_of_pos hxs, List.takeWhile_append_of_pos hxs]
  simp

end ClaimRequirement

end BearerTrust

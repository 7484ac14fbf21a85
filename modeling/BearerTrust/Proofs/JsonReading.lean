import Mathlib.Data.List.Induction
import BearerTrust.Json.Record
import BearerTrust.Proofs.JsonLeaves

namespace BearerTrust.Json

def Members.Sorted (ms : Members) : Prop := (ms.map Prod.fst).Pairwise (· < ·)

section

variable {name : String} {value : Json} {ms : Members}

theorem eq_or_mem_of_mem_insert {m : String × Json} (h : m ∈ insert name value ms) :
    m = (name, value) ∨ m ∈ ms := by
  induction ms with
  | nil => exact .inl (List.mem_singleton.1 h)
  | cons n r ih =>
    obtain ⟨k, v⟩ := n
    unfold insert at h
    split at h
    · exact (List.mem_cons.1 h).imp_right (List.mem_cons_of_mem _)
    · split at h
      · exact List.mem_cons.1 h
      · rcases List.mem_cons.1 h with hk | hr
        · exact .inr (List.mem_cons.2 (.inl hk))
        · exact (ih hr).imp_right (List.mem_cons_of_mem _)

theorem Members.Sorted.insert (h : ms.Sorted) : Members.Sorted (Json.insert name value ms) := by
  induction ms with
  | nil => exact List.pairwise_singleton _ _
  | cons m r ih =>
    obtain ⟨k, v⟩ := m
    obtain ⟨hk, hr⟩ := List.pairwise_cons.1 h
    unfold Json.insert
    split
    · next heq =>
      subst heq
      exact h
    · next hne =>
      split
      · next hlt =>
        refine List.pairwise_cons.2 ⟨fun n hn => ?_, h⟩
        rcases List.mem_cons.1 hn with rfl | hn
        · exact hlt
        · exact String.lt_trans hlt (hk n hn)
      · next hge =>
        have hlt : k < name := Decidable.byContradiction fun hnot =>
          hne (String.le_antisymm (String.not_lt.1 hnot) (String.not_lt.1 hge))
        refine List.pairwise_cons.2 ⟨fun n hn => ?_, ih hr⟩
        obtain ⟨m, hm, rfl⟩ := List.mem_map.1 hn
        rcases eq_or_mem_of_mem_insert hm with rfl | hm
        · exact hlt
        · exact hk m.1 (List.mem_map_of_mem hm)

theorem ofMembers_concat (ms : List (String × Json)) (m : String × Json) :
    ofMembers (ms ++ [m]) = insert m.1 m.2 (ofMembers ms) := by
  simp [ofMembers]

theorem sorted_ofMembers (ms : List (String × Json)) : Members.Sorted (ofMembers ms) := by
  induction ms using List.reverseRecOn with
  | nil => exact List.Pairwise.nil
  | append_singleton ms m ih =>
    rw [ofMembers_concat]
    exact ih.insert

theorem mem_of_mem_ofMembers {ms : List (String × Json)} {m : String × Json} (h : m ∈ ofMembers ms) :
    m ∈ ms := by
  induction ms using List.reverseRecOn with
  | nil => cases h
  | append_singleton ms n ih =>
    rw [ofMembers_concat] at h
    rcases eq_or_mem_of_mem_insert h with rfl | h
    · exact List.mem_append_right ms (List.mem_singleton_self _)
    · exact List.mem_append_left _ (ih h)

theorem get?_insert (n : String) :
    Members.get? n (insert name value ms) = if n = name then some value else ms.get? n := by
  by_cases hn : n = name
  · rw [if_pos hn, hn]
    exact get?_insert_self name value ms
  · have hbeq : (n == name) = false := beq_eq_false_iff_ne.2 hn
    rw [if_neg hn]
    induction ms with
    | nil => simp [insert, Members.get?, List.lookup_cons, hbeq]
    | cons m r ih =>
      obtain ⟨k, v⟩ := m
      unfold insert
      split
      · next heq =>
        subst heq
        simp [Members.get?, List.lookup_cons, hbeq]
      · split
        · simp [Members.get?, List.lookup_cons, hbeq]
        · simp only [Members.get?, List.lookup_cons] at ih ⊢
          rw [ih]

end

/-- Values that are read as they are printed, with at most `depth` arrays and objects in each other. -/
inductive Legible : Nat → Json → Prop
  | null (depth : Nat) : Legible depth .null
  | bool (depth : Nat) (b : Bool) : Legible depth (.bool b)
  | natural (depth : Nat) (n : UInt64) : Legible depth (.number (.natural n))
  | string (depth : Nat) (s : String) : Legible depth (.string s)
  | array {depth : Nat} {xs : List Json} (h : ∀ x ∈ xs, Legible depth x) :
      Legible (depth + 1) (.array xs)
  | object {depth : Nat} {ms : Members} (h : ∀ m ∈ ms, Legible depth m.2) :
      Legible (depth + 1) (.object ms)

mutual
/-- A value as it is read: whatever order members were written in, they have the order of their names, and
the last of two with one name counts. -/
def ordered : Json → Json
  | .null => .null
  | .bool b => .bool b
  | .number n => .number n
  | .string s => .string s
  | .array xs => .array (orderedItems xs)
  | .object ms => .object (ofMembers (orderedMembers ms))

def orderedItems : List Json → List Json
  | [] => []
  | x :: xs => ordered x :: orderedItems xs

def orderedMembers : List (String × Json) → List (String × Json)
  | [] => []
  | (k, x) :: ms => (k, ordered x) :: orderedMembers ms
end

/-- What a value is written as: it is found in front of whatever may follow the value, in a number of steps
that its length bounds, and means the value. -/
structure Prints (depth : Nat) (v : Json) (w : Written) : Prop where
  scan : ∀ fuel rest, 2 * (render v).length ≤ fuel → Ends rest →
    Written.scanValue fuel (render v ++ rest) = some (w, rest)
  means : ofWritten? depth w = some v.ordered

theorem keys_orderedMembers (ms : List (String × Json)) :
    (orderedMembers ms).map Prod.fst = ms.map Prod.fst := by
  induction ms with
  | nil => rfl
  | cons m ms ih => simp [orderedMembers, ih]

theorem skipSpaces_cons {b : UInt8} (h : Written.isSpace b = false) (r : Bytes) :
    Written.skipSpaces (b :: r) = b :: r := by
  rw [Written.skipSpaces, List.dropWhile_cons_of_neg]
  simp [h]

section

variable {depth fuel : Nat}

theorem isSpace_of_isDigit {b : UInt8} (h : Number.isDigit b = true) : Written.isSpace b = false := by
  grind [Number.isDigit, Written.isSpace]

theorem exists_render {v : Json} (h : Legible depth v) : ∃ b r, render v = b :: r ∧
    Written.isSpace b = false ∧ b ≠ 0x5d := by
  cases h with
  | null => exact ⟨_, _, rfl, rfl, by decide⟩
  | bool _ b => cases b <;> exact ⟨_, _, rfl, rfl, by decide⟩
  | natural _ n =>
    obtain ⟨b, r, hdigits, hb⟩ := exists_digits n.toNat
    exact ⟨b, r, (text_natural n).trans hdigits, isSpace_of_isDigit hb, ne_of_isDigit hb rfl⟩
  | string _ s => exact ⟨_, _, rfl, rfl, by decide⟩
  | @array _ xs => cases xs <;> exact ⟨_, _, rfl, rfl, by decide⟩
  | @object _ ms => cases ms <;> exact ⟨_, _, rfl, rfl, by decide⟩

theorem length_renderItems_pos (xs : List Json) : 0 < (renderItems xs).length := by
  cases xs <;> simp [renderItems]

theorem length_renderMembers_pos (ms : Members) : 0 < (renderMembers ms).length := by
  cases ms <;> simp [renderMembers]

theorem ends_renderItems (xs : List Json) (rest : Bytes) : Ends (renderItems xs ++ rest) := by
  cases xs with
  | nil => exact ends_cons (by decide)
  | cons x xs => exact ends_cons (by decide)

theorem ends_renderMembers (ms : Members) (rest : Bytes) : Ends (renderMembers ms ++ rest) := by
  cases ms with
  | nil => exact ends_cons (by decide)
  | cons m ms => exact ends_cons (by decide)

theorem scanItems_render {x : Json} {xs : List Json} (h : ∀ y ∈ x :: xs, ∃ w, Prints depth y w) :
    ∃ ws, ofWrittenItems? depth ws = some (orderedItems (x :: xs)) ∧
      ∀ acc fuel rest, 2 * (render x ++ renderItems xs).length ≤ fuel →
        Written.scanItems acc fuel (render x ++ (renderItems xs ++ rest)) =
          some (.array (acc.reverse ++ ws), rest) := by
  -- On what is left of the array; `acc` holds the items before it, the latest first.
  have hpos := length_renderItems_pos xs
  obtain ⟨w, hw⟩ := h x List.mem_cons_self
  induction xs generalizing x w with
  | nil =>
    refine ⟨[w], by simp [ofWrittenItems?, orderedItems, hw.means], fun acc fuel rest hfuel => ?_⟩
    rw [List.length_append] at hfuel
    cases fuel with
    | zero => omega
    | succ fuel =>
      rw [Written.scanItems, hw.scan fuel _ (by omega) (ends_renderItems [] rest), renderItems]
      simp [skipSpaces_cons (b := 0x5d) rfl]
  | cons y ys ih =>
    obtain ⟨v, hv⟩ := h y (List.mem_cons_of_mem x List.mem_cons_self)
    obtain ⟨ws, hws, hscan⟩ := ih (fun z hz => h z (List.mem_cons_of_mem x hz))
      (length_renderItems_pos ys) v hv
    refine ⟨w :: ws, by simp [ofWrittenItems?, orderedItems, hw.means, hws], fun acc fuel rest hfuel => ?_⟩
    rw [List.length_append] at hfuel
    cases fuel with
    | zero => omega
    | succ fuel =>
      rw [Written.scanItems, hw.scan fuel _ (by omega) (ends_renderItems (y :: ys) rest)]
      rw [renderItems, List.length_cons] at hfuel
      have hrest := hscan (w :: acc) fuel rest (by omega)
      simp [renderItems, skipSpaces_cons (b := 0x2c) rfl, hrest]

theorem quoted_append (s : String) (r : Bytes) :
    quoted s ++ r = 0x22 :: (escape (Text.utf8 s) ++ 0x22 :: r) := by
  simp [quoted, quoteByte]

theorem scanString_quoted (k : String) (r : Bytes) :
    Written.scanString [] .plain (escape (Text.utf8 k) ++ 0x22 :: r) = some (escape (Text.utf8 k), r) :=
  scanString_escape [] (Text.utf8 k) r

section

variable {k : String} {r rest : Bytes} {w : Written}

theorem scanMembers_next (acc : List (Bytes × Written))
    (h : Written.scanValue fuel r = some (w, 0x2c :: rest)) :
    Written.scanMembers acc (fuel + 1) (quoted k ++ 0x3a :: r) =
      Written.scanMembers ((escape (Text.utf8 k), w) :: acc) fuel rest := by
  rw [Written.scanMembers, quoted_append, skipSpaces_cons rfl]
  simp [scanString_quoted, skipSpaces_cons (b := 0x3a) rfl, h, skipSpaces_cons (b := 0x2c) rfl]

theorem scanMembers_last (acc : List (Bytes × Written))
    (h : Written.scanValue fuel r = some (w, 0x7d :: rest)) :
    Written.scanMembers acc (fuel + 1) (quoted k ++ 0x3a :: r) =
      some (.object (acc.reverse ++ [(escape (Text.utf8 k), w)]), rest) := by
  rw [Written.scanMembers, quoted_append, skipSpaces_cons rfl]
  simp [scanString_quoted, skipSpaces_cons (b := 0x3a) rfl, h, skipSpaces_cons (b := 0x7d) rfl]

end

theorem scanMembers_render {k : String} {x : Json} {ms : Members}
    (h : ∀ m ∈ (k, x) :: ms, ∃ w, Prints depth m.2 w) :
    ∃ ws, ofWrittenMembers? depth ws = some (orderedMembers ((k, x) :: ms)) ∧
      ∀ acc fuel rest, 2 * (quoted k ++ 0x3a :: (render x ++ renderMembers ms)).length ≤ fuel →
        Written.scanMembers acc fuel (quoted k ++ 0x3a :: (render x ++ (renderMembers ms ++ rest))) =
          some (.object (acc.reverse ++ ws), rest) := by
  have hpos := length_renderMembers_pos ms
  obtain ⟨w, hw⟩ := h (k, x) List.mem_cons_self
  dsimp only at hw
  induction ms generalizing k x w with
  | nil =>
    refine ⟨[(escape (Text.utf8 k), w)], by simp [ofWrittenMembers?, orderedMembers, readString_escape, hw.means],
      fun acc fuel rest hfuel => ?_⟩
    rw [List.length_append, List.length_cons, List.length_append] at hfuel
    cases fuel with
    | zero => omega
    | succ fuel =>
      exact scanMembers_last acc (hw.scan fuel _ (by omega) (ends_renderMembers [] rest))
  | cons m ms ih =>
    obtain ⟨l, y⟩ := m
    obtain ⟨v, hv⟩ := h (l, y) (List.mem_cons_of_mem _ List.mem_cons_self)
    obtain ⟨ws, hws, hscan⟩ := ih (fun n hn => h n (List.mem_cons_of_mem _ hn))
      (length_renderMembers_pos ms) v hv
    refine ⟨(escape (Text.utf8 k), w) :: ws,
      by simp [ofWrittenMembers?, orderedMembers, readString_escape, hw.means, hws], fun acc fuel rest hfuel => ?_⟩
    have hnext : renderMembers ((l, y) :: ms) ++ rest =
        0x2c :: (quoted l ++ 0x3a :: (render y ++ (renderMembers ms ++ rest))) := by
      simp [renderMembers]
    rw [List.length_append, List.length_cons, List.length_append] at hfuel
    cases fuel with
    | zero => omega
    | succ fuel =>
      have hfirst := hw.scan fuel _ (by omega) (ends_renderMembers ((l, y) :: ms) rest)
      rw [renderMembers, List.length_cons] at hfuel
      rw [hnext] at hfirst ⊢
      rw [scanMembers_next acc hfirst, hscan _ fuel rest (by omega), List.reverse_cons,
        List.append_assoc]
      rfl

theorem scanValue_object {ms : Members} (h : ∀ m ∈ ms, ∃ w, Prints depth m.2 w) :
    ∃ ws, ofWrittenMembers? depth ws = some (orderedMembers ms) ∧
      ∀ fuel rest, 2 * (render (.object ms)).length ≤ fuel →
        Written.scanValue fuel (render (.object ms) ++ rest) = some (.object ws, rest) := by
  cases ms with
  | nil =>
    refine ⟨[], rfl, fun fuel rest hfuel => ?_⟩
    cases fuel with
    | zero => simp [render] at hfuel
    | succ fuel =>
      simp [render, Written.scanValue, skipSpaces_cons (b := 0x7b) rfl, skipSpaces_cons (b := 0x7d) rfl]
  | cons m ms =>
    obtain ⟨k, x⟩ := m
    obtain ⟨ws, hws, hscan⟩ := scanMembers_render h
    refine ⟨ws, hws, fun fuel rest hfuel => ?_⟩
    rw [render, List.length_cons] at hfuel
    cases fuel with
    | zero => omega
    | succ fuel =>
      have hmembers := hscan [] fuel rest (by omega)
      rw [quoted_append] at hmembers
      simp [render, quoted_append, Written.scanValue, skipSpaces_cons (b := 0x7b) rfl,
        skipSpaces_cons (b := 0x22) rfl, hmembers]

theorem scanValue_items {b : UInt8} {r : Bytes} (hspace : Written.isSpace b = false) (hend : b ≠ 0x5d) :
    Written.scanValue (fuel + 1) (0x5b :: b :: r) = Written.scanItems [] fuel (b :: r) := by
  have hopen : Written.skipSpaces (0x5b :: b :: r) = 0x5b :: b :: r := skipSpaces_cons rfl _
  rw [Written.scanValue, hopen]
  dsimp only
  rw [if_neg (by decide), if_neg (by decide), if_pos rfl, skipSpaces_cons hspace]
  split
  · next hnil => exact absurd (List.cons.inj hnil).1 hend
  · rfl

theorem scanValue_array {xs : List Json} (hlegible : ∀ x ∈ xs, Legible depth x)
    (h : ∀ x ∈ xs, ∃ w, Prints depth x w) :
    ∃ ws, ofWrittenItems? depth ws = some (orderedItems xs) ∧
      ∀ fuel rest, 2 * (render (.array xs)).length ≤ fuel →
        Written.scanValue fuel (render (.array xs) ++ rest) = some (.array ws, rest) := by
  cases xs with
  | nil =>
    refine ⟨[], rfl, fun fuel rest hfuel => ?_⟩
    cases fuel with
    | zero => simp [render] at hfuel
    | succ fuel =>
      simp [render, Written.scanValue, skipSpaces_cons (b := 0x5b) rfl, skipSpaces_cons (b := 0x5d) rfl]
  | cons x xs =>
    obtain ⟨ws, hws, hscan⟩ := scanItems_render h
    obtain ⟨b, r, hb, hspace, hend⟩ := exists_render (hlegible x List.mem_cons_self)
    refine ⟨ws, hws, fun fuel rest hfuel => ?_⟩
    rw [render, List.length_cons] at hfuel
    cases fuel with
    | zero => omega
    | succ fuel =>
      have hitems := hscan [] fuel rest (by omega)
      rw [hb, List.cons_append] at hitems
      rw [render, hb, List.cons_append, List.cons_append, List.cons_append, List.append_assoc,
        scanValue_items hspace hend, hitems]
      rfl

theorem scanValue_natural (n : UInt64) {rest : Bytes} (h : Ends rest) :
    Written.scanValue (fuel + 1) (digits n.toNat ++ rest) = some (.number (digits n.toNat), rest) := by
  obtain ⟨b, r, hdigits, hb⟩ := exists_digits n.toNat
  have hscan := scanNumber_digits (n := n.toNat) h
  have hne (c : UInt8) (hc : Number.isDigit c = false) : b ≠ c := ne_of_isDigit hb hc
  rw [hdigits, List.cons_append] at hscan ⊢
  rw [Written.scanValue, skipSpaces_cons (isSpace_of_isDigit hb)]
  simp only [hne 0x22 rfl, hne 0x7b rfl, hne 0x5b rfl, hne 0x6e rfl, hne 0x74 rfl, hne 0x66 rfl,
    if_false, hscan, Option.map_some]

theorem exists_prints {v : Json} (h : Legible depth v) : ∃ w, Prints depth v w := by
  induction h with
  | null =>
    refine ⟨.null, fun fuel rest hfuel _ => ?_, rfl⟩
    cases fuel with
    | zero => simp [render] at hfuel
    | succ fuel => simp [render, Written.scanValue, skipSpaces_cons (b := 0x6e) rfl, Written.afterWord]
  | bool _ b =>
    refine ⟨.bool b, fun fuel rest hfuel _ => ?_, rfl⟩
    cases fuel with
    | zero => cases b <;> simp [render] at hfuel
    | succ fuel =>
      cases b with
      | false => simp [render, Written.scanValue, skipSpaces_cons (b := 0x66) rfl, Written.afterWord]
      | true => simp [render, Written.scanValue, skipSpaces_cons (b := 0x74) rfl, Written.afterWord]
  | natural _ n =>
    refine ⟨.number (digits n.toNat), fun fuel rest hfuel hrest => ?_,
      by simp [ofWritten?, ordered, ofLiteral?_digits]⟩
    rw [render, text_natural] at hfuel ⊢
    cases fuel with
    | zero =>
      have hpos := List.length_pos_iff.2 (digits_ne_nil n.toNat)
      omega
    | succ fuel => exact scanValue_natural n hrest
  | string _ s =>
    refine ⟨.string (escape (Text.utf8 s)), fun fuel rest hfuel _ => ?_,
      by simp [ofWritten?, ordered, readString_escape]⟩
    cases fuel with
    | zero => simp [render, quoted] at hfuel
    | succ fuel =>
      simp [render, quoted_append, Written.scanValue, skipSpaces_cons (b := 0x22) rfl, scanString_quoted]
  | array h ih =>
    obtain ⟨ws, hws, hscan⟩ := scanValue_array h ih
    exact ⟨.array ws, fun fuel rest hfuel _ => hscan fuel rest hfuel, by simp [ofWritten?, ordered, hws]⟩
  | object h ih =>
    obtain ⟨ws, hws, hscan⟩ := scanValue_object ih
    exact ⟨.object ws, fun fuel rest hfuel _ => hscan fuel rest hfuel, by simp [ofWritten?, ordered, hws]⟩

end

theorem Written.parse?_of_scan {bs : Bytes} {w : Written}
    (h : Written.scanValue (2 * bs.length + 2) bs = some (w, [])) : Written.parse? bs = some w := by
  simp [Written.parse?, Written.scan?, h, Written.isBlank, Written.skipSpaces]

/-- A value is read from its own text as it was, with all members in order. -/
theorem parse?_render {v : Json} (h : Legible deepest v) : parse? (render v) = some v.ordered := by
  obtain ⟨w, hw⟩ := exists_prints h
  have hscan := hw.scan (2 * (render v).length + 2) [] (by omega) ends_nil
  rw [List.append_nil] at hscan
  rw [parse?, Written.parse?_of_scan hscan]
  exact hw.means

inductive InOrder : Json → Prop
  | null : InOrder .null
  | bool (b : Bool) : InOrder (.bool b)
  | number (n : Number) : InOrder (.number n)
  | string (s : String) : InOrder (.string s)
  | array {xs : List Json} (h : ∀ x ∈ xs, InOrder x) : InOrder (.array xs)
  | object {ms : Members} (h : ∀ m ∈ ms, InOrder m.2) (hsorted : ms.Sorted) : InOrder (.object ms)

mutual
theorem inOrder_of_written : ∀ (depth : Nat) (w : Written) (v : Json), ofWritten? depth w = some v → InOrder v
  | _, .null, _, h => by
    cases h
    exact .null
  | _, .bool _, _, h => by
    cases h
    exact .bool _
  | _, .number _, _, h => by
    obtain ⟨n, -, rfl⟩ := Option.map_eq_some_iff.1 h
    exact .number n
  | _, .string _, _, h => by
    obtain ⟨s, -, rfl⟩ := Option.map_eq_some_iff.1 h
    exact .string s
  | 0, .array _, _, h | 0, .object _, _, h => by cases h
  | d + 1, .array ws, _, h => by
    obtain ⟨xs, hxs, rfl⟩ := Option.map_eq_some_iff.1 h
    exact .array (inOrder_of_items d ws xs hxs)
  | d + 1, .object ws, _, h => by
    obtain ⟨ms, hms, rfl⟩ := Option.map_eq_some_iff.1 h
    exact .object (fun m hm => inOrder_of_members d ws ms hms m (mem_of_mem_ofMembers hm)) (sorted_ofMembers ms)

theorem inOrder_of_items : ∀ (depth : Nat) (ws : List Written) (xs : List Json),
    ofWrittenItems? depth ws = some xs → ∀ x ∈ xs, InOrder x
  | _, [], _, h => by
    cases h
    exact List.forall_mem_nil _
  | d, w :: ws, _, h => by
    simp only [ofWrittenItems?, Option.bind_eq_bind, Option.bind_eq_some_iff, Option.some.injEq] at h
    obtain ⟨x, hx, xs, hxs, rfl⟩ := h
    exact List.forall_mem_cons.2 ⟨inOrder_of_written d w x hx, inOrder_of_items d ws xs hxs⟩

theorem inOrder_of_members : ∀ (depth : Nat) (ws : List (Bytes × Written)) (ms : List (String × Json)),
    ofWrittenMembers? depth ws = some ms → ∀ m ∈ ms, InOrder m.2
  | _, [], _, h => by
    cases h
    exact List.forall_mem_nil _
  | d, (_, w) :: ws, _, h => by
    simp only [ofWrittenMembers?, Option.bind_eq_bind, Option.bind_eq_some_iff, Option.some.injEq] at h
    obtain ⟨_, -, x, hx, ms, hms, rfl⟩ := h
    exact List.forall_mem_cons.2 ⟨inOrder_of_written d w x hx, inOrder_of_members d ws ms hms⟩
end

/-- Whatever is read from a text has its members in order. -/
theorem inOrder_of_parse {bs : Bytes} {v : Json} (h : parse? bs = some v) : InOrder v := by
  obtain ⟨w, -, hw⟩ := Option.bind_eq_some_iff.1 h
  exact inOrder_of_written deepest w v hw

namespace Record

theorem ofWrittenMembers?_eq {names : List String} {ws : List (Bytes × Written)} {ms : Members}
    (h : Json.ofWrittenMembers? (deepest - 1) ws = some ms) (hnames : ∀ n ∈ ms.map Prod.fst, n ∈ names)
    (hnodup : (ms.map Prod.fst).Nodup) (seen : List (String × Json))
    (hseen : ∀ n ∈ ms.map Prod.fst, seen.lookup n = none) :
    ofWrittenMembers? names seen ws = some (ms.reverse ++ seen) := by
  induction ws generalizing ms seen with
  | nil =>
    cases h
    rfl
  | cons m ws ih =>
    obtain ⟨content, w⟩ := m
    simp only [Json.ofWrittenMembers?, Option.bind_eq_bind, Option.bind_eq_some_iff] at h
    obtain ⟨name, hname, v, hv, rest, hrest, h⟩ := h
    cases h
    simp only [List.map_cons, List.nodup_cons, List.forall_mem_cons] at hnames hnodup hseen
    have hnew : ∀ n ∈ rest.map Prod.fst, List.lookup n ((name, v) :: seen) = none := by
      intro n hn
      have hne : (n == name) = false := by
        rw [beq_eq_false_iff_ne]
        rintro rfl
        exact hnodup.1 hn
      rw [List.lookup_cons, hne]
      exact hseen.2 n hn
    have hgo := ih hrest hnames.2 hnodup.2 ((name, v) :: seen) hnew
    simp [ofWrittenMembers?, hname, hnames.1, hseen.1, hv, hgo]

/-- A record that is printed as an object with none but its own fields is read as these fields. -/
theorem parse?_render {names : List String} {ms : Members} (h : ∀ m ∈ ms, Legible (deepest - 1) m.2)
    (hnames : ∀ n ∈ ms.map Prod.fst, n ∈ names) (hnodup : (ms.map Prod.fst).Nodup) :
    parse? names (render (.object ms)) = some ⟨(orderedMembers ms).reverse, true⟩ := by
  have hkeys := keys_orderedMembers ms
  obtain ⟨ws, hws, hscan⟩ := scanValue_object fun m hm => exists_prints (h m hm)
  have hscan := hscan (2 * (render (.object ms)).length + 2) [] (by omega)
  rw [List.append_nil] at hscan
  have hfields := ofWrittenMembers?_eq hws (by rwa [hkeys]) (by rwa [hkeys]) [] fun _ _ => rfl
  simp [parse?, Written.parse?_of_scan hscan, ofWritten?, hfields]

end Record

end BearerTrust.Json

import BearerTrust.Http.Client
import Mathlib.Logic.Function.Iterate

namespace BearerTrust.Http

variable {url : Url} {limit : Nat}

/-- A response while it is read: its head has come, some chunks have been taken, or no more is read. -/
inductive Reading where
  | opened (r : Response)
  | taking (held : Bytes) (rest : List (Option Bytes))
  | ended (result : Except RetrievalError Bytes)

namespace Reading

def next (url : Url) (limit : Nat) : Reading → Reading
  | opened r =>
    if r.declared.any (limit < ·) then ended (.error (.tooLarge url limit)) else taking [] r.chunks
  | taking held [] => ended (.ok held)
  | taking _ (none :: _) => ended (.error (.bodyRead url))
  | taking held (some chunk :: rest) =>
    if limit < held.length + chunk.length then ended (.error (.tooLarge url limit))
    else taking (held ++ chunk) rest
  | ended result => ended result

def held : Reading → Bytes
  | opened _ | ended (.error _) => []
  | taking held _ | ended (.ok held) => held

theorem ended_stays (result : Except RetrievalError Bytes) (n : Nat) :
    (next url limit)^[n] (ended result) = ended result :=
  Function.iterate_fixed rfl n

theorem taking_ends (held : Bytes) (rest : List (Option Bytes)) :
    (next url limit)^[rest.length + 1] (taking held rest) = ended (readChunks url limit held rest) := by
  fun_induction readChunks url limit held rest with
  | case1 held => rfl
  | case2 held rest => exact ended_stays _ _
  | case3 held chunk rest hlarge =>
    rw [Function.iterate_succ_apply, next, if_pos hlarge, ended_stays]
  | case4 held chunk rest hfits ih =>
    rw [List.length_cons, Function.iterate_succ_apply, next, if_neg hfits, ih]

theorem run_ends (r : Response) :
    (next url limit)^[r.chunks.length + 2] (opened r) = ended (r.read url limit) := by
  rw [Function.iterate_succ_apply, next, Response.read]
  split
  · exact ended_stays _ _
  · exact taking_ends [] r.chunks

theorem held_next {s : Reading} (h : s.held.length ≤ limit) : (next url limit s).held.length ≤ limit := by
  cases s with
  | opened r =>
    rw [next]
    split <;> exact Nat.zero_le _
  | ended result => exact h
  | taking held rest =>
    match rest with
    | [] => exact h
    | none :: rest => exact Nat.zero_le _
    | some chunk :: rest =>
      rw [next]
      split
      · exact Nat.zero_le _
      · next hfits =>
        change (held ++ chunk).length ≤ limit
        rw [List.length_append]
        exact Nat.not_lt.1 hfits

theorem held_run (r : Response) (n : Nat) : ((next url limit)^[n] (opened r)).held.length ≤ limit := by
  induction n with
  | zero => exact Nat.zero_le _
  | succ n ih =>
    rw [Function.iterate_succ_apply']
    exact held_next ih

end Reading

theorem readChunks_flatten {held : Bytes} (h : held.length ≤ limit) (chunks : List Bytes) :
    readChunks url limit held (chunks.map some) =
      if held.length + chunks.flatten.length ≤ limit then .ok (held ++ chunks.flatten)
      else .error (.tooLarge url limit) := by
  induction chunks generalizing held with
  | nil => simp [readChunks, h]
  | cons chunk chunks ih =>
    rw [List.map_cons, readChunks, List.flatten_cons, List.length_append, ← Nat.add_assoc]
    by_cases hlarge : limit < held.length + chunk.length
    · have hmore : ¬held.length + chunk.length + chunks.flatten.length ≤ limit :=
        Nat.not_le.2 (Nat.lt_add_right _ hlarge)
      rw [if_pos hlarge, if_neg hmore]
    · have hfits : (held ++ chunk).length ≤ limit := by
        rw [List.length_append]
        exact Nat.not_lt.1 hlarge
      rw [if_neg hlarge, ih hfits, List.length_append, List.append_assoc]

theorem Response.read_flatten (status : Nat) (declared : Option Nat) (chunks : List Bytes) :
    (⟨status, declared, chunks.map some⟩ : Response).read url limit =
      if (∀ n, declared = some n → n ≤ limit) ∧ chunks.flatten.length ≤ limit then .ok chunks.flatten
      else .error (.tooLarge url limit) := by
  have hchunks : readChunks url limit [] (chunks.map some) =
      if chunks.flatten.length ≤ limit then .ok chunks.flatten else .error (.tooLarge url limit) := by
    rw [readChunks_flatten (Nat.zero_le _), List.length_nil, Nat.zero_add, List.nil_append]
  cases declared with
  | none => simp [read, hchunks]
  | some n =>
    by_cases hn : limit < n
    · simp [read, hn, Nat.not_le.2 hn]
    · simp [read, hn, Nat.not_lt.1 hn, hchunks]

/-- A body that arrives without a failure is read if neither the length that is declared nor its own passes the
limit, and refused as too large otherwise. It does not matter how it is cut, nor to those who read documents
or answers of endpoints, and no more than the limit is ever held. -/
theorem Response.read_exact (url : Url) (limit status : Nat) (declared : Option Nat) (chunks : List Bytes) :
    let r : Response := ⟨status, declared, chunks.map some⟩
    (r.read url limit = .ok chunks.flatten ↔
      (∀ n, declared = some n → n ≤ limit) ∧ chunks.flatten.length ≤ limit) ∧
    (r.read url limit ≠ .ok chunks.flatten → r.read url limit = .error (.tooLarge url limit)) ∧
    (∀ chunks' : List Bytes, chunks'.flatten = chunks.flatten →
      let r' : Response := ⟨status, declared, chunks'.map some⟩
      r'.read url limit = r.read url limit ∧ ∀ c : Client,
        c.document url (some r') = c.document url (some r) ∧
          c.answer url (some r') = c.answer url (some r)) ∧
    ((∀ n, declared = some n → n ≤ limit) → chunks.flatten.length = limit →
      r.read url limit = .ok chunks.flatten) ∧
    (∀ n, ((Reading.next url limit)^[n] (.opened r)).held.length ≤ limit) ∧
      (Reading.next url limit)^[chunks.length + 2] (.opened r) = .ended (r.read url limit) := by
  intro r
  have hread : r.read url limit = _ := read_flatten status declared chunks
  have hiff : r.read url limit = .ok chunks.flatten ↔
      (∀ n, declared = some n → n ≤ limit) ∧ chunks.flatten.length ≤ limit := by
    rw [hread]
    split
    · next h => exact iff_of_true rfl h
    · next h => exact iff_of_false nofun h
  refine ⟨hiff, fun hne => ?_, fun chunks' hsame => ?_, fun hdeclared hlength => ?_, Reading.held_run r, ?_⟩
  · rw [hread, if_neg fun h => hne (hiff.2 h)]
  · have hcut (l : Nat) : (⟨status, declared, chunks'.map some⟩ : Response).read url l = r.read url l := by
      rw [read_flatten, read_flatten, hsame]
    refine ⟨hcut limit, fun c => ⟨?_, ?_⟩⟩
    · simp only [Client.document, hcut]
      rfl
    · simp only [Client.answer, hcut]
      rfl
  · exact hiff.2 ⟨hdeclared, Nat.le_of_eq hlength⟩
  · have hends : (Reading.next url limit)^[r.chunks.length + 2] (.opened r) = .ended (r.read url limit) :=
      Reading.run_ends r
    rwa [List.length_map] at hends

namespace Sample

def somewhere : Url := { scheme := "http", path := .segments [""] }

def inTwo : Response := ⟨200, some 3, [some [1], some [2, 3]]⟩

def inThree : Response := ⟨200, some 3, [some [1, 2], some [], some [3]]⟩

theorem read_exact_cut :
    ([[1], [2, 3]] : List Bytes).flatten = ([[1, 2], [], [3]] : List Bytes).flatten ∧
      inThree.read somewhere 3 = .ok [1, 2, 3] ∧ inTwo.read somewhere 3 = .ok [1, 2, 3] ∧
      inThree.read somewhere 2 ≠ .ok [1, 2, 3] ∧
      inThree.read somewhere 2 = .error (.tooLarge somewhere 2) := by
  have hsame : ([[1], [2, 3]] : List Bytes).flatten = ([[1, 2], [], [3]] : List Bytes).flatten := rfl
  obtain ⟨-, -, hcut, hfull, -⟩ := Response.read_exact somewhere 3 200 (some 3) [[1, 2], [], [3]]
  obtain ⟨hiff, hrefused, -⟩ := Response.read_exact somewhere 2 200 (some 3) [[1, 2], [], [3]]
  have hthree : inThree.read somewhere 3 = .ok [1, 2, 3] := hfull (by simp) rfl
  have hnot : inThree.read somewhere 2 ≠ .ok [1, 2, 3] := fun h => absurd (hiff.1 h).2 (by decide)
  exact ⟨hsame, hthree, (hcut _ hsame).1.trans hthree, hnot, hrefused hnot⟩

end Sample
end BearerTrust.Http

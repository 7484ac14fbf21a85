namespace BearerTrust.Text

/-- The characters that have the property White_Space. -/
def isBlank (c : Char) : Bool :=
  let n := c.toNat
  (9 ≤ n && n ≤ 13) || n == 32 || n == 0x85 || n == 0xa0 || n == 0x1680 ||
    (0x2000 ≤ n && n ≤ 0x200a) || n == 0x2028 || n == 0x2029 || n == 0x202f || n == 0x205f ||
    n == 0x3000

def trimStart (cs : List Char) : List Char := cs.dropWhile isBlank

def trimEnd (cs : List Char) : List Char := (cs.reverse.dropWhile isBlank).reverse

def trim (cs : List Char) : List Char := trimEnd (trimStart cs)

def Trimmed (cs : List Char) : Prop :=
  (∀ c, cs.head? = some c → isBlank c = false) ∧ (∀ c, cs.getLast? = some c → isBlank c = false)

theorem trimStart_eq_self {cs : List Char} (h : ∀ c, cs.head? = some c → isBlank c = false) :
    trimStart cs = cs := by
  cases cs with
  | nil => rfl
  | cons c r => simp [trimStart, h c rfl]

theorem trimEnd_eq_self {cs : List Char} (h : ∀ c, cs.getLast? = some c → isBlank c = false) :
    trimEnd cs = cs := by
  have := @trimStart_eq_self cs.reverse (by simpa using h)
  unfold trimStart at this
  simp [trimEnd, this]

theorem trim_eq_self {cs : List Char} (h : Trimmed cs) : trim cs = cs := by
  rw [trim, trimStart_eq_self h.1, trimEnd_eq_self h.2]

theorem head?_dropWhile_isBlank (cs : List Char) :
    ∀ c, (cs.dropWhile isBlank).head? = some c → isBlank c = false := by
  induction cs with
  | nil => simp
  | cons a r ih =>
    by_cases h : isBlank a
    · simpa [List.dropWhile_cons, h] using ih
    · simp [h]

theorem getLast?_trimEnd (cs : List Char) :
    ∀ c, (trimEnd cs).getLast? = some c → isBlank c = false := by
  have := head?_dropWhile_isBlank cs.reverse
  simpa [trimEnd] using this

theorem trimEnd_isPrefix (cs : List Char) : trimEnd cs <+: cs := by
  have := List.dropWhile_suffix (l := cs.reverse) isBlank
  have := List.reverse_prefix.2 this
  simpa [trimEnd] using this

theorem trimmed_trim (cs : List Char) : Trimmed (trim cs) := by
  refine ⟨?_, getLast?_trimEnd _⟩
  intro c hc
  obtain ⟨t, ht⟩ := trimEnd_isPrefix (trimStart cs)
  have : (trimStart cs).head? = some c := by
    rw [← ht]
    unfold trim at hc
    cases hx : trimEnd (trimStart cs) with
    | nil => simp [hx] at hc
    | cons a r => simpa [hx] using hc
  exact head?_dropWhile_isBlank cs c this

end BearerTrust.Text

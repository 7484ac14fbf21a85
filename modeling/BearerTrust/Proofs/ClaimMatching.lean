import BearerTrust.Claims.Requirement
import BearerTrust.Json.Printer

namespace BearerTrust

namespace Json

inductive IsWritten : Json → String → Prop
  | number {n : Number} {s : String} (h : render (.number n) = Text.utf8 s) : IsWritten (.number n) s
  | bool {b : Bool} {s : String} (h : render (.bool b) = Text.utf8 s) : IsWritten (.bool b) s

/-- The values that match a text. -/
inductive Matches : Json → String → Prop
  | text (s : String) : Matches (.string s) s
  | listed {xs : List Json} {s : String} (h : .string s ∈ xs) : Matches (.array xs) s
  | written {x : Json} {s : String} (h : IsWritten x s) : Matches x s

/-- A list with a number or a truth value in it that is written as a text. -/
inductive ListsWritten : Json → String → Prop
  | listed {xs : List Json} {x : Json} {s : String} (hx : x ∈ xs) (h : IsWritten x s) :
    ListsWritten (.array xs) s

variable {x : Json} {s : String}

theorem isWritten_number_iff {n : Number} : IsWritten (.number n) s ↔ n.text = s := by
  constructor
  · rintro (h | _)
    exact Text.utf8_injective h
  · rintro rfl
    exact .number rfl

theorem isWritten_bool_iff {b : Bool} : IsWritten (.bool b) s ↔ s = if b then "true" else "false" := by
  have hrender : render (.bool b) = Text.utf8 (if b then "true" else "false") := by
    cases b <;> decide
  constructor
  · rintro (_ | h)
    exact Text.utf8_injective (h.symm.trans hrender)
  · rintro rfl
    exact .bool hrender

end Json

namespace Claims

variable {c : Claims} {name expected : String} {x : Json}

theorem isValue_iff : isValue expected x = true ↔ x = .string expected ∨ x.IsWritten expected := by
  cases x with
  | null | array | object =>
    refine iff_of_false nofun ?_
    rintro (⟨⟨⟩⟩ | ⟨⟨⟩⟩)
  | string s =>
    rw [isValue, beq_iff_eq, Json.string.injEq]
    exact (or_iff_left nofun).symm
  | number n =>
    rw [isValue, beq_iff_eq, Json.isWritten_number_iff]
    exact (or_iff_right nofun).symm
  | bool b =>
    rw [Json.isWritten_bool_iff, or_iff_right nofun]
    cases b <;> exact beq_iff_eq

theorem matches_or_lists_iff : (x.Matches expected ∨ x.ListsWritten expected) ↔
    (∃ xs, x = .array xs ∧ ∃ y ∈ xs, isValue expected y = true) ∨ isValue expected x = true := by
  simp only [isValue_iff]
  constructor
  · rintro ((_ | h | h) | ⟨hy, h⟩)
    · exact .inr (.inl rfl)
    · exact .inl ⟨_, rfl, _, h, .inl rfl⟩
    · exact .inr (.inr h)
    · exact .inl ⟨_, rfl, _, hy, .inr h⟩
  · rintro (⟨xs, rfl, y, hy, rfl | h⟩ | rfl | h)
    · exact .inl (.listed hy)
    · exact .inr (.listed hy h)
    · exact .inl (.text _)
    · exact .inl (.written h)

theorem hasValue_iff : c.hasValue name expected = true ↔ ∃ x, c.get? name = some x ∧
    ((∃ xs, x = .array xs ∧ ∃ y ∈ xs, isValue expected y = true) ∨ isValue expected x = true) := by
  unfold hasValue
  split
  · next xs h => simp [h, isValue]
  · next x hx h =>
    -- not a list, so the value itself is compared
    have hlist : ¬∃ xs, x = .array xs ∧ ∃ y ∈ xs, isValue expected y = true := fun ⟨xs, hxs, _⟩ => hx xs hxs
    rw [h]
    simp only [Option.some.injEq, exists_eq_left', or_iff_right hlist]
  · next h => simp [h]

theorem get?_eq_some_iff : c.get? name = some x ↔ c.all.get? name = some x ∧ x ≠ .null := by
  unfold get?
  cases c.all.get? name with
  | none => simp
  | some y => cases y <;> simp +contextual [eq_comm]

theorem hasValue_iff_matches : c.hasValue name expected = true ↔
    ∃ x, c.all.get? name = some x ∧ (x.Matches expected ∨ x.ListsWritten expected) := by
  rw [hasValue_iff]
  refine exists_congr fun x => ?_
  rw [get?_eq_some_iff, ← matches_or_lists_iff, and_assoc]
  refine and_congr_right fun _ => and_iff_right_of_imp ?_
  rintro (hmatches | hlists) rfl
  · rcases hmatches with _ | _ | ⟨⟨⟩⟩
  · cases hlists

/-- A claim has a value exactly if what it holds matches as documented, or is a list with a number or a truth
value in it that is written as the value. Where no such list is held the documented relation is exact, and
nothing else meets a requirement. -/
theorem hasValue_exact (c : Claims) :
    (∀ name expected, c.hasValue name expected = true ↔
      ∃ x, c.all.get? name = some x ∧ (x.Matches expected ∨ x.ListsWritten expected)) ∧
    (∀ name expected, (∀ x, c.all.get? name = some x → ¬x.ListsWritten expected) →
      (c.hasValue name expected = true ↔ ∃ x, c.all.get? name = some x ∧ x.Matches expected)) ∧
    ∀ r : ClaimRequirement, r.isSatisfiedBy c = true ↔
      ∃ x, c.all.get? r.name = some x ∧ (x.Matches r.value ∨ x.ListsWritten r.value) := by
  refine ⟨fun name expected => hasValue_iff_matches, fun name expected hlists => ?_,
    fun r => hasValue_iff_matches⟩
  rw [hasValue_iff_matches]
  refine exists_congr fun x => and_congr_right fun hx => ?_
  exact or_iff_left (hlists x hx)

end Claims

namespace Sample

def listed : Claims where
  issuer := none
  subject := none
  audience := []
  expires := none
  notBefore := none
  issuedAt := none
  all := [("level", .array [Json.nat 4])]

/-- No text stands in the list, and yet it matches one. -/
theorem number_listed : Claims.ofMembers [("level", .array [Json.nat 4])] = .ok listed ∧
    (ClaimRequirement.mk "level" "4").isSatisfiedBy listed = true ∧
    ¬(listed.hasValue "level" "4" = true ↔ ∃ x, listed.all.get? "level" = some x ∧ x.Matches "4") := by
  have hvalue : listed.hasValue "level" "4" = true := by decide +kernel
  refine ⟨rfl, hvalue, fun h => ?_⟩
  obtain ⟨x, hx, hmatches⟩ := h.1 hvalue
  cases hx
  rcases hmatches with _ | h | ⟨⟨⟩⟩
  simp [Json.nat] at h

def levels : Claims := { listed with all := [("level", .array [.string "4", .bool true, .string "5"])] }

theorem hasValue_exact_levels : (∀ x, levels.all.get? "level" = some x → ¬x.ListsWritten "5") ∧
    (levels.hasValue "level" "5" = true ↔ ∃ x, levels.all.get? "level" = some x ∧ x.Matches "5") ∧
    levels.hasValue "level" "5" = true := by
  have hlists : ∀ x, levels.all.get? "level" = some x → ¬x.ListsWritten "5" := by
    rintro _ ⟨⟩ ⟨hx, h⟩
    rw [List.mem_cons, List.mem_cons, List.mem_singleton] at hx
    rcases hx with rfl | rfl | rfl
    · cases h
    · exact absurd (Json.isWritten_bool_iff.1 h) (by decide)
    · cases h
  have hiff := (Claims.hasValue_exact levels).2.1 "level" "5" hlists
  exact ⟨hlists, hiff, hiff.2 ⟨_, rfl, .listed (by simp)⟩⟩

end Sample
end BearerTrust

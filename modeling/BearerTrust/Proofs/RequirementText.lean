import BearerTrust.Proofs.TextPieces

namespace BearerTrust

namespace ClaimRequirement

/-- A text says the name before its first `=` and the value after it, both without the blanks around them. -/
inductive Says : String → ClaimRequirement → Prop
  | mk {before after : String} {r : ClaimRequirement} (hfirst : '=' ∉ before.toList)
      (hname : Text.TrimsTo before r.name) (hne : r.name ≠ "") (hvalue : Text.TrimsTo after r.value) :
      Says (before ++ "=" ++ after) r

/-- There is something, but no name: no `=`, or only blanks before the first one. -/
structure Faulty (spec : String) : Prop where
  solid : ¬Text.Blank spec
  nameless : '=' ∉ spec.toList ∨ ∃ before after, Text.Blank before ∧ spec = before ++ "=" ++ after

def fault (spec : String) : RequirementError := ⟨String.ofList (Text.trim spec.toList)⟩

structure Writable (r : ClaimRequirement) : Prop where
  name_ne : r.name ≠ ""
  name_trimmed : Text.Trimmed r.name.toList
  name_unmarked : '=' ∉ r.name.toList
  value_trimmed : Text.Trimmed r.value.toList

variable {spec : String} {r : ClaimRequirement}

theorem toList_marked (before after : String) :
    (before ++ "=" ++ after).toList = before.toList ++ '=' :: after.toList := by
  simp

theorem parse_of_blank (h : Text.Blank spec) : parse spec = .ok none := by
  rw [parse, Text.blank_iff_trim.1 h]
  rfl

theorem parse_said (h : Says spec r) : parse spec = .ok (some r) := by
  obtain ⟨hfirst, hname, hne, hvalue⟩ := h
  rename_i before after
  have hmark : '=' ∉ Text.trimStart before.toList := fun hmem =>
    hfirst ((List.dropWhile_suffix _).subset hmem)
  have hmiddle : (Text.trimStart before.toList ++ '=' :: Text.trimEnd after.toList).isEmpty = false := by simp
  have hsolid : r.name.toList.isEmpty = false := by
    rwa [List.isEmpty_eq_false_iff, ne_eq, String.toList_eq_nil_iff]
  simp only [parse, toList_marked, Text.trim_append_cons (c := '=') (by decide), hmiddle, cut?_append hmark,
    Text.trim_trimStart, Text.trim_trimEnd, Text.trimsTo_iff.1 hname, Text.trimsTo_iff.1 hvalue, hsolid,
    String.ofList_toList]
  rfl

theorem fault_eq_iff {e : RequirementError} : e = fault spec ↔ Text.TrimsTo spec e.spec := by
  rw [Text.trimsTo_iff]
  constructor
  · rintro rfl
    exact String.toList_ofList.symm
  · intro h
    rw [fault, h, String.ofList_toList]

theorem parse_of_faulty (h : Faulty spec) : parse spec = .error (fault spec) := by
  have hsolid : Text.trim spec.toList ≠ [] := mt Text.blank_iff_trim.2 h.solid
  rw [parse, if_neg (mt List.isEmpty_iff.1 hsolid)]
  rcases h.nameless with hnone | ⟨before, after, hbefore, rfl⟩
  · have hcut : cut? '=' (Text.trim spec.toList) = none :=
      cut?_eq_none_iff.2 (mt Text.mem_of_mem_trim hnone)
    rw [hcut]
    rfl
  · have hstart : Text.trimStart before.toList = [] := List.dropWhile_eq_nil_iff.2 hbefore
    have hcut : cut? '=' (Text.trim (before ++ "=" ++ after).toList) = some ([], Text.trimEnd after.toList) := by
      rw [toList_marked, Text.trim_append_cons (by decide), hstart]
      exact cut?_append List.not_mem_nil _
    rw [hcut]
    rfl

theorem blank_or_faulty_or_says (spec : String) : Text.Blank spec ∨ Faulty spec ∨ ∃ r, Says spec r := by
  by_cases hblank : Text.Blank spec
  · exact .inl hblank
  · refine .inr ?_
    by_cases hmark : '=' ∈ spec.toList
    · obtain ⟨before, after, hspec, hfirst⟩ := List.eq_append_cons_of_mem hmark
      obtain rfl : spec = String.ofList before ++ "=" ++ String.ofList after := by
        rw [← String.toList_inj, toList_marked, String.toList_ofList, String.toList_ofList, hspec]
      obtain ⟨name, hname⟩ := Text.exists_trimsTo (String.ofList before)
      obtain ⟨value, hvalue⟩ := Text.exists_trimsTo (String.ofList after)
      by_cases hne : name = ""
      · exact .inl ⟨hblank, .inr ⟨_, _, hname.blank_iff.2 hne, rfl⟩⟩
      · exact .inr ⟨⟨name, value⟩, .mk (by rwa [String.toList_ofList]) hname hne hvalue⟩
    · exact .inl ⟨hblank, .inl hmark⟩

theorem parse_eq_none_iff : parse spec = .ok none ↔ Text.Blank spec := by
  refine ⟨fun h => ?_, parse_of_blank⟩
  rcases blank_or_faulty_or_says spec with hblank | hfaulty | ⟨r, hsays⟩
  · exact hblank
  · rw [parse_of_faulty hfaulty] at h
    cases h
  · rw [parse_said hsays] at h
    cases h

theorem parse_eq_some_iff : parse spec = .ok (some r) ↔ Says spec r := by
  refine ⟨fun h => ?_, parse_said⟩
  rcases blank_or_faulty_or_says spec with hblank | hfaulty | ⟨r, hsays⟩
  · rw [parse_of_blank hblank] at h
    cases h
  · rw [parse_of_faulty hfaulty] at h
    cases h
  · rw [parse_said hsays] at h
    cases h
    exact hsays

theorem parse_eq_error_iff {e : RequirementError} :
    parse spec = .error e ↔ Faulty spec ∧ Text.TrimsTo spec e.spec := by
  rw [← fault_eq_iff]
  constructor
  · intro h
    rcases blank_or_faulty_or_says spec with hblank | hfaulty | ⟨r, hsays⟩
    · rw [parse_of_blank hblank] at h
      cases h
    · rw [parse_of_faulty hfaulty] at h
      cases h
      exact ⟨hfaulty, rfl⟩
    · rw [parse_said hsays] at h
      cases h
  · rintro ⟨hfaulty, rfl⟩
    exact parse_of_faulty hfaulty

theorem Says.not_blank (h : Says spec r) : ¬Text.Blank spec := by
  intro hblank
  have hread := (parse_said h).symm.trans (parse_of_blank hblank)
  cases hread

theorem Faulty.not_says (h : Faulty spec) : ¬Says spec r := by
  intro hsays
  have hread := (parse_said hsays).symm.trans (parse_of_faulty h)
  cases hread

theorem Says.writable (h : Says spec r) : r.Writable := by
  obtain ⟨hfirst, hname, hne, hvalue⟩ := h
  refine ⟨hne, hname.trimmed, fun hmark => hfirst (Text.mem_of_mem_trim ?_), hvalue.trimmed⟩
  rwa [Text.trimsTo_iff.1 hname]

theorem Writable.says (h : r.Writable) : Says r.text r :=
  .mk h.name_unmarked (.self h.name_trimmed) h.name_ne (.self h.value_trimmed)

theorem parse_congr {spec' : String} (h : Text.trim spec.toList = Text.trim spec'.toList) :
    parse spec = parse spec' := by
  rw [parse, h, parse]

/-- A requirement is read back from its own text exactly if it has a name, without `=`, and neither name nor
value has blanks at its ends. All requirements that are read are of this kind, so they are printed in a way that
is read alike, and blanks around a text make no difference. -/
theorem parse_text_exact :
    (∀ r : ClaimRequirement, parse r.text = .ok (some r) ↔ r.Writable) ∧
    (∀ spec r, parse spec = .ok (some r) → r.Writable ∧ parse r.text = parse spec) ∧
    ∀ before spec after, Text.Blank before → Text.Blank after → parse (before ++ spec ++ after) = parse spec := by
  refine ⟨fun r => ?_, fun spec r h => ?_, fun before spec after hbefore hafter => ?_⟩
  · rw [parse_eq_some_iff]
    exact ⟨Says.writable, Writable.says⟩
  · have hwritable := (parse_eq_some_iff.1 h).writable
    exact ⟨hwritable, (parse_said hwritable.says).trans h.symm⟩
  · refine parse_congr ?_
    rw [String.toList_append, String.toList_append]
    exact Text.trim_blank_around hbefore hafter

end ClaimRequirement

namespace Sample

def spaced : String := "\u2003acr =\ta = b\u00a0"

theorem parse_text_exact_spaced : ClaimRequirement.parse spaced = .ok (some ⟨"acr", "a = b"⟩) ∧
    (ClaimRequirement.mk "acr" "a = b").Writable ∧
    ClaimRequirement.parse (ClaimRequirement.mk "acr" "a = b").text = ClaimRequirement.parse spaced ∧
    Text.Blank "\u3000" ∧ Text.Blank "\n" ∧
    ClaimRequirement.parse ("\u3000" ++ spaced ++ "\n") = .ok (some ⟨"acr", "a = b"⟩) := by
  have hread : ClaimRequirement.parse spaced = .ok (some ⟨"acr", "a = b"⟩) := by decide +kernel
  have hbefore : Text.Blank "\u3000" := by decide
  have hafter : Text.Blank "\n" := by decide
  obtain ⟨-, hback, haround⟩ := ClaimRequirement.parse_text_exact
  obtain ⟨hwritable, htext⟩ := hback _ _ hread
  exact ⟨hread, hwritable, htext, hbefore, hafter, (haround _ _ _ hbefore hafter).trans hread⟩

end Sample
end BearerTrust

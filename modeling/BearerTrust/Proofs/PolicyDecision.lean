import BearerTrust.Policy
import BearerTrust.Proofs.Steps
import Mathlib.Data.List.Perm.Basic

namespace BearerTrust

namespace IssuerRequirement

def Accepts (r : IssuerRequirement) (claims : Claims) : Prop :=
  match r.combinator with
  | .all => ∀ q ∈ r.claims, q.isSatisfiedBy claims = true
  | .any => r.claims = [] ∨ ∃ q ∈ r.claims, q.isSatisfiedBy claims = true

def Presented (c : Context) (r : IssuerRequirement) : Prop := ∃ t, c.token? r.issuer = some t

/-- The issuer has a token in the context that is sufficient. -/
def Satisfied (c : Context) (r : IssuerRequirement) : Prop :=
  ∃ t, c.token? r.issuer = some t ∧ r.Accepts t.claims

instance (c : Context) (r : IssuerRequirement) : Decidable (r.Presented c) :=
  decidable_of_iff ((c.token? r.issuer).isSome = true) Option.isSome_iff_exists

variable {c : Context} {r : IssuerRequirement}

theorem accepts_iff (r : IssuerRequirement) (claims : Claims) :
    r.accepts claims = true ↔ r.Accepts claims := by
  unfold accepts Accepts
  cases r.combinator with
  | all => rw [List.all_eq_true]
  | any => rw [Bool.or_eq_true, List.isEmpty_iff, List.any_eq_true]

theorem Satisfied.presented (h : r.Satisfied c) : r.Presented c := by
  obtain ⟨t, ht, -⟩ := h
  exact ⟨t, ht⟩

theorem claims?_of_absent (h : ¬r.Presented c) : c.claims? r.issuer = none := by
  cases ht : c.token? r.issuer with
  | none => rw [Context.claims?, ht, Option.map_none]
  | some t => exact absurd ⟨t, ht⟩ h

theorem claims?_of_token {t : Token} (h : c.token? r.issuer = some t) :
    c.claims? r.issuer = some t.claims := by
  rw [Context.claims?, h, Option.map_some]

end IssuerRequirement

namespace Policy

variable {c : Context} {missing : List String} {unmet rs : List IssuerRequirement}
  {r : IssuerRequirement}

theorem evaluateAll_cons_satisfied (h : r.Satisfied c) :
    evaluateAll c missing unmet (r :: rs) = .ok () := by
  obtain ⟨t, ht, haccepts⟩ := h
  rw [evaluateAll, IssuerRequirement.claims?_of_token ht]
  exact if_pos ((r.accepts_iff _).2 haccepts)

theorem evaluateAll_cons_absent (h : ¬r.Presented c) :
    evaluateAll c missing unmet (r :: rs) = evaluateAll c (missing ++ [r.issuer]) unmet rs := by
  rw [evaluateAll, IssuerRequirement.claims?_of_absent h]

theorem evaluateAll_cons_insufficient (h : r.Presented c) (hr : ¬r.Satisfied c) :
    evaluateAll c missing unmet (r :: rs) = evaluateAll c missing (unmet ++ [r]) rs := by
  obtain ⟨t, ht⟩ := h
  rw [evaluateAll, IssuerRequirement.claims?_of_token ht]
  exact if_neg fun haccepts => hr ⟨t, ht, (r.accepts_iff _).1 haccepts⟩

theorem evaluateAll_of_satisfied (hr : r ∈ rs) (h : r.Satisfied c) :
    evaluateAll c missing unmet rs = .ok () := by
  -- For all accumulators: the requirements in front of `r` add to either of them.
  induction rs generalizing missing unmet with
  | nil => cases hr
  | cons s rs ih =>
    by_cases hs : s.Satisfied c
    · exact evaluateAll_cons_satisfied hs
    · have hmem : r ∈ rs := by
        rcases List.mem_cons.1 hr with rfl | hmem
        · exact absurd h hs
        · exact hmem
      by_cases hp : s.Presented c
      · rw [evaluateAll_cons_insufficient hp hs]
        exact ih hmem
      · rw [evaluateAll_cons_absent hp]
        exact ih hmem

theorem evaluateAll_of_unsatisfied (h : ∀ r ∈ rs, ¬r.Satisfied c) :
    evaluateAll c missing unmet rs =
      evaluateAll c (missing ++ (rs.filter (¬·.Presented c)).map IssuerRequirement.issuer)
        (unmet ++ rs.filter (·.Presented c)) [] := by
  induction rs generalizing missing unmet with
  | nil => simp
  | cons s rs ih =>
    obtain ⟨hs, hrs⟩ := List.forall_mem_cons.1 h
    by_cases hp : s.Presented c
    · rw [evaluateAll_cons_insufficient hp hs, ih hrs]
      simp [hp]
    · rw [evaluateAll_cons_absent hp, ih hrs]
      simp [hp]

end Policy

/-- What is decided where there may be a policy. -/
inductive Decided (c : Context) : Option Policy → Except Denial Unit → Prop
  | misconfigured : Decided c none (.error .misconfigured)
  | unprotected : Decided c (some .unprotected) (.ok ())
  | someToken (h : c.tokens ≠ []) : Decided c (some .anyToken) (.ok ())
  | noToken (h : c.tokens = []) : Decided c (some .anyToken) (.error (.tokenMissing []))
  | satisfied (rs : List IssuerRequirement) (h : ∃ r ∈ rs, r.Satisfied c) :
      Decided c (some (.anyOf rs)) (.ok ())
  | missing (rs : List IssuerRequirement) (h : ∀ r ∈ rs, ¬r.Presented c) :
      Decided c (some (.anyOf rs)) (.error (.tokenMissing (rs.map IssuerRequirement.issuer)))
  | mismatch (rs : List IssuerRequirement) (h : ∀ r ∈ rs, ¬r.Satisfied c)
      (hp : ∃ r ∈ rs, r.Presented c) :
      Decided c (some (.anyOf rs)) (.error (.claimMismatch (rs.filter (·.Presented c))))

/-- The same decision, but for the order in which a denial names issuers or requirements. -/
inductive Rearranged : Except Denial Unit → Except Denial Unit → Prop
  | allowed : Rearranged (.ok ()) (.ok ())
  | missing {issuers issuers' : List String} (h : issuers.Perm issuers') :
      Rearranged (.error (.tokenMissing issuers)) (.error (.tokenMissing issuers'))
  | mismatch {unmet unmet' : List IssuerRequirement} (h : unmet.Perm unmet') :
      Rearranged (.error (.claimMismatch unmet)) (.error (.claimMismatch unmet'))

section

variable {c : Context} {policy : Option Policy} {d d' : Except Denial Unit}

theorem Decided.unique (h : Decided c policy d) (h' : Decided c policy d') : d = d' := by
  cases h with
  | misconfigured | unprotected => cases h'; rfl
  | someToken h =>
    cases h' with
    | someToken => rfl
    | noToken h' => exact absurd h' h
  | noToken h =>
    cases h' with
    | someToken h' => exact absurd h h'
    | noToken => rfl
  | satisfied rs h =>
    obtain ⟨r, hr, h⟩ := h
    cases h' with
    | satisfied => rfl
    | missing _ h' => exact absurd h.presented (h' r hr)
    | mismatch _ h' => exact absurd h (h' r hr)
  | missing rs h =>
    cases h' with
    | satisfied _ h' =>
      obtain ⟨r, hr, h'⟩ := h'
      exact absurd h'.presented (h r hr)
    | missing => rfl
    | mismatch _ _ h' =>
      obtain ⟨r, hr, h'⟩ := h'
      exact absurd h' (h r hr)
  | mismatch rs h hp =>
    cases h' with
    | satisfied _ h' =>
      obtain ⟨r, hr, h'⟩ := h'
      exact absurd h' (h r hr)
    | missing _ h' =>
      obtain ⟨r, hr, hp⟩ := hp
      exact absurd hp (h' r hr)
    | mismatch => rfl

end

namespace Policy

variable {c : Context} {policy : Option Policy} {d : Except Denial Unit}

theorem decided_anyOf (c : Context) (rs : List IssuerRequirement) :
    Decided c (some (.anyOf rs)) (evaluateAll c [] [] rs) := by
  by_cases hs : ∃ r ∈ rs, r.Satisfied c
  · obtain ⟨r, hr, h⟩ := hs
    rw [evaluateAll_of_satisfied hr h]
    exact .satisfied rs ⟨r, hr, h⟩
  · have hnone : ∀ r ∈ rs, ¬r.Satisfied c := fun r hr h => hs ⟨r, hr, h⟩
    rw [evaluateAll_of_unsatisfied hnone, List.nil_append, List.nil_append, evaluateAll]
    by_cases hp : ∃ r ∈ rs, r.Presented c
    · obtain ⟨r, hr, h⟩ := hp
      have hmem : r ∈ rs.filter (·.Presented c) := List.mem_filter.2 ⟨hr, decide_eq_true h⟩
      rw [if_neg fun hempty => List.ne_nil_of_mem hmem (List.isEmpty_iff.1 hempty)]
      exact .mismatch rs hnone ⟨r, hr, h⟩
    · have habsent : ∀ r ∈ rs, ¬r.Presented c := fun r hr h => hp ⟨r, hr, h⟩
      have hshort : rs.filter (·.Presented c) = [] :=
        List.filter_eq_nil_iff.2 fun r hr => by simpa using habsent r hr
      have hall : rs.filter (¬·.Presented c) = rs :=
        List.filter_eq_self.2 fun r hr => by simpa using habsent r hr
      rw [hshort, hall]
      exact .missing rs habsent

theorem decided_decision (policy : Option Policy) (c : Context) :
    Decided c policy (decision policy c) := by
  match policy with
  | none => exact .misconfigured
  | some .unprotected => exact .unprotected
  | some .anyToken =>
    by_cases h : c.tokens = []
    · simpa [decision, evaluate, Context.hasToken, h] using Decided.noToken h
    · simpa [decision, evaluate, Context.hasToken, h] using Decided.someToken h
  | some (.anyOf rs) => exact decided_anyOf c rs

theorem decision_eq_iff : decision policy c = d ↔ Decided c policy d := by
  constructor
  · rintro rfl
    exact decided_decision policy c
  · intro h
    exact (decided_decision policy c).unique h

end Policy

def Context.Within (c c' : Context) : Prop := ∀ n t, c.token? n = some t → c'.token? n = some t

theorem Context.within_insert {c : Context} {n : String} (h : c.token? n = none) (t : Token) :
    c.Within (c.insert n t) := by
  intro m u hm
  have hne : m ≠ n := by
    rintro rfl
    rw [h] at hm
    cases hm
  rw [Context.token?_insert_of_ne hne, hm]

theorem Context.tokens_ne_nil_iff {c : Context} : c.tokens ≠ [] ↔ ∃ n t, c.token? n = some t := by
  constructor
  · intro h
    obtain ⟨⟨n, t⟩, rest, hc⟩ := List.exists_cons_of_ne_nil h
    refine ⟨n, t, ?_⟩
    simp [Context.token?, hc, Table.get?]
  · rintro ⟨n, t, h⟩
    exact List.ne_nil_of_mem (Table.mem_of_get? h)

section Within

variable {c c' : Context} {r : IssuerRequirement}

theorem IssuerRequirement.Presented.mono (hc : c.Within c') (h : r.Presented c) : r.Presented c' := by
  obtain ⟨t, ht⟩ := h
  exact ⟨t, hc _ _ ht⟩

theorem IssuerRequirement.Satisfied.mono (hc : c.Within c') (h : r.Satisfied c) : r.Satisfied c' := by
  obtain ⟨t, ht, haccepts⟩ := h
  exact ⟨t, hc _ _ ht, haccepts⟩

theorem Decided.allowed_mono (hc : c.Within c') {policy : Option Policy}
    (h : Decided c policy (.ok ())) : Decided c' policy (.ok ()) := by
  cases h with
  | unprotected => exact .unprotected
  | someToken h =>
    obtain ⟨n, t, ht⟩ := Context.tokens_ne_nil_iff.1 h
    exact .someToken (Context.tokens_ne_nil_iff.2 ⟨n, t, hc n t ht⟩)
  | satisfied rs h =>
    obtain ⟨r, hr, h⟩ := h
    exact .satisfied rs ⟨r, hr, h.mono hc⟩

theorem Decided.not_missing (hc : c.Within c') {policy : Option Policy}
    {unmet : List IssuerRequirement} {issuers : List String}
    (h : Decided c policy (.error (.claimMismatch unmet))) :
    ¬Decided c' policy (.error (.tokenMissing issuers)) := by
  cases h with
  | mismatch rs _ hp =>
    obtain ⟨r, hr, hp⟩ := hp
    intro h'
    cases h' with
    | missing _ h' => exact h' r hr (hp.mono hc)

end Within

theorem Decided.perm {c : Context} {rs rs' : List IssuerRequirement} {d : Except Denial Unit}
    (hrs : rs.Perm rs') (h : Decided c (some (.anyOf rs)) d) :
    ∃ d', Decided c (some (.anyOf rs')) d' ∧ Rearranged d d' := by
  cases h with
  | satisfied _ h =>
    obtain ⟨r, hr, h⟩ := h
    exact ⟨_, .satisfied rs' ⟨r, hrs.mem_iff.1 hr, h⟩, .allowed⟩
  | missing _ h =>
    exact ⟨_, .missing rs' fun r hr => h r (hrs.mem_iff.2 hr), .missing (hrs.map _)⟩
  | mismatch _ h hp =>
    obtain ⟨r, hr, hp⟩ := hp
    exact ⟨_, .mismatch rs' (fun r hr => h r (hrs.mem_iff.2 hr)) ⟨r, hrs.mem_iff.1 hr, hp⟩,
      .mismatch (hrs.filter _)⟩

theorem Policy.withClaims_eq_ok {issuer : String} {specs : List String} {p : Policy}
    (h : Policy.withClaims issuer specs = .ok p) :
    ∃ r, IssuerRequirement.withClaims issuer specs .all = .ok r ∧ p = .anyOf [r] := by
  obtain ⟨r, hr, rfl⟩ := map_eq_ok_iff.1 h
  exact ⟨r, hr, rfl⟩

/-- A decision is the one that the rules give. A token of an issuer that had none neither takes an
allowance away nor turns a denial for claims into one for want of a token. Requirements may be put in
another order. -/
theorem Policy.decision_exact :
    (∀ policy c d, decision policy c = d ↔ Decided c policy d) ∧
    (∀ issuer specs p, withClaims issuer specs = .ok p →
      ∃ r, IssuerRequirement.withClaims issuer specs .all = .ok r ∧ p = .anyOf [r]) ∧
    (∀ policy c n t, c.token? n = none →
      (decision policy c = .ok () → decision policy (c.insert n t) = .ok ()) ∧
      ∀ unmet, decision policy c = .error (.claimMismatch unmet) →
        ∀ issuers, decision policy (c.insert n t) ≠ .error (.tokenMissing issuers)) ∧
    ∀ c rs rs', rs.Perm rs' →
      Rearranged (decision (some (.anyOf rs)) c) (decision (some (.anyOf rs')) c) := by
  refine ⟨fun _ _ _ => decision_eq_iff, fun _ _ _ => withClaims_eq_ok, ?_, ?_⟩
  · intro policy c n t hn
    have hc := Context.within_insert hn t
    refine ⟨fun h => ?_, fun unmet h issuers h' => ?_⟩
    · exact decision_eq_iff.2 ((decision_eq_iff.1 h).allowed_mono hc)
    · exact (decision_eq_iff.1 h).not_missing hc (decision_eq_iff.1 h')
  · intro c rs rs' hrs
    obtain ⟨d', hd', h⟩ := (decided_decision (some (.anyOf rs)) c).perm hrs
    rw [decision_eq_iff.2 hd']
    exact h

namespace Sample

def levelToken (level : String) : Token :=
  ⟨"", ⟨none, none, [], none, none, none, [("acr", .string level)]⟩⟩

def levelFour : IssuerRequirement := { issuer := "local", claims := [⟨"acr", "Level4"⟩] }

def anyOther : IssuerRequirement := { issuer := "other" }

def levelThree : Context := ⟨[("local", levelToken "Level3")]⟩

theorem decision_exact_levels :
    Policy.withClaims "local" ["acr=Level4"] = .ok (.anyOf [levelFour]) ∧
    (∃ r, IssuerRequirement.withClaims "local" ["acr=Level4"] .all = .ok r ∧
      Policy.anyOf [levelFour] = .anyOf [r]) ∧
    levelThree.token? "other" = none ∧
    Decided levelThree (some (.anyOf [levelFour, anyOther])) (.error (.claimMismatch [levelFour])) ∧
    (∀ issuers, Policy.decision (some (.anyOf [levelFour, anyOther]))
      (levelThree.insert "other" (levelToken "Level1")) ≠ .error (.tokenMissing issuers)) ∧
    Policy.decision (some (.anyOf [levelFour, anyOther]))
      ((levelThree.insert "other" (levelToken "Level1")).insert "third" (levelToken "")) = .ok () ∧
    [levelFour, anyOther].Perm [anyOther, levelFour] ∧
    Rearranged (Policy.decision (some (.anyOf [levelFour, anyOther])) levelThree)
      (Policy.decision (some (.anyOf [anyOther, levelFour])) levelThree) := by
  have hspecs : Policy.withClaims "local" ["acr=Level4"] = .ok (.anyOf [levelFour]) := by decide +kernel
  have hother : levelThree.token? "other" = none := by decide
  have hthird : (levelThree.insert "other" (levelToken "Level1")).token? "third" = none := by decide
  have hlow : Policy.decision (some (.anyOf [levelFour, anyOther])) levelThree =
      .error (.claimMismatch [levelFour]) := by
    decide
  have hallowed : Policy.decision (some (.anyOf [levelFour, anyOther]))
      (levelThree.insert "other" (levelToken "Level1")) = .ok () := by
    decide
  have hperm : [levelFour, anyOther].Perm [anyOther, levelFour] := .swap _ _ _
  obtain ⟨hdecided, hone, hmore, horder⟩ := Policy.decision_exact
  exact ⟨hspecs, hone _ _ _ hspecs, hother, (hdecided _ _ _).1 hlow, (hmore _ _ _ _ hother).2 _ hlow,
    (hmore _ _ _ (levelToken "") hthird).1 hallowed, hperm, horder _ _ _ hperm⟩

end Sample
end BearerTrust

import BearerTrust.Proofs.PolicyDecision

namespace BearerTrust

namespace Policy

/-- Policies of one form that name the same issuers in the same order, whatever they ask of claims. -/
inductive SameForm : Option Policy → Option Policy → Prop
  | absent : SameForm none none
  | unprotected : SameForm (some .unprotected) (some .unprotected)
  | anyToken : SameForm (some .anyToken) (some .anyToken)
  | anyOf {rs rs' : List IssuerRequirement}
      (h : rs.map IssuerRequirement.issuer = rs'.map IssuerRequirement.issuer) :
      SameForm (some (.anyOf rs)) (some (.anyOf rs'))

end Policy

/-- Contexts with tokens of the same issuers, whatever the tokens claim. -/
def Context.SameIssuers (c c' : Context) : Prop := ∀ n, n ∈ c.issuers ↔ n ∈ c'.issuers

/-- Denials of one kind that name the same issuers in the same order. -/
inductive Denial.Alike : Denial → Denial → Prop
  | missing (issuers : List String) : Alike (.tokenMissing issuers) (.tokenMissing issuers)
  | mismatch {unmet unmet' : List IssuerRequirement}
      (h : unmet.map IssuerRequirement.issuer = unmet'.map IssuerRequirement.issuer) :
      Alike (.claimMismatch unmet) (.claimMismatch unmet')
  | misconfigured : Alike .misconfigured .misconfigured

section

variable {c c' : Context}

theorem Context.token?_eq_some {n : String} : (∃ t, c.token? n = some t) ↔ n ∈ c.issuers := by
  rw [← Option.isSome_iff_exists, Option.isSome_iff_ne_none, Context.token?, Ne,
    Table.get?_eq_none_iff, not_not, Context.issuers]

theorem IssuerRequirement.presented_iff {r : IssuerRequirement} : r.Presented c ↔ r.issuer ∈ c.issuers :=
  Context.token?_eq_some

theorem IssuerRequirement.map_filter_presented (c : Context) (rs : List IssuerRequirement) :
    (rs.filter (·.Presented c)).map issuer = (rs.map issuer).filter (· ∈ c.issuers) := by
  rw [List.filter_map]
  congr 1
  apply List.filter_congr
  intro r _
  simp only [presented_iff, Function.comp_apply]

theorem Context.SameIssuers.map_filter_presented (h : c.SameIssuers c') {rs rs' : List IssuerRequirement}
    (hrs : rs.map IssuerRequirement.issuer = rs'.map IssuerRequirement.issuer) :
    (rs.filter (·.Presented c)).map IssuerRequirement.issuer =
      (rs'.filter (·.Presented c')).map IssuerRequirement.issuer := by
  rw [IssuerRequirement.map_filter_presented, IssuerRequirement.map_filter_presented, hrs]
  simp only [h _]

theorem Context.SameIssuers.presented (h : c.SameIssuers c') {rs rs' : List IssuerRequirement}
    (hrs : rs.map IssuerRequirement.issuer = rs'.map IssuerRequirement.issuer)
    (hp : ∃ r ∈ rs, r.Presented c) : ∃ r ∈ rs', r.Presented c' := by
  obtain ⟨r, hr, hp⟩ := hp
  have hname : r.issuer ∈ rs'.map IssuerRequirement.issuer := by
    rw [← hrs]
    exact List.mem_map_of_mem hr
  obtain ⟨r', hr', hsame⟩ := List.mem_map.1 hname
  refine ⟨r', hr', IssuerRequirement.presented_iff.2 ?_⟩
  rw [hsame]
  exact (h r.issuer).1 (IssuerRequirement.presented_iff.1 hp)

end

theorem Context.SameIssuers.symm {c c' : Context} (h : c.SameIssuers c') : c'.SameIssuers c :=
  fun n => (h n).symm

theorem Decided.denials_alike {c c' : Context} {p p' : Option Policy} {d d' : Denial}
    (hp : Policy.SameForm p p') (hc : c.SameIssuers c') (h : Decided c p (.error d))
    (h' : Decided c' p' (.error d')) : d.Alike d' := by
  cases hp with
  | absent =>
    cases h
    cases h'
    exact .misconfigured
  | unprotected => cases h
  | anyToken =>
    cases h
    cases h'
    exact .missing []
  | anyOf hrs =>
    cases h with
    | missing rs hnone =>
      cases h' with
      | missing rs' =>
        rw [hrs]
        exact .missing _
      | mismatch rs' _ hsome =>
        obtain ⟨r, hr, hpresented⟩ := hc.symm.presented hrs.symm hsome
        exact absurd hpresented (hnone r hr)
    | mismatch rs _ hsome =>
      cases h' with
      | missing rs' hnone =>
        obtain ⟨r, hr, hpresented⟩ := hc.presented hrs hsome
        exact absurd hpresented (hnone r hr)
      | mismatch rs' => exact .mismatch (hc.map_filter_presented hrs)

namespace Denial

variable {d d' : Denial}

theorem Alike.message_eq (h : d.Alike d') : d.message = d'.message := by
  cases h with
  | missing | misconfigured => rfl
  | mismatch h =>
    change _ ++ issuersText _ = _ ++ issuersText _
    rw [h]

theorem Alike.response_eq (h : d.Alike d') : d.response = d'.response := by
  cases h <;> rfl

theorem status_response (d : Denial) : d.response.status = d.status := by
  cases d <;> rfl

theorem body_response (d : Denial) : d.response.body = "" := by
  cases d <;> rfl

theorem response_eq_unauthorized_iff : d.response = unauthorized ↔ ∃ issuers, d = .tokenMissing issuers := by
  cases d <;> simp [response, unauthorized, forbidden]

theorem response_eq_forbidden_iff : d.response = forbidden ↔ ∀ issuers, d ≠ .tokenMissing issuers := by
  cases d <;> simp [response, unauthorized, forbidden]

end Denial

/-- Two denials look alike if the policies are of one form and name the same issuers, and the contexts
have tokens of the same issuers: same status, same response with no body, same message. A response says
that a token is missing exactly if the denial does, and else that the one presented will not do. -/
theorem Policy.denials_look_alike :
    (∀ p p' c c' d d', SameForm p p' → c.SameIssuers c' → decision p c = .error d →
      decision p' c' = .error d' →
        d.status = d'.status ∧ d.response = d'.response ∧ d.response.body = "" ∧ d.message = d'.message) ∧
    ∀ d : Denial,
      (d.response = ⟨401, "Bearer error=\"invalid_token\"", ""⟩ ↔ ∃ issuers, d = .tokenMissing issuers) ∧
      (d.response = ⟨403, "Bearer error=\"insufficient_scope\"", ""⟩ ↔
        ∀ issuers, d ≠ .tokenMissing issuers) ∧
      d.status = d.response.status := by
  constructor
  · intro p p' c c' d d' hp hc h h'
    have halike : d.Alike d' := Decided.denials_alike hp hc (decision_eq_iff.1 h) (decision_eq_iff.1 h')
    refine ⟨?_, halike.response_eq, d.body_response, halike.message_eq⟩
    rw [← d.status_response, ← d'.status_response, halike.response_eq]
  · intro d
    exact ⟨Denial.response_eq_unauthorized_iff, Denial.response_eq_forbidden_iff, d.status_response.symm⟩

namespace Sample

def anyLevel : IssuerRequirement where
  issuer := "local"
  claims := [⟨"acr", "Level1"⟩, ⟨"amr", "otp"⟩]
  combinator := .any

def levelTwo : Context := ⟨[("local", levelToken "Level2")]⟩

theorem denials_look_alike_levels :
    Policy.SameForm (some (.anyOf [levelFour, anyOther])) (some (.anyOf [anyLevel, anyOther])) ∧
    levelThree.SameIssuers levelTwo ∧
    Policy.decision (some (.anyOf [levelFour, anyOther])) levelThree =
      .error (.claimMismatch [levelFour]) ∧
    Policy.decision (some (.anyOf [anyLevel, anyOther])) levelTwo = .error (.claimMismatch [anyLevel]) ∧
    (Denial.claimMismatch [levelFour]).message = (Denial.claimMismatch [anyLevel]).message := by
  have hform : Policy.SameForm (some (.anyOf [levelFour, anyOther]))
      (some (.anyOf [anyLevel, anyOther])) :=
    .anyOf rfl
  have hissuers : levelThree.SameIssuers levelTwo := fun n => Iff.rfl
  have hfirst : Policy.decision (some (.anyOf [levelFour, anyOther])) levelThree =
      .error (.claimMismatch [levelFour]) := by
    decide
  have hsecond : Policy.decision (some (.anyOf [anyLevel, anyOther])) levelTwo =
      .error (.claimMismatch [anyLevel]) := by
    decide
  obtain ⟨hlook, -⟩ := Policy.denials_look_alike
  obtain ⟨-, -, -, hmessage⟩ := hlook _ _ _ _ _ _ hform hissuers hfirst hsecond
  exact ⟨hform, hissuers, hfirst, hsecond, hmessage⟩

end Sample
end BearerTrust

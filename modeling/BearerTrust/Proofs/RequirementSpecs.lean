import BearerTrust.Proofs.ClaimMatching
import BearerTrust.Proofs.PolicyDecision
import BearerTrust.Proofs.RequirementText

namespace BearerTrust

namespace ClaimRequirement

variable {specs : List String} {qs : List ClaimRequirement} {q : ClaimRequirement} {spec : String}

theorem parseAll_cons (spec : String) (specs : List String) :
    parseAll (spec :: specs) = parse spec >>= fun first => parseAll specs >>= fun rest =>
      .ok (first.toList ++ rest) :=
  rfl

theorem parse_inTurn (spec : String) : InTurn (fun s => ¬Faulty s) fault [spec] (parse spec) := by
  rcases blank_or_faulty_or_says spec with hblank | hfaulty | ⟨r, hsays⟩
  · rw [parse_of_blank hblank]
    exact .met (fun hfaulty => hfaulty.solid hblank) (.done _)
  · rw [parse_of_faulty hfaulty]
    exact .unmet (not_not_intro hfaulty)
  · rw [parse_said hsays]
    exact .met (fun hfaulty => hfaulty.not_says hsays) (.done _)

theorem parseAll_inTurn (specs : List String) :
    InTurn (fun s => ¬Faulty s) fault specs (parseAll specs) := by
  induction specs with
  | nil => exact .done _
  | cons spec specs ih =>
    have hrest (first : Option ClaimRequirement) : InTurn (fun s => ¬Faulty s) fault specs
        (parseAll specs >>= fun rest => .ok (first.toList ++ rest)) := by
      have h := ih.bind fun rest _ => .done (first.toList ++ rest)
      rwa [List.append_nil] at h
    rw [parseAll_cons]
    exact (parse_inTurn spec).bind fun first _ => hrest first

theorem mem_parseAll_iff (h : parseAll specs = .ok qs) : q ∈ qs ↔ ∃ s ∈ specs, Says s q := by
  induction specs generalizing qs with
  | nil =>
    cases h
    simp
  | cons spec specs ih =>
    rw [parseAll_cons, bind_eq_ok_iff] at h
    obtain ⟨first, hfirst, h⟩ := h
    obtain ⟨rest, hrest, h⟩ := bind_eq_ok_iff.1 h
    cases h
    have hhead : q ∈ first.toList ↔ Says spec q := by
      rw [Option.mem_toList]
      constructor
      · rintro rfl
        exact parse_eq_some_iff.1 hfirst
      · intro hsays
        rw [parse_said hsays] at hfirst
        cases hfirst
        rfl
    simp only [List.mem_append, hhead, ih hrest, List.mem_cons, exists_eq_or_imp]

theorem parseAll_eq_nil_iff (h : parseAll specs = .ok qs) : qs = [] ↔ ∀ s ∈ specs, Text.Blank s := by
  have hsound : ∀ s ∈ specs, ¬Faulty s := (parseAll_inTurn specs).ok_iff.1 ⟨qs, h⟩
  rw [List.eq_nil_iff_forall_not_mem]
  constructor
  · intro hnone s hs
    rcases blank_or_faulty_or_says s with hblank | hfaulty | ⟨r, hsays⟩
    · exact hblank
    · exact absurd hfaulty (hsound s hs)
    · exact absurd ((mem_parseAll_iff h).2 ⟨s, hs, hsays⟩) (hnone r)
  · intro hblank q hq
    obtain ⟨s, hs, hsays⟩ := (mem_parseAll_iff h).1 hq
    exact hsays.not_blank (hblank s hs)

theorem parseAll_blank (h : Text.Blank spec) (before after : List String) :
    parseAll (before ++ spec :: after) = parseAll (before ++ after) := by
  induction before with
  | nil =>
    rw [List.nil_append, List.nil_append, parseAll_cons, parse_of_blank h]
    cases parseAll after <;> rfl
  | cons s before ih => rw [List.cons_append, List.cons_append, parseAll_cons, parseAll_cons, ih]

end ClaimRequirement

open ClaimRequirement

/-- The claim that a requirement names holds its value, in one of the ways in which claims match. -/
def ClaimRequirement.Carried (claims : Claims) (q : ClaimRequirement) : Prop :=
  ∃ x, claims.all.get? q.name = some x ∧ (x.Matches q.value ∨ x.ListsWritten q.value)

/-- The claims carry what texts say: all that they say, or something, if they say anything. -/
def Combinator.Met (specs : List String) (claims : Claims) : Combinator → Prop
  | .all => ∀ s ∈ specs, ∀ q, Says s q → q.Carried claims
  | .any => (∃ s ∈ specs, ∃ q, Says s q ∧ q.Carried claims) ∨ ∀ s ∈ specs, Text.Blank s

namespace IssuerRequirement

inductive Outcome where
  | allowed
  | noToken
  | mismatch

def outcome (r : IssuerRequirement) (c : Context) : Outcome :=
  match c.claims? r.issuer with
  | none => .noToken
  | some claims => if r.accepts claims then .allowed else .mismatch

def Outcome.decision (r : IssuerRequirement) : Outcome → Except Denial Unit
  | .allowed => .ok ()
  | .noToken => .error (.tokenMissing [r.issuer])
  | .mismatch => .error (.claimMismatch [r])

variable {issuer : String} {specs : List String} {k : Combinator} {r : IssuerRequirement} {c : Context}

theorem evaluateAll_cons (missing : List String) (unmet rs : List IssuerRequirement) :
    Policy.evaluateAll c missing unmet (r :: rs) =
      match r.outcome c with
      | .allowed => .ok ()
      | .noToken => Policy.evaluateAll c (missing ++ [r.issuer]) unmet rs
      | .mismatch => Policy.evaluateAll c missing (unmet ++ [r]) rs := by
  unfold outcome
  rw [Policy.evaluateAll]
  cases c.claims? r.issuer with
  | none => rfl
  | some claims =>
    dsimp only
    split <;> rfl

theorem decision_alone (r : IssuerRequirement) (c : Context) :
    Policy.decision (some (.anyOf [r])) c = (r.outcome c).decision r := by
  have h : Policy.decision (some (.anyOf [r])) c = Policy.evaluateAll c [] [] [r] := rfl
  rw [h, evaluateAll_cons]
  cases r.outcome c <;> rfl

theorem outcome_of_absent (h : c.token? r.issuer = none) : r.outcome c = .noToken := by
  rw [outcome, Context.claims?, h]
  rfl

theorem outcome_of_token {t : Token} (h : c.token? r.issuer = some t) :
    (r.outcome c = .allowed ↔ r.Accepts t.claims) ∧ (r.outcome c = .mismatch ↔ ¬r.Accepts t.claims) := by
  rw [outcome, claims?_of_token h, ← accepts_iff]
  dsimp only
  split
  · next haccepts => exact ⟨iff_of_true rfl haccepts, iff_of_false nofun (not_not_intro haccepts)⟩
  · next haccepts => exact ⟨iff_of_false nofun haccepts, iff_of_true rfl haccepts⟩

theorem withClaims_eq_ok_iff : withClaims issuer specs k = .ok r ↔
    r.issuer = issuer ∧ r.combinator = k ∧ ClaimRequirement.parseAll specs = .ok r.claims := by
  rw [withClaims, map_eq_ok_iff]
  constructor
  · rintro ⟨qs, hqs, rfl⟩
    exact ⟨rfl, rfl, hqs⟩
  · rintro ⟨rfl, rfl, hqs⟩
    exact ⟨_, hqs, rfl⟩

theorem accepts_iff_met (h : withClaims issuer specs k = .ok r) (claims : Claims) :
    r.Accepts claims ↔ k.Met specs claims := by
  obtain ⟨-, rfl, hqs⟩ := withClaims_eq_ok_iff.1 h
  unfold Accepts Combinator.Met Carried
  simp only [← Claims.hasValue_iff_matches]
  cases r.combinator with
  | all =>
    simp only [mem_parseAll_iff hqs]
    constructor
    · intro hall s hs q hsays
      exact hall q ⟨s, hs, hsays⟩
    · rintro hall q ⟨s, hs, hsays⟩
      exact hall s hs q hsays
  | any =>
    simp only [mem_parseAll_iff hqs, parseAll_eq_nil_iff hqs]
    rw [or_comm]
    refine or_congr_left ?_
    constructor
    · rintro ⟨q, ⟨s, hs, hsays⟩, hq⟩
      exact ⟨s, hs, q, hsays, hq⟩
    · rintro ⟨s, hs, q, hsays, hq⟩
      exact ⟨q, ⟨s, hs, hsays⟩, hq⟩

theorem withClaims_eq_error_iff {e : RequirementError} :
    withClaims issuer specs k = .error e ↔ ClaimRequirement.parseAll specs = .error e := by
  rw [withClaims, map_eq_error_iff]

/-- A requirement is made from texts unless one of them is at fault, and then the first such text is reported
without the blanks around it. What is made is met by a token exactly if its claims carry what the texts say, all
of it or some of it, and never without a token. Blank texts make no difference, wherever they stand. -/
theorem withClaims_exact (issuer : String) (specs : List String) (k : Combinator) :
    ((∃ e, withClaims issuer specs k = .error e) ↔ ∃ s ∈ specs, Faulty s) ∧
    (∀ e, withClaims issuer specs k = .error e ↔ ∃ before s after, specs = before ++ s :: after ∧
      (∀ b ∈ before, ¬Faulty b) ∧ Faulty s ∧ Text.TrimsTo s e.spec) ∧
    (∀ r, withClaims issuer specs k = .ok r → r.issuer = issuer ∧ r.combinator = k ∧ ∀ c : Context,
      Policy.decision (some (.anyOf [r])) c = (r.outcome c).decision r ∧
      (c.token? issuer = none → r.outcome c = .noToken) ∧
      ∀ t, c.token? issuer = some t → (r.outcome c = .allowed ↔ k.Met specs t.claims) ∧
        (r.outcome c = .mismatch ↔ ¬k.Met specs t.claims)) ∧
    ∀ before blank after, specs = before ++ blank :: after → Text.Blank blank →
      withClaims issuer specs k = withClaims issuer (before ++ after) k := by
  have hturn := parseAll_inTurn specs
  refine ⟨?_, fun e => ?_, fun r h => ?_, ?_⟩
  · simp only [withClaims_eq_error_iff]
    constructor
    · rintro ⟨e, he⟩
      obtain ⟨before, s, after, rfl, -, hs, -⟩ := (hturn.error_iff e).1 he
      exact ⟨s, by simp, not_not.1 hs⟩
    · rintro ⟨s, hs, hfaulty⟩
      cases hread : parseAll specs with
      | error e => exact ⟨e, rfl⟩
      | ok qs => exact absurd hfaulty (hturn.ok_iff.1 ⟨qs, hread⟩ s hs)
  · rw [withClaims_eq_error_iff, hturn.error_iff]
    refine exists₃_congr fun before s after => ?_
    rw [not_not, fault_eq_iff]
  · obtain ⟨rfl, rfl, -⟩ := withClaims_eq_ok_iff.1 h
    refine ⟨rfl, rfl, fun c => ⟨decision_alone r c, outcome_of_absent, fun t ht => ?_⟩⟩
    rw [← accepts_iff_met h]
    exact outcome_of_token ht
  · rintro before blank after rfl hblank
    rw [withClaims, parseAll_blank hblank, withClaims]

end IssuerRequirement

namespace Sample

def levelSpecs : List String := [" ", "\tacr = Level4\u00a0", "acr=Level3"]

def faultySpecs : List String := ["acr=Level4", "", "\u2003=x ", "oops"]

def eitherLevel : IssuerRequirement :=
  { issuer := "local", claims := [⟨"acr", "Level4"⟩, ⟨"acr", "Level3"⟩], combinator := .any }

theorem withClaims_exact_levels :
    IssuerRequirement.withClaims "local" levelSpecs .any = .ok eitherLevel ∧
    IssuerRequirement.withClaims "local" levelSpecs .any =
      IssuerRequirement.withClaims "local" levelSpecs.tail .any ∧
    levelThree.token? "local" = some (levelToken "Level3") ∧
    Combinator.any.Met levelSpecs (levelToken "Level3").claims ∧
    Policy.decision (some (.anyOf [eitherLevel])) levelThree = .ok () ∧
    Policy.decision (some (.anyOf [eitherLevel])) {} = .error (.tokenMissing ["local"]) ∧
    IssuerRequirement.withClaims "local" faultySpecs .all = .error ⟨"=x"⟩ ∧
    ∃ before s after, faultySpecs = before ++ s :: after ∧ Faulty s ∧ Text.TrimsTo s "=x" := by
  have hread : IssuerRequirement.withClaims "local" levelSpecs .any = .ok eitherLevel := by decide +kernel
  have hsays : Says "acr=Level3" ⟨"acr", "Level3"⟩ := parse_eq_some_iff.1 (by decide +kernel)
  have hmet : Combinator.any.Met levelSpecs (levelToken "Level3").claims :=
    .inl ⟨_, by simp [levelSpecs], _, hsays, .string "Level3", rfl, .inl (.text _)⟩
  have hfaulty : IssuerRequirement.withClaims "local" faultySpecs .all = .error ⟨"=x"⟩ := by decide +kernel
  obtain ⟨-, -, hmade, hblank⟩ := IssuerRequirement.withClaims_exact "local" levelSpecs .any
  obtain ⟨-, -, houtcome⟩ := hmade _ hread
  obtain ⟨hpresent, -, htoken⟩ := houtcome levelThree
  obtain ⟨habsent, hnone, -⟩ := houtcome {}
  rw [(htoken _ rfl).1.2 hmet] at hpresent
  rw [hnone rfl] at habsent
  obtain ⟨-, hfirst, -⟩ := IssuerRequirement.withClaims_exact "local" faultySpecs .all
  obtain ⟨before, s, after, hspecs, -, hs, htrims⟩ := (hfirst _).1 hfaulty
  exact ⟨hread, hblank [] " " _ rfl (by decide), rfl, hmet, hpresent, habsent, hfaulty,
    before, s, after, hspecs, hs, htrims⟩

end Sample
end BearerTrust

import BearerTrust.Proofs.Steps
import BearerTrust.Validator

namespace BearerTrust

/-- One thing that a validator asks of claims. -/
inductive Demand where
  | present (name : String)
  | issuedBy (issuer : String)
  | unexpired (skew : Seconds)
  | issued (skew : Seconds)
  | begun (skew : Seconds)
  | audienceNamed (isOptional : Bool)
  | audienceAccepted (accepted : List String) (isOptional : Bool)

/-- A claim is there when the map of claims has a value for it other than null. -/
def Claims.Has (c : Claims) (name : String) : Prop := ∃ x, c.all.get? name = some x ∧ x ≠ .null

namespace Demand

/-- Whether claims meet a demand at a time. Sums and differences are those of natural numbers. -/
def Met (c : Claims) (now : Seconds) : Demand → Prop
  | present name => c.Has name
  | issuedBy issuer => c.issuer = some issuer
  | unexpired skew => ∀ t, c.expires = some t → now.toNat - skew.toNat < t.toNat
  | issued skew => ∀ t, c.issuedAt = some t → t.toNat ≤ min (now.toNat + skew.toNat) (2 ^ 64 - 1)
  | begun skew => ∀ t, c.notBefore = some t → t.toNat ≤ min (now.toNat + skew.toNat) (2 ^ 64 - 1)
  | audienceNamed isOptional => isOptional = true ∨ c.audience ≠ []
  | audienceAccepted accepted isOptional =>
    (isOptional = true ∧ (accepted = [] ∨ c.audience = [])) ∨ ∃ a ∈ c.audience, a ∈ accepted

def error (c : Claims) : Demand → TokenError
  | present name => .missingClaim name
  | issuedBy issuer => .issuerMismatch issuer c.issuer
  | unexpired _ => .expired
  | issued _ => .notYetValid "iat"
  | begun _ => .notYetValid "nbf"
  | audienceNamed _ => .missingClaim "aud"
  | audienceAccepted _ _ => .audienceMismatch

end Demand

variable {c : Claims} {now : Seconds}

/-- What comes of demands that are looked at in turn. -/
inductive Decides (c : Claims) (now : Seconds) : List Demand → Except TokenError Unit → Prop
  | accepted : Decides c now [] (.ok ())
  | unmet {d ds} : ¬d.Met c now → Decides c now (d :: ds) (.error (d.error c))
  | met {d ds r} : d.Met c now → Decides c now ds r → Decides c now (d :: ds) r

namespace Decides

theorem inTurn {ds : List Demand} {r : Except TokenError Unit} (h : Decides c now ds r) :
    InTurn (fun d : Demand => d.Met c now) (Demand.error c) ds r := by
  induction h with
  | accepted => exact .done ()
  | unmet hd => exact .unmet hd
  | met hd _ ih => exact .met hd ih

theorem ok_iff {ds : List Demand} {r : Except TokenError Unit} (h : Decides c now ds r) :
    r = .ok () ↔ ∀ d ∈ ds, d.Met c now :=
  ⟨fun hr => h.inTurn.ok_iff.1 ⟨(), hr⟩, fun hds => (h.inTurn.ok_iff.2 hds).elim fun _ hr => hr⟩

theorem error_iff {ds : List Demand} {r : Except TokenError Unit} (h : Decides c now ds r)
    (e : TokenError) :
    r = .error e ↔ ∃ before d after, ds = before ++ d :: after ∧
      (∀ b ∈ before, b.Met c now) ∧ ¬d.Met c now ∧ e = d.error c :=
  h.inTurn.error_iff e

theorem append {ds es : List Demand} {r s : Except TokenError Unit} (hr : Decides c now ds r)
    (hs : Decides c now es s) : Decides c now (ds ++ es) (r >>= fun _ => s) := by
  induction hr with
  | accepted => exact hs
  | unmet hd => exact .unmet hd
  | met hd _ ih => exact .met hd ih

theorem single {d : Demand} {r : Except TokenError Unit} (hok : d.Met c now → r = .ok ())
    (herror : ¬d.Met c now → r = .error (d.error c)) : Decides c now [d] r := by
  by_cases h : d.Met c now
  · rw [hok h]; exact .met h .accepted
  · rw [herror h]; exact .unmet h

end Decides

theorem contains_iff (name : String) : c.contains name = true ↔ c.Has name := by
  simp only [Claims.contains, Claims.get?, Claims.Has]
  cases h : c.all.get? name with
  | none => simp
  | some x => cases x <;> simp

theorem requireClaims_decides (names : List String) :
    Decides c now (names.map .present) (requireClaims c names) := by
  induction names with
  | nil => exact .accepted
  | cons name names ih =>
    have first : Decides c now [.present name] (requireClaim c name) := by
      apply Decides.single <;> intro h
      · exact if_pos ((contains_iff name).2 h)
      · exact if_neg (mt (contains_iff name).1 h)
    exact first.append ih

theorem checkIssuer_decides (issuer : String) :
    Decides c now [.issuedBy issuer] (checkIssuer issuer c) :=
  .single (fun h => if_pos h) (fun h => if_neg h)

theorem checkExpiry_decides (skew : Seconds) :
    Decides c now [.unexpired skew] (checkExpiry c.expires now skew) := by
  have hle (t : Seconds) : t ≤ now.saturatingSub skew ↔ ¬now.toNat - skew.toNat < t.toNat := by
    rw [UInt64.le_iff_toNat_le, Seconds.toNat_saturatingSub, Nat.not_lt]
  cases h : c.expires with
  | none => exact .met (by simp [Demand.Met, h]) .accepted
  | some t =>
    apply Decides.single <;> intro hd <;>
      simp only [Demand.Met, h, Option.some.injEq, forall_eq'] at hd
    · exact if_neg (by simpa [hle] using hd)
    · exact if_pos ((hle t).2 hd)

theorem checkStarted_decides {t : Option Seconds} {skew : Seconds} {name : String} {d : Demand}
    (hmet : d.Met c now ↔ ∀ s, t = some s → s.toNat ≤ min (now.toNat + skew.toNat) (2 ^ 64 - 1))
    (herror : d.error c = .notYetValid name) : Decides c now [d] (checkStarted t now skew name) := by
  have hlt (s : Seconds) : now.saturatingAdd skew < s ↔
      ¬s.toNat ≤ min (now.toNat + skew.toNat) (2 ^ 64 - 1) := by
    rw [UInt64.lt_iff_toNat_lt, Seconds.toNat_saturatingAdd, Nat.not_le]
  cases t with
  | none => exact .met (hmet.2 (by simp)) .accepted
  | some s =>
    apply Decides.single <;> intro hd <;> rw [hmet] at hd <;>
      simp only [Option.some.injEq, forall_eq'] at hd
    · exact if_neg fun h => (hlt s).1 h hd
    · rw [herror]; exact if_pos ((hlt s).2 hd)

theorem checkTimes_decides (skew : Seconds) :
    Decides c now [.unexpired skew, .issued skew, .begun skew] (checkTimes c now skew) :=
  (checkExpiry_decides skew).append
    ((checkStarted_decides (d := .issued skew) Iff.rfl rfl).append
      (checkStarted_decides (d := .begun skew) Iff.rfl rfl))

theorem checkAudience_decides (v : DefaultChecks) :
    Decides c now [.audienceNamed (decide ("aud" ∈ v.optionalClaims)),
      .audienceAccepted v.acceptedAudiences (decide ("aud" ∈ v.optionalClaims))]
      (v.checkAudience c) := by
  have hany : c.audience.any v.acceptedAudiences.contains = true ↔
      ∃ a ∈ c.audience, a ∈ v.acceptedAudiences := by simp
  by_cases ho : "aud" ∈ v.optionalClaims
  · refine .met (by simp [Demand.Met, ho]) (.single ?_ ?_) <;> intro hd <;>
      simp only [Demand.Met, ho, decide_true, true_and, ← hany] at hd
    · rcases hd with (ha | hc) | h
      · simp [DefaultChecks.checkAudience, ho, ha]
      · simp [DefaultChecks.checkAudience, ho, hc]
      · simp [DefaultChecks.checkAudience, ho, h]
    · have ha : v.acceptedAudiences ≠ [] := fun h => hd (.inl (.inl h))
      have hc : c.audience ≠ [] := fun h => hd (.inl (.inr h))
      have h : ¬c.audience.any v.acceptedAudiences.contains = true := fun h => hd (.inr h)
      simp [DefaultChecks.checkAudience, ho, ha, hc, h, Demand.error]
  · by_cases hc : c.audience = []
    · have he : v.checkAudience c = .error (.missingClaim "aud") := by
        simp [DefaultChecks.checkAudience, ho, hc]
      rw [he]
      exact .unmet (by simp [Demand.Met, ho, hc])
    · refine .met (by simp [Demand.Met, hc]) (.single ?_ ?_) <;> intro hd <;>
        simp only [Demand.Met, ho, decide_false, Bool.false_eq_true, false_and, false_or, ← hany]
          at hd
      · simp [DefaultChecks.checkAudience, ho, hc, hd]
      · simp [DefaultChecks.checkAudience, ho, hc, hd, Demand.error]

structure Claims.InTime (c : Claims) (now skew : Seconds) : Prop where
  unexpired : ∀ t, c.expires = some t → now.toNat - skew.toNat < t.toNat
  issued : ∀ t, c.issuedAt = some t → t.toNat ≤ min (now.toNat + skew.toNat) (2 ^ 64 - 1)
  begun : ∀ t, c.notBefore = some t → t.toNat ≤ min (now.toNat + skew.toNat) (2 ^ 64 - 1)

namespace LegacyChecks

def demands (v : LegacyChecks) : List Demand :=
  v.requiredClaims.map .present ++
    [.issuedBy v.issuer, .unexpired v.clockSkew, .issued v.clockSkew, .begun v.clockSkew]

structure Accepts (v : LegacyChecks) (c : Claims) (now : Seconds) : Prop where
  present : ∀ name ∈ v.requiredClaims, c.Has name
  issuer : c.issuer = some v.issuer
  times : c.InTime now v.clockSkew

theorem check_decides (v : LegacyChecks) : Decides c now v.demands (v.check c now) :=
  (requireClaims_decides v.requiredClaims).append
    ((checkIssuer_decides v.issuer).append (checkTimes_decides v.clockSkew))

theorem check_ok_iff (v : LegacyChecks) : v.check c now = .ok () ↔ v.Accepts c now := by
  rw [v.check_decides.ok_iff]
  simp only [demands, List.mem_append, List.mem_map, List.mem_cons, List.not_mem_nil, or_false]
  constructor
  · intro h
    exact ⟨fun name hname => h (.present name) (.inl ⟨name, hname, rfl⟩),
      h (.issuedBy v.issuer) (by simp),
      h (.unexpired v.clockSkew) (by simp), h (.issued v.clockSkew) (by simp),
      h (.begun v.clockSkew) (by simp)⟩
  · rintro ⟨hp, hi, hu, hs, hb⟩ d (⟨name, hname, rfl⟩ | rfl | rfl | rfl | rfl)
    · exact hp name hname
    · exact hi
    · exact hu
    · exact hs
    · exact hb

end LegacyChecks

namespace DefaultChecks

def demands (v : DefaultChecks) : List Demand :=
  (["sub", "aud", "iss", "iat", "exp", "nbf"].filter (· ∉ v.optionalClaims)).map .present ++
    [.issuedBy v.issuer, .unexpired v.clockSkew, .issued v.clockSkew, .begun v.clockSkew,
      .audienceNamed (decide ("aud" ∈ v.optionalClaims)),
      .audienceAccepted v.acceptedAudiences (decide ("aud" ∈ v.optionalClaims))]

structure Accepts (v : DefaultChecks) (c : Claims) (now : Seconds) : Prop where
  present : ∀ name ∈ ["sub", "aud", "iss", "iat", "exp", "nbf"], name ∉ v.optionalClaims → c.Has name
  issuer : c.issuer = some v.issuer
  times : c.InTime now v.clockSkew
  audience : ("aud" ∈ v.optionalClaims ∧ v.acceptedAudiences = []) ∨
    (∃ a ∈ c.audience, a ∈ v.acceptedAudiences) ∨ (c.audience = [] ∧ "aud" ∈ v.optionalClaims)

theorem check_decides (v : DefaultChecks) : Decides c now v.demands (v.check c now) := by
  have hr : ["sub", "aud", "iss", "iat", "exp", "nbf"].filter (· ∉ v.optionalClaims) =
      v.required := by
    simp [required, defaultRequiredClaims]
  rw [demands, hr]
  exact (requireClaims_decides v.required).append
    ((checkIssuer_decides v.issuer).append
      ((checkTimes_decides v.clockSkew).append (checkAudience_decides v)))

theorem check_ok_iff (v : DefaultChecks) : v.check c now = .ok () ↔ v.Accepts c now := by
  rw [v.check_decides.ok_iff]
  simp only [demands, List.mem_append, List.mem_map, List.mem_cons, List.not_mem_nil, or_false]
  constructor
  · intro h
    refine ⟨fun name hname ho => h (.present name) (.inl ⟨name, ?_, rfl⟩),
      h (.issuedBy v.issuer) (by simp),
      ⟨h (.unexpired v.clockSkew) (by simp), h (.issued v.clockSkew) (by simp),
        h (.begun v.clockSkew) (by simp)⟩, ?_⟩
    · exact List.mem_filter.2 ⟨hname, by simpa using ho⟩
    · have hn := h (.audienceNamed _) (.inr (.inr (.inr (.inr (.inr (.inl rfl))))))
      have ha := h (.audienceAccepted _ _) (.inr (.inr (.inr (.inr (.inr (.inr rfl))))))
      simp only [Demand.Met, decide_eq_true_eq] at hn ha
      rcases ha with ⟨ho, ha | hc⟩ | ha
      · exact .inl ⟨ho, ha⟩
      · exact .inr (.inr ⟨hc, ho⟩)
      · exact .inr (.inl ha)
  · rintro ⟨hp, hi, ⟨hu, hs, hb⟩, ha⟩ d (⟨name, hname, rfl⟩ | rfl | rfl | rfl | rfl | rfl | rfl)
    · obtain ⟨hname, ho⟩ := List.mem_filter.1 hname
      exact hp name hname (by simpa using ho)
    · exact hi
    · exact hu
    · exact hs
    · exact hb
    · rcases ha with ⟨ho, -⟩ | ⟨a, hac, -⟩ | ⟨-, ho⟩
      · exact .inl (decide_eq_true ho)
      · exact .inr (List.ne_nil_of_mem hac)
      · exact .inl (decide_eq_true ho)
    · rcases ha with ⟨ho, ha⟩ | ha | ⟨hc, ho⟩
      · exact .inl ⟨decide_eq_true ho, .inl ha⟩
      · exact .inr ha
      · exact .inl ⟨decide_eq_true ho, .inr hc⟩

theorem check_congr {v w : DefaultChecks} {audience : List String} (hi : w.issuer = v.issuer)
    (hs : w.clockSkew = v.clockSkew) (ha : ∀ a, a ∈ w.acceptedAudiences ↔ a ∈ v.acceptedAudiences)
    (ho : ∀ n, n ∈ w.optionalClaims ↔ n ∈ v.optionalClaims)
    (hc : ∀ a, a ∈ audience ↔ a ∈ c.audience) :
    w.check { c with audience } now = v.check c now := by
  have hempty {xs ys : List String} (h : ∀ a, a ∈ xs ↔ a ∈ ys) : xs.isEmpty = ys.isEmpty := by
    rw [Bool.eq_iff_iff, List.isEmpty_iff, List.isEmpty_iff, List.eq_nil_iff_forall_not_mem,
      List.eq_nil_iff_forall_not_mem]
    simp only [h]
  have hrequired : w.required = v.required := by simp only [required, List.contains_eq_mem, ho]
  have hclaims (names : List String) :
      requireClaims { c with audience } names = requireClaims c names := by
    induction names with
    | nil => rfl
    | cons name names ih => simp only [requireClaims, ih]; rfl
  have haudience : w.checkAudience { c with audience } = v.checkAudience c := by
    have hany : audience.any w.acceptedAudiences.contains =
        c.audience.any v.acceptedAudiences.contains := by
      rw [Bool.eq_iff_iff]
      simp only [List.any_eq_true, List.contains_eq_mem, decide_eq_true_eq, ha, hc]
    simp only [checkAudience, hany, hempty ha, hempty hc, List.contains_eq_mem, ho]
  simp only [check, hrequired, hclaims, hi, hs, haudience]
  rfl

end DefaultChecks

theorem Claims.ofMembers_eq_ok {all : Json.Members} (h : Claims.ofMembers all = .ok c) :
    audienceClaim all = .ok c.audience ∧ textClaim all "iss" = .ok c.issuer ∧
      textClaim all "sub" = .ok c.subject ∧ timeClaim all "exp" = .ok c.expires ∧
      timeClaim all "nbf" = .ok c.notBefore ∧ timeClaim all "iat" = .ok c.issuedAt ∧ c.all = all := by
  simp only [Claims.ofMembers, bind_eq_ok_iff, Except.ok.injEq] at h
  obtain ⟨audience, ha, issuer, hi, subject, hs, expires, he, notBefore, hn, issuedAt, ht, rfl⟩ := h
  exact ⟨ha, hi, hs, he, hn, ht, rfl⟩

theorem Claims.textClaim_eq_some_iff {all : Json.Members} {name : String} {r : Option String}
    (h : textClaim all name = .ok r) (s : String) :
    r = some s ↔ all.get? name = some (.string s) := by
  unfold textClaim at h
  split at h
  · next hg => cases h; simp [hg]
  · next hg => cases h; simp [hg]
  · next t hg => cases h; simp [hg]
  · cases h

theorem Claims.audienceClaim_string {all : Json.Members} {audience : List String} {s : String}
    (h : audienceClaim all = .ok audience) (hs : all.get? "aud" = some (.string s)) :
    audience = [s] := by
  simp only [audienceClaim, hs, Except.ok.injEq] at h
  exact h.symm

/-- The default validator accepts exactly what `Accepts` spells out, and otherwise reports the first
demand that is not met. Neither order nor repetitions matter in its lists or in the audience. For
claims that were read from a map, the issuer is the text under `iss`, and an audience given as one
text is a list of one. -/
theorem DefaultChecks.check_reports_first_unmet (v : DefaultChecks) (c : Claims) (now : Seconds) :
    (v.check c now = .ok () ↔ v.Accepts c now) ∧
    (∀ e, v.check c now = .error e ↔ ∃ before d after, v.demands = before ++ d :: after ∧
      (∀ b ∈ before, b.Met c now) ∧ ¬d.Met c now ∧ e = d.error c) ∧
    (∀ (w : DefaultChecks) (audience : List String),
      w.issuer = v.issuer → w.clockSkew = v.clockSkew →
      (∀ a, a ∈ w.acceptedAudiences ↔ a ∈ v.acceptedAudiences) →
      (∀ n, n ∈ w.optionalClaims ↔ n ∈ v.optionalClaims) → (∀ a, a ∈ audience ↔ a ∈ c.audience) →
      w.check { c with audience } now = v.check c now) ∧
    (Claims.ofMembers c.all = .ok c →
      (c.issuer = some v.issuer ↔ c.all.get? "iss" = some (.string v.issuer)) ∧
      ∀ s, c.all.get? "aud" = some (.string s) → c.audience = [s]) := by
  refine ⟨v.check_ok_iff, v.check_decides.error_iff, ?_, ?_⟩
  · intro w audience hi hs ha ho hc
    exact check_congr hi hs ha ho hc
  · intro h
    obtain ⟨haud, hiss, -⟩ := Claims.ofMembers_eq_ok h
    exact ⟨Claims.textClaim_eq_some_iff hiss v.issuer,
      fun s hs => Claims.audienceClaim_string haud hs⟩

end BearerTrust

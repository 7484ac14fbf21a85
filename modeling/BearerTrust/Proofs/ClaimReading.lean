import BearerTrust.Proofs.ClaimDecision
import Mathlib.Algebra.Order.Floor.Semifield
import Mathlib.Data.Rat.Floor

namespace BearerTrust

namespace Double

def value (d : Double) : ℚ := if d.isSigned then -(d.magnitude / unit) else d.magnitude / unit

theorem unit_pos : (0 : ℚ) < unit := by
  rw [unit, Nat.cast_pos]
  positivity

theorem magnitude_eq_zero_iff (d : Double) : d.magnitude = 0 ↔ d.body = 0 := by
  have hpow : 2 ^ d.exponent ≠ 0 := (Nat.two_pow_pos d.exponent).ne'
  rw [magnitude, Nat.mul_eq_zero, or_iff_left hpow, significand]
  split
  · exact Iff.rfl
  · next h =>
    constructor <;> intro hzero <;> omega

theorem value_neg_iff (d : Double) : d.value < 0 ↔ d.isNegative = true := by
  have hsize : (0 : ℚ) ≤ d.magnitude / unit := div_nonneg (Nat.cast_nonneg _) unit_pos.le
  have hzero : (d.magnitude : ℚ) / unit = 0 ↔ d.body = 0 := by
    rw [div_eq_zero_iff, or_iff_left unit_pos.ne', Nat.cast_eq_zero, magnitude_eq_zero_iff]
  rw [value, isNegative]
  split
  · next hsign => rw [neg_neg_iff_pos, hsize.lt_iff_ne', hsign, ne_eq, hzero, Bool.true_and, bne_iff_ne]
  · next hsign =>
    rw [Bool.eq_false_of_not_eq_true hsign, Bool.false_and]
    exact iff_of_false hsize.not_gt Bool.false_ne_true

theorem value_of_nonneg {d : Double} (h : 0 ≤ d.value) : d.value = d.magnitude / unit := by
  have hsize : (0 : ℚ) ≤ d.magnitude / unit := div_nonneg (Nat.cast_nonneg _) unit_pos.le
  unfold value at h ⊢
  split at h
  · next hsign =>
    have hzero : (d.magnitude : ℚ) / unit = 0 := le_antisymm (neg_nonneg.1 h) hsize
    rw [if_pos hsign, hzero, neg_zero]
  · next hsign => rw [if_neg hsign]

theorem floor_value {d : Double} (h : 0 ≤ d.value) : ⌊d.value⌋₊ = d.truncate := by
  rw [value_of_nonneg h]
  exact Nat.floor_div_eq_div d.magnitude unit

end Double

inductive TextOf : Option Json → Option String → Prop
  | absent : TextOf none none
  | null : TextOf (some .null) none
  | text (s : String) : TextOf (some (.string s)) (some s)

inductive AudienceOf : Option Json → List String → Prop
  | absent : AudienceOf none []
  | null : AudienceOf (some .null) []
  | one (s : String) : AudienceOf (some (.string s)) [s]
  | several (ss : List String) : AudienceOf (some (.array (ss.map .string))) ss

/-- What a member says as a time: a natural number as it is, any other number that is not below zero in whole
seconds, at most the last one that 64 bits count. -/
inductive TimeOf : Option Json → Option Seconds → Prop
  | absent : TimeOf none none
  | null : TimeOf (some .null) none
  | natural (n : UInt64) : TimeOf (some (.number (.natural n))) (some n)
  | double {d : Double} {s : Seconds} (hd : 0 ≤ d.value) (hs : s.toNat = min ⌊d.value⌋₊ (2 ^ 64 - 1)) :
    TimeOf (some (.number (.double d))) (some s)

namespace Claims

inductive Form where
  | texts
  | text
  | time

/-- The members that are of a form, besides absent ones and null. A number that is not below zero is a natural
number or a double. -/
inductive Form.Admits : Form → Option Json → Prop
  | absent {f : Form} : Admits f none
  | null {f : Form} : Admits f (some .null)
  | text (s : String) : Admits .text (some (.string s))
  | one (s : String) : Admits .texts (some (.string s))
  | several (ss : List String) : Admits .texts (some (.array (ss.map .string)))
  | natural (n : UInt64) : Admits .time (some (.number (.natural n)))
  | double {d : Double} (hd : 0 ≤ d.value) : Admits .time (some (.number (.double d)))

def registered : List (String × Form) :=
  [("aud", .texts), ("iss", .text), ("sub", .text), ("exp", .time), ("nbf", .time), ("iat", .time)]

structure Tells (c : Claims) (ms : Json.Members) : Prop where
  all : c.all = ms
  audience : AudienceOf (ms.get? "aud") c.audience
  issuer : TextOf (ms.get? "iss") c.issuer
  subject : TextOf (ms.get? "sub") c.subject
  expires : TimeOf (ms.get? "exp") c.expires
  notBefore : TimeOf (ms.get? "nbf") c.notBefore
  issuedAt : TimeOf (ms.get? "iat") c.issuedAt

variable {ms : Json.Members} {name : String} {c : Claims} {x : Option Json}

theorem toNat_capped (n : Nat) : (min n (2 ^ 64 - 1)).toUInt64.toNat = min n (2 ^ 64 - 1) := by
  rw [Nat.toUInt64_eq, UInt64.toNat_ofNat']
  omega

theorem exists_textOf_iff : (∃ r, TextOf x r) ↔ Form.text.Admits x := by
  constructor
  · rintro ⟨_, _ | _ | s⟩
    · exact .absent
    · exact .null
    · exact .text s
  · rintro (_ | _ | s)
    · exact ⟨none, .absent⟩
    · exact ⟨none, .null⟩
    · exact ⟨some s, .text s⟩

theorem exists_audienceOf_iff : (∃ r, AudienceOf x r) ↔ Form.texts.Admits x := by
  constructor
  · rintro ⟨_, _ | _ | s | ss⟩
    · exact .absent
    · exact .null
    · exact .one s
    · exact .several _
  · rintro (_ | _ | _ | s | ss)
    · exact ⟨[], .absent⟩
    · exact ⟨[], .null⟩
    · exact ⟨[s], .one s⟩
    · exact ⟨ss, .several ss⟩

theorem exists_timeOf_iff : (∃ r, TimeOf x r) ↔ Form.time.Admits x := by
  constructor
  · rintro ⟨_, _ | _ | n | ⟨hd, -⟩⟩
    · exact .absent
    · exact .null
    · exact .natural n
    · exact .double hd
  · rintro (_ | _ | _ | _ | _ | n | hd)
    · exact ⟨none, .absent⟩
    · exact ⟨none, .null⟩
    · exact ⟨some n, .natural n⟩
    · exact ⟨some _, .double hd (toNat_capped _)⟩

theorem textClaim_eq_ok_iff {r : Option String} : textClaim ms name = .ok r ↔ TextOf (ms.get? name) r := by
  unfold textClaim
  constructor
  · intro h
    split at h
    · next hx => cases h; rw [hx]; exact .absent
    · next hx => cases h; rw [hx]; exact .null
    · next s hx => cases h; rw [hx]; exact .text s
    · cases h
  · intro h
    generalize ms.get? name = x at h ⊢
    cases h <;> rfl

theorem mapM_asString?_eq_some_iff {xs : List Json} {ss : List String} :
    xs.mapM Json.asString? = some ss ↔ xs = ss.map .string := by
  induction xs generalizing ss with
  | nil => cases ss <;> simp
  | cons x xs ih =>
    simp only [List.mapM_cons, Option.bind_eq_bind, Option.bind_eq_some_iff, ih, Option.pure_def,
      Option.some.injEq]
    constructor
    · rintro ⟨s, hs, ss', rfl, rfl⟩
      cases x <;> cases hs
      rfl
    · intro h
      cases ss with
      | nil => cases h
      | cons s ss =>
        obtain ⟨rfl, rfl⟩ := List.cons.inj h
        exact ⟨s, rfl, ss, rfl, rfl⟩

theorem audienceClaim_eq_ok_iff {r : List String} :
    audienceClaim ms = .ok r ↔ AudienceOf (ms.get? "aud") r := by
  unfold audienceClaim
  constructor
  · intro h
    split at h
    · next hx => cases h; rw [hx]; exact .absent
    · next hx => cases h; rw [hx]; exact .null
    · next s hx => cases h; rw [hx]; exact .one s
    · next xs hx =>
      split at h
      · next ss hss =>
        cases h
        rw [hx, mapM_asString?_eq_some_iff.1 hss]
        exact .several _
      · cases h
    · cases h
  · intro h
    generalize ms.get? "aud" = x at h ⊢
    cases h with
    | absent | null | one => rfl
    | several ss => simp only [mapM_asString?_eq_some_iff.2 rfl]

theorem seconds?_eq_some_iff {n : Json.Number} {t : Seconds} :
    seconds? n = some t ↔ TimeOf (some (.number n)) (some t) := by
  cases n with
  | natural n =>
    constructor
    · rintro ⟨⟩
      exact .natural _
    · rintro ⟨⟩
      rfl
  | negative n => exact ⟨nofun, nofun⟩
  | double d =>
    rw [seconds?]
    split
    · next hneg =>
      refine ⟨nofun, ?_⟩
      rintro (_ | _ | _ | ⟨hd, -⟩)
      exact absurd ((Double.value_neg_iff d).2 hneg) (not_lt.2 hd)
    · next hneg =>
      have hd : 0 ≤ d.value := not_lt.1 (mt (Double.value_neg_iff d).1 hneg)
      rw [Option.some.injEq, ← UInt64.toNat_inj, toNat_capped, ← Double.floor_value hd]
      constructor
      · intro ht
        exact .double hd ht.symm
      · rintro (_ | _ | _ | ⟨-, ht⟩)
        exact ht.symm

theorem timeClaim_eq_ok_iff {r : Option Seconds} : timeClaim ms name = .ok r ↔ TimeOf (ms.get? name) r := by
  unfold timeClaim
  constructor
  · intro h
    split at h
    · next hx => cases h; rw [hx]; exact .absent
    · next hx => cases h; rw [hx]; exact .null
    · next n hx =>
      split at h
      · next t ht => cases h; rw [hx]; exact seconds?_eq_some_iff.1 ht
      · cases h
    · cases h
  · intro h
    generalize ms.get? name = x at h ⊢
    cases h with
    | absent | null | natural => rfl
    | double hd hs => simp only [seconds?_eq_some_iff.2 (.double hd hs)]

theorem textClaim_eq_error {e : ClaimsError} (h : textClaim ms name = .error e) : e = .invalidClaim name := by
  unfold textClaim at h
  split at h <;> cases h
  rfl

theorem audienceClaim_eq_error {e : ClaimsError} (h : audienceClaim ms = .error e) :
    e = .invalidClaim "aud" := by
  unfold audienceClaim at h
  repeat' split at h
  all_goals cases h
  all_goals rfl

theorem timeClaim_eq_error {e : ClaimsError} (h : timeClaim ms name = .error e) : e = .invalidClaim name := by
  unfold timeClaim at h
  repeat' split at h
  all_goals cases h
  all_goals rfl

theorem isSome_of_textOf {r : Option String} (h : TextOf (ms.get? name) r) :
    r.isSome = true ↔ ∃ x, ms.get? name = some x ∧ x ≠ .null := by
  generalize ms.get? name = x at h
  cases h <;> simp

theorem isSome_of_timeOf {r : Option Seconds} (h : TimeOf (ms.get? name) r) :
    r.isSome = true ↔ ∃ x, ms.get? name = some x ∧ x ≠ .null := by
  generalize ms.get? name = x at h
  cases h <;> simp

def Admits (ms : Json.Members) (f : String × Form) : Prop := f.2.Admits (ms.get? f.1)

theorem ofMembers_inTurn (ms : Json.Members) :
    InTurn (Admits ms) (fun f => ClaimsError.invalidClaim f.1) registered (ofMembers ms) := by
  have htext (name : String) :
      InTurn (Admits ms) (fun f => ClaimsError.invalidClaim f.1) [(name, .text)] (textClaim ms name) :=
    .single ((exists_congr fun _ => textClaim_eq_ok_iff).trans exists_textOf_iff) fun _ => textClaim_eq_error
  have htime (name : String) :
      InTurn (Admits ms) (fun f => ClaimsError.invalidClaim f.1) [(name, .time)] (timeClaim ms name) :=
    .single ((exists_congr fun _ => timeClaim_eq_ok_iff).trans exists_timeOf_iff) fun _ => timeClaim_eq_error
  have haudience :
      InTurn (Admits ms) (fun f => ClaimsError.invalidClaim f.1) [("aud", .texts)] (audienceClaim ms) :=
    .single ((exists_congr fun _ => audienceClaim_eq_ok_iff).trans exists_audienceOf_iff)
      fun _ => audienceClaim_eq_error
  -- each reader looks at one claim, and they are bound in the order of the list
  exact haudience.bind fun _ _ => (htext "iss").bind fun _ _ => (htext "sub").bind fun _ _ =>
    (htime "exp").bind fun _ _ => (htime "nbf").bind fun _ _ => (htime "iat").bind fun _ _ => .done _

theorem ofMembers_eq_ok_iff : ofMembers ms = .ok c ↔ c.Tells ms := by
  constructor
  · intro h
    obtain ⟨haudience, hissuer, hsubject, hexpires, hbegun, hissued, hall⟩ := ofMembers_eq_ok h
    exact ⟨hall, audienceClaim_eq_ok_iff.1 haudience, textClaim_eq_ok_iff.1 hissuer,
      textClaim_eq_ok_iff.1 hsubject, timeClaim_eq_ok_iff.1 hexpires, timeClaim_eq_ok_iff.1 hbegun,
      timeClaim_eq_ok_iff.1 hissued⟩
  · rintro ⟨rfl, haudience, hissuer, hsubject, hexpires, hbegun, hissued⟩
    simp only [ofMembers, audienceClaim_eq_ok_iff.2 haudience, textClaim_eq_ok_iff.2 hissuer,
      textClaim_eq_ok_iff.2 hsubject, timeClaim_eq_ok_iff.2 hexpires, timeClaim_eq_ok_iff.2 hbegun,
      timeClaim_eq_ok_iff.2 hissued]
    rfl

/-- Claims are read from the members of an object exactly if each registered one is absent, null or of its form,
and otherwise the first that is not is reported. What is read is what the members say, and all members are kept:
a text or a time is there exactly if a member of its name is there and not null. -/
theorem ofMembers_exact (ms : Json.Members) :
    ((∃ c, ofMembers ms = .ok c) ↔ ∀ f ∈ registered, f.2.Admits (ms.get? f.1)) ∧
    (∀ e, ofMembers ms = .error e ↔ ∃ before f after, registered = before ++ f :: after ∧
      (∀ g ∈ before, g.2.Admits (ms.get? g.1)) ∧ ¬f.2.Admits (ms.get? f.1) ∧ e = .invalidClaim f.1) ∧
    (∀ c : Claims, ofMembers ms = .ok c ↔ c.Tells ms) ∧
    ∀ c : Claims, ofMembers ms = .ok c → c.all = ms ∧ c.issuer.isSome = c.contains "iss" ∧
      c.subject.isSome = c.contains "sub" ∧ c.expires.isSome = c.contains "exp" ∧
      c.notBefore.isSome = c.contains "nbf" ∧ c.issuedAt.isSome = c.contains "iat" := by
  have hturn := ofMembers_inTurn ms
  refine ⟨hturn.ok_iff, hturn.error_iff, fun c => ofMembers_eq_ok_iff, ?_⟩
  intro c h
  obtain ⟨rfl, -, hissuer, hsubject, hexpires, hbegun, hissued⟩ := ofMembers_eq_ok_iff.1 h
  have htext {name : String} {r : Option String} (h : TextOf (c.all.get? name) r) :
      r.isSome = c.contains name :=
    Bool.eq_iff_iff.2 ((isSome_of_textOf h).trans (contains_iff name).symm)
  have htime {name : String} {r : Option Seconds} (h : TimeOf (c.all.get? name) r) :
      r.isSome = c.contains name :=
    Bool.eq_iff_iff.2 ((isSome_of_timeOf h).trans (contains_iff name).symm)
  exact ⟨rfl, htext hissuer, htext hsubject, htime hexpires, htime hbegun, htime hissued⟩

end Claims

namespace Sample

def fractional : Json.Members :=
  [("aud", .string "b"), ("exp", .number (.double ⟨0x3ff8000000000000⟩)), ("sub", .null)]

theorem ofMembers_exact_fractional : ∃ c : Claims, Claims.ofMembers fractional = .ok c ∧ c.Tells fractional ∧
    c.expires = some 1 ∧ c.audience = ["b"] ∧ c.all = fractional ∧
    c.subject.isSome = c.contains "sub" ∧ c.expires.isSome = c.contains "exp" := by
  obtain ⟨-, -, htells, hpresent⟩ := Claims.ofMembers_exact fractional
  have hread : Claims.ofMembers fractional = .ok ⟨none, none, ["b"], some 1, none, none, fractional⟩ := by
    decide +kernel
  obtain ⟨hall, -, hsubject, hexpires, -⟩ := hpresent _ hread
  exact ⟨_, hread, (htells _).1 hread, rfl, rfl, hall, hsubject, hexpires⟩

end Sample
end BearerTrust

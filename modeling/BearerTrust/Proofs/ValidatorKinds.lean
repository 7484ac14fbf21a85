import BearerTrust.Proofs.Soundness

namespace BearerTrust

variable {σ : Type}

namespace DefaultChecks

/-- The legacy checks with the same issuer, claims and tolerance. -/
def legacy (v : DefaultChecks) : LegacyChecks where
  issuer := v.issuer
  requiredClaims := ["sub", "aud", "iss", "iat", "exp", "nbf"].filter (· ∉ v.optionalClaims)
  clockSkew := v.clockSkew

theorem required_eq_legacy (v : DefaultChecks) : v.required = v.legacy.requiredClaims := by
  simp [required, defaultRequiredClaims, legacy]

theorem check_eq_legacy (v : DefaultChecks) (c : Claims) (now : Seconds) :
    v.check c now = v.legacy.check c now >>= fun _ => v.checkAudience c := by
  simp only [check, LegacyChecks.check, required_eq_legacy, bind_assoc]
  rfl

def finish (v : DefaultChecks) (t : Token) : Except TokenError Token :=
  (v.checkAudience t.claims).map fun _ => t

theorem finish_eq_ok {v : DefaultChecks} {t u : Token} (h : v.finish t = .ok u) : u = t := by
  obtain ⟨-, -, rfl⟩ := map_eq_ok_iff.1 h
  rfl

end DefaultChecks

namespace Validator

variable {web : Retriever σ} {keys : KeySource} {v : DefaultChecks} {now : Seconds} {instant : Instant}
  {token : String} {st : KeyState σ}

theorem conclude_default (c : Compact) (found : Except KeySourceError (Option Jwk)) :
    conclude ⟨keys, .default v⟩ now token c found =
      conclude ⟨keys, .legacy v.legacy⟩ now token c found >>= v.finish := by
  match found with
  | .error e => rfl
  | .ok none => rfl
  | .ok (some k) =>
    simp only [conclude, ClaimChecks.check, v.check_eq_legacy]
    cases verify k c with
    | error e => rfl
    | ok claims =>
      change ((v.legacy.check claims now >>= fun _ => v.checkAudience claims) >>= fun _ => _) =
        (v.legacy.check claims now >>= fun _ => .ok ⟨token, claims⟩) >>= v.finish
      rw [bind_assoc, bind_assoc]
      rfl

theorem validate_default :
    validate web ⟨keys, .default v⟩ now instant token st =
      (validate web ⟨keys, .legacy v.legacy⟩ now instant token st).map
        fun x => (x.1 >>= v.finish, x.2) := by
  cases hc : parse token with
  | error e =>
    rw [validate_of_parse_error hc, validate_of_parse_error hc]
    rfl
  | ok c =>
    rw [validate_of_parse hc, validate_of_parse hc]
    dsimp only
    cases keys.verificationKey web c.header.keyId c.header.algorithm instant st with
    | error a => rfl
    | ok x =>
      simp only [Except.map]
      rw [conclude_default]

/-- Over one key source, the default validator refuses what the legacy one refuses, with the same error;
what the legacy one accepts is left to the audience check. So what the default one accepts, the legacy
one accepts as the same token. Both leave the same state, and abort on the same tokens. -/
theorem default_extends_legacy (web : Retriever σ) (keys : KeySource) (v : DefaultChecks) (now : Seconds)
    (instant : Instant) (token : String) (st : KeyState σ) :
    (∀ e st', validate web ⟨keys, .legacy v.legacy⟩ now instant token st = .ok (.error e, st') →
      validate web ⟨keys, .default v⟩ now instant token st = .ok (.error e, st')) ∧
    (∀ t st', validate web ⟨keys, .legacy v.legacy⟩ now instant token st = .ok (.ok t, st') →
      validate web ⟨keys, .default v⟩ now instant token st =
        .ok ((v.checkAudience t.claims).map fun _ => t, st')) ∧
    (∀ t st', validate web ⟨keys, .default v⟩ now instant token st = .ok (.ok t, st') →
      validate web ⟨keys, .legacy v.legacy⟩ now instant token st = .ok (.ok t, st')) ∧
    ∀ a, validate web ⟨keys, .default v⟩ now instant token st = .error a ↔
      validate web ⟨keys, .legacy v.legacy⟩ now instant token st = .error a := by
  rw [validate_default]
  refine ⟨?_, ?_, ?_, fun a => map_eq_error_iff⟩
  · intro e st' h
    rw [h]
    rfl
  · intro t st' h
    rw [h]
    rfl
  · intro t st' h
    obtain ⟨⟨result, st₁⟩, hlegacy, h⟩ := map_eq_ok_iff.1 h
    obtain ⟨hresult, rfl⟩ := Prod.mk.inj h
    obtain ⟨u, rfl, hfinish⟩ := bind_eq_ok_iff.1 hresult
    rw [hlegacy, DefaultChecks.finish_eq_ok hfinish]

end Validator

namespace Sample

def undemanding : DefaultChecks := ⟨"a", ["b"], ["sub", "aud", "iat", "exp", "nbf"], 0⟩

def demanding : DefaultChecks := { undemanding with optionalClaims := [] }

theorem validate_checks (checks : ClaimChecks) :
    Validator.validate (.constant (.ok document)) ⟨issuer.validator.keys, checks⟩ 0 0 token.encoded
      ⟨none, ()⟩ = .ok ((checks.check token.claims 0).map fun _ => token, ⟨none, ()⟩) := by
  obtain ⟨k, hk, hverifies, hclaims, -⟩ := Validator.conclude_eq_ok token_accepted
  cases hk
  rw [validate_constant rfl token_parse (readAnswer_ok document_keys) key_chosen]
  simp only [Validator.conclude, Validator.verify, hverifies, hclaims, if_true]
  rfl

theorem default_extends_legacy_token :
    (Validator.validate (.constant (.ok document)) ⟨issuer.validator.keys, .legacy undemanding.legacy⟩
        0 0 token.encoded ⟨none, ()⟩ = .ok (.ok token, ⟨none, ()⟩) ∧
      Validator.validate (.constant (.ok document)) ⟨issuer.validator.keys, .default undemanding⟩
        0 0 token.encoded ⟨none, ()⟩ = .ok (.ok token, ⟨none, ()⟩)) ∧
      Validator.validate (.constant (.ok document)) ⟨issuer.validator.keys, .legacy demanding.legacy⟩
        0 0 token.encoded ⟨none, ()⟩ = .ok (.error (.missingClaim "sub"), ⟨none, ()⟩) ∧
      Validator.validate (.constant (.ok document)) ⟨issuer.validator.keys, .default demanding⟩
        0 0 token.encoded ⟨none, ()⟩ = .ok (.error (.missingClaim "sub"), ⟨none, ()⟩) := by
  have haccepted := validate_checks (.legacy undemanding.legacy)
  have hrefused := validate_checks (.legacy demanding.legacy)
  obtain ⟨-, haccepts, -⟩ := Validator.default_extends_legacy (.constant (.ok document))
    issuer.validator.keys undemanding 0 0 token.encoded ⟨none, ()⟩
  obtain ⟨hrefuses, -⟩ := Validator.default_extends_legacy (.constant (.ok document))
    issuer.validator.keys demanding 0 0 token.encoded ⟨none, ()⟩
  exact ⟨⟨haccepted, haccepts token _ haccepted⟩, hrefused, hrefuses _ _ hrefused⟩

end Sample
end BearerTrust

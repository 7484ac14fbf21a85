import BearerTrust.Claims.Requirement
import BearerTrust.Context

namespace BearerTrust

inductive Combinator where
  | all
  | any
deriving DecidableEq, Inhabited

structure IssuerRequirement where
  issuer : String
  claims : List ClaimRequirement := []
  combinator : Combinator := .all
deriving DecidableEq, Inhabited

namespace IssuerRequirement

def withClaims (issuer : String) (specs : List String) (combinator : Combinator) :
    Except RequirementError IssuerRequirement :=
  (ClaimRequirement.parseAll specs).map fun claims => ⟨issuer, claims, combinator⟩

/-- Whether a token with these claims is sufficient. Without claim requirements any token is. -/
def accepts (r : IssuerRequirement) (c : Claims) : Bool :=
  match r.combinator with
  | .all => r.claims.all (·.isSatisfiedBy c)
  | .any => r.claims.isEmpty || r.claims.any (·.isSatisfiedBy c)

end IssuerRequirement

inductive Denial where
  | tokenMissing (issuers : List String)
  | claimMismatch (unmet : List IssuerRequirement)
  | misconfigured
deriving DecidableEq, Inhabited

structure DenialResponse where
  status : Nat
  challenge : String
  body : String
deriving DecidableEq, Inhabited

namespace Denial

def issuersText (issuers : List String) : String :=
  if issuers.isEmpty then "" else " for issuer(s) " ++ String.intercalate ", " issuers

def message : Denial → String
  | tokenMissing issuers => "no valid token presented" ++ issuersText issuers
  | claimMismatch unmet =>
    "token claims do not satisfy the policy" ++ issuersText (unmet.map IssuerRequirement.issuer)
  | misconfigured => "no authorization policy is configured for this endpoint"

def status : Denial → Nat
  | tokenMissing _ => 401
  | claimMismatch _ | misconfigured => 403

def unauthorized : DenialResponse := ⟨401, "Bearer error=\"invalid_token\"", ""⟩

def forbidden : DenialResponse := ⟨403, "Bearer error=\"insufficient_scope\"", ""⟩

def response : Denial → DenialResponse
  | tokenMissing _ => unauthorized
  | claimMismatch _ | misconfigured => forbidden

end Denial

inductive Policy where
  | unprotected
  | anyToken
  | anyOf (requirements : List IssuerRequirement)
deriving DecidableEq, Inhabited

namespace Policy

def withClaims (issuer : String) (specs : List String) : Except RequirementError Policy :=
  (IssuerRequirement.withClaims issuer specs .all).map fun r => anyOf [r]

/-- Evaluates requirements in turn: `missing` and `unmet` are those so far without a token and with
an insufficient one. -/
def evaluateAll (c : Context) (missing : List String) (unmet : List IssuerRequirement) :
    List IssuerRequirement → Except Denial Unit
  | [] => if unmet.isEmpty then .error (.tokenMissing missing) else .error (.claimMismatch unmet)
  | r :: rs =>
    match c.claims? r.issuer with
    | none => evaluateAll c (missing ++ [r.issuer]) unmet rs
    | some claims =>
      if r.accepts claims then .ok () else evaluateAll c missing (unmet ++ [r]) rs

def evaluate (c : Context) : Policy → Except Denial Unit
  | unprotected => .ok ()
  | anyToken => if c.hasToken then .ok () else .error (.tokenMissing [])
  | anyOf requirements => evaluateAll c [] [] requirements

/-- The decision where there may be no policy; then everything is denied. -/
def decision (policy : Option Policy) (c : Context) : Except Denial Unit :=
  match policy with
  | none => .error .misconfigured
  | some p => p.evaluate c

end Policy
end BearerTrust

import BearerTrust.Json.Value
import BearerTrust.Text.Literal

namespace BearerTrust

/-- Seconds since 1970, and spans of seconds. -/
abbrev Seconds := UInt64

namespace Seconds

def last : Seconds := 0xffffffffffffffff

def saturatingAdd (a b : Seconds) : Seconds := if a.toNat + b.toNat < 2 ^ 64 then a + b else last

def saturatingSub (a b : Seconds) : Seconds := if b ≤ a then a - b else 0

theorem toNat_saturatingAdd (a b : Seconds) :
    (saturatingAdd a b).toNat = min (a.toNat + b.toNat) (2 ^ 64 - 1) := by
  unfold saturatingAdd
  split
  · rw [UInt64.toNat_add, Nat.mod_eq_of_lt ‹_›]
    omega
  · show (0xffffffffffffffff : UInt64).toNat = _
    have : (0xffffffffffffffff : UInt64).toNat = 2 ^ 64 - 1 := by decide
    omega

theorem toNat_saturatingSub (a b : Seconds) : (saturatingSub a b).toNat = a.toNat - b.toNat := by
  unfold saturatingSub
  split
  · rename_i h
    rw [UInt64.toNat_sub_of_le _ _ h]
  · rename_i h
    have := UInt64.lt_iff_toNat_lt.1 (UInt64.not_le.1 h)
    simp
    omega

end Seconds

inductive ClaimsError where
  | notAnObject
  | invalidClaim (name : String)
deriving DecidableEq, Inhabited

def ClaimsError.message : ClaimsError → String
  | .notAnObject => "token payload is not a JSON object"
  | .invalidClaim name => "claim `" ++ name ++ "` has an invalid value"

structure Claims where
  issuer : Option String
  subject : Option String
  audience : List String
  expires : Option Seconds
  notBefore : Option Seconds
  issuedAt : Option Seconds
  all : Json.Members
deriving DecidableEq, Inhabited

namespace Claims

def textClaim (all : Json.Members) (name : String) : Except ClaimsError (Option String) :=
  match all.get? name with
  | none | some .null => .ok none
  | some (.string s) => .ok (some s)
  | some _ => .error (.invalidClaim name)

/-- A number of seconds that is not below zero, without its fraction, at most the last one. -/
def seconds? : Json.Number → Option Seconds
  | .natural n => some n
  | .negative _ => none
  | .double d => if d.isNegative then none else some (min d.truncate (2 ^ 64 - 1)).toUInt64

def timeClaim (all : Json.Members) (name : String) : Except ClaimsError (Option Seconds) :=
  match all.get? name with
  | none | some .null => .ok none
  | some (.number n) =>
    match seconds? n with
    | some s => .ok (some s)
    | none => .error (.invalidClaim name)
  | some _ => .error (.invalidClaim name)

def audienceClaim (all : Json.Members) : Except ClaimsError (List String) :=
  match all.get? "aud" with
  | none | some .null => .ok []
  | some (.string s) => .ok [s]
  | some (.array xs) =>
    match xs.mapM Json.asString? with
    | some ss => .ok ss
    | none => .error (.invalidClaim "aud")
  | some _ => .error (.invalidClaim "aud")

/-- Reads the registered claims. Of several invalid ones the first in the order `aud`, `iss`, `sub`,
`exp`, `nbf`, `iat` is reported. -/
def ofMembers (all : Json.Members) : Except ClaimsError Claims := do
  let audience ← audienceClaim all
  let issuer ← textClaim all "iss"
  let subject ← textClaim all "sub"
  let expires ← timeClaim all "exp"
  let notBefore ← timeClaim all "nbf"
  let issuedAt ← timeClaim all "iat"
  .ok { issuer, subject, audience, expires, notBefore, issuedAt, all }

/-- A claim that is present and not null. -/
def get? (c : Claims) (name : String) : Option Json :=
  match c.all.get? name with
  | some .null => none
  | v => v

def contains (c : Claims) (name : String) : Bool := (c.get? name).isSome

def getText? (c : Claims) (name : String) : Option String := c.get? name >>= Json.asString?

/-- Whether a value that is no list is `expected`: a text is compared as it is, a number and a truth
value as they are written. -/
def isValue (expected : String) : Json → Bool
  | .string s => s == expected
  | .number n => n.text == expected
  | .bool true => expected == "true"
  | .bool false => expected == "false"
  | _ => false

def hasValue (c : Claims) (name expected : String) : Bool :=
  match c.get? name with
  | some (.array xs) => xs.any (isValue expected)
  | some v => isValue expected v
  | none => false

def describe (c : Claims) : String :=
  let text (s : Option String) := s.elim "None" fun s => "Some(" ++ Text.literal s ++ ")"
  let texts (ss : List String) := "[" ++ String.intercalate ", " (ss.map Text.literal) ++ "]"
  let time (t : Option Seconds) :=
    t.elim "None" fun t => "Some(UnixTime(" ++ Nat.repr t.toNat ++ "))"
  "JwtClaims \x7b iss: " ++ text c.issuer ++ ", sub: " ++ text c.subject ++
    ", aud: Audiences(" ++ texts c.audience ++ "), exp: " ++ time c.expires ++
    ", claims: " ++ texts (c.all.map Prod.fst) ++ " \x7d"

end Claims
end BearerTrust

import BearerTrust.Abort
import BearerTrust.Text.Bytes

namespace BearerTrust

inductive SecretKind where
  | clientSecret
  | accessToken
deriving DecidableEq, Inhabited

/-- How a secret is asked for: for the log or for display, hidden or revealed, up to a width or not. -/
structure SecretStyle where
  isLog : Bool
  isRevealing : Bool
  width : Option Nat
deriving DecidableEq, Inhabited

namespace SecretKind

def hiddenText : SecretKind → String
  | clientSecret => "***CLIENT SECRET***"
  | accessToken => "***ACCESS TOKEN***"

def logLimit : SecretKind → Nat
  | clientSecret => 5
  | accessToken => 15

def displayLimit : Nat := 2 ^ 64 - 1

def limit (k : SecretKind) (style : SecretStyle) : Nat :=
  style.width.getD (if style.isLog then k.logLimit else displayLimit)

end SecretKind

/-- The secret up to an octet; a place within a character ends the work. -/
def secretStart (stop : Nat) (secret : String) : Except Abort String :=
  match Text.firstOctets? stop secret with
  | some start => .ok start
  | none => .error (.raised ("byte index " ++ Nat.repr stop ++ " is not a char boundary"))

/-- At most `limit` characters of a secret, at least one, as the texts that are written one after another;
an ellipsis stands for what is left out. -/
def revealUpTo (limit : Nat) (secret : String) : Except Abort (List String) :=
  let octets := (Text.utf8 secret).length
  if limit ≤ 1 then .ok ["…"]
  else if octets < limit then .ok [secret]
  else match (Text.charOffsets 0 secret.toList)[limit - 2]? with
    | some (before, c) =>
      if before + c.utf8Size < octets then
        (secretStart (before + c.utf8Size) secret).map fun start => [start, "…"]
      else .ok [secret]
    | none => .ok [secret]

def SecretStyle.quote (style : SecretStyle) : List String := if style.isLog then ["\""] else []

def SecretKind.show (k : SecretKind) (style : SecretStyle) (secret : String) : Except Abort String :=
  if style.isRevealing then
    (revealUpTo (k.limit style) secret).map fun written =>
      String.join (style.quote ++ written ++ style.quote)
  else .ok k.hiddenText

end BearerTrust

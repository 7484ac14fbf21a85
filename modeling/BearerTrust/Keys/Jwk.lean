import BearerTrust.Crypto.Rsa
import BearerTrust.Json.Record
import BearerTrust.Text.Base64
import BearerTrust.Token.Algorithm

namespace BearerTrust

inductive KeyUse where
  | signature
  | encryption
deriving DecidableEq, Inhabited

def KeyUse.name : KeyUse → String
  | signature => "sig"
  | encryption => "enc"

structure Jwk where
  id : Option String := none
  use : Option KeyUse := none
  algorithm : Option Algorithm := none
  key : Rsa.PublicKey
deriving DecidableEq, Inhabited

namespace Jwk

def leastModulus : Nat := 256

def single? (name : String) (ms : List (String × Json)) : Option Json :=
  match ms.filter (·.1 == name) with
  | [(_, v)] => some v
  | _ => none

/-- A member that is absent, null or a text. Fails for any other value and for repetitions. -/
def label? (name : String) (ms : List (String × Json)) : Option (Option String) :=
  match ms.filter (·.1 == name) with
  | [] | [(_, .null)] => some none
  | [(_, .string s)] => some (some s)
  | _ => none

def use? : Option String → Option (Option KeyUse)
  | none => some none
  | some s => if s = "sig" then some (some .signature)
    else if s = "enc" then some (some .encryption)
    else none

def algorithm? : Option String → Option (Option Algorithm)
  | none => some none
  | some s => (Algorithm.ofName? s).map some

def octets? (name : String) (ms : List (String × Json)) : Option Bytes := do
  Text.Base64.decodeUrl? (← (← single? name ms).asString?)

def ofLabels? (ms : List (String × Json)) (id use algorithm : Option String) : Option Jwk := do
  let use ← use? use
  let algorithm ← algorithm? algorithm
  if (← (← single? "kty" ms).asString?) ≠ "RSA" then none
  let modulus ← octets? "n" ms
  let exponent ← octets? "e" ms
  if modulus.length < leastModulus then none
  some { id, use, algorithm, key := ⟨modulus, exponent⟩ }

/-- An entry of a document: a key, or nothing if it is one of another kind. `depth` bounds the
nesting of its values. -/
def ofEntry? (depth : Nat) : Json.Written → Option (Option Jwk)
  | .array [] => some none
  | .object ws => do
    let ms ← Json.ofWrittenMembers? depth ws
    let id ← label? "kid" ms
    let use ← label? "use" ms
    let algorithm ← label? "alg" ms
    some (ofLabels? ms id use algorithm)
  | _ => none

end Jwk

abbrev KeySet := List Jwk

namespace KeySet

def readNames? (ms : List (Bytes × Json.Written)) : Option (List (String × Json.Written)) :=
  ms.mapM fun m => (Json.readString m.1).map fun name => (name, m.2)

def entries? : Json.Written → Option (List Json.Written)
  | .array [.array ws] => some ws
  | .object ms => do
    match (← readNames? ms).filter (·.1 == "keys") with
    | [(_, .array ws)] => some ws
    | _ => none
  | _ => none

def parse? (bs : Bytes) : Option KeySet := do
  let entries ← entries? (← Json.Written.parse? bs)
  let keys ← entries.mapM (Jwk.ofEntry? (Json.deepest - 3))
  some (keys.filterMap id)

/-- How closely a key fits; none if it does not. An equal key id outweighs a named algorithm, and
that a named use. A key without a key id, algorithm or use does for any. -/
def fit? (id : Option String) (algorithm : Algorithm) (k : Jwk) : Option Nat := do
  let byId ← match id, k.id with
    | some a, some b => if a = b then some 4 else none
    | _, _ => some 0
  let byAlgorithm ← match k.algorithm with
    | some a => if a = algorithm then some 2 else none
    | none => some 0
  let byUse ← match k.use with
    | some .signature => some 1
    | some .encryption => none
    | none => some 0
  some (byId + byAlgorithm + byUse)

def better (best : Option (Nat × Jwk)) (score : Nat) (k : Jwk) : Option (Nat × Jwk) :=
  match best with
  | some (s, b) => if s < score then some (score, k) else some (s, b)
  | none => some (score, k)

def choose (ks : KeySet) (id : Option String) (algorithm : Algorithm) : Option Jwk :=
  (ks.foldl (fun best k => match fit? id algorithm k with
    | some score => better best score k
    | none => best) none).map Prod.snd

end KeySet
end BearerTrust

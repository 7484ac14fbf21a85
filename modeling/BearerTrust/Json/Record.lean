import BearerTrust.Json.Reader

namespace BearerTrust.Json

/-- The fields given for a record, and whether they were given by name: an object gives them by name, an
array in order. -/
structure Record where
  fields : List (String × Json)
  isNamed : Bool

namespace Record

def ofJson? (names : List String) : Json → Option Record
  | .object ms => some ⟨ms, true⟩
  | .array xs => if xs.length ≤ names.length then some ⟨names.zip xs, false⟩ else none
  | _ => none

/-- Reads the members of a written object; only the fields `names` are given a meaning. -/
def ofWrittenMembers? (names : List String) (seen : List (String × Json)) :
    List (Bytes × Written) → Option (List (String × Json))
  | [] => some seen
  | (k, w) :: r => do
    let name ← readString k
    if names.contains name then
      if (seen.lookup name).isSome then none
      let v ← Json.ofWritten? (deepest - 1) w
      ofWrittenMembers? names ((name, v) :: seen) r
    else ofWrittenMembers? names seen r

def ofWritten? (names : List String) : Written → Option Record
  | .object ms => (ofWrittenMembers? names [] ms).map fun fields => ⟨fields, true⟩
  | .array xs => do
    if xs.length > names.length then none
    let ys ← ofWrittenItems? (deepest - 1) xs
    some ⟨names.zip ys, false⟩
  | _ => none

def parse? (names : List String) (bs : Bytes) : Option Record := do
  ofWritten? names (← Written.parse? bs)

variable {α : Type}

def get? (r : Record) (name : String) : Option Json := r.fields.lookup name

def required (r : Record) (name : String) (read : Json → Option α) : Option α :=
  r.get? name >>= read

def optional (r : Record) (name : String) (read : Json → Option α) : Option (Option α) :=
  match r.get? name with
  | none => if r.isNamed then some none else none
  | some .null => some none
  | some v => (read v).map some

def withDefault (r : Record) (name : String) (fallback : α) (read : Json → Option α) : Option α :=
  match r.get? name with
  | none => some fallback
  | some v => read v

end Record

def nullable {α : Type} (read : Json → Option α) : Json → Option (Option α)
  | .null => some none
  | v => (read v).map some

def listOf {α : Type} (read : Json → Option α) (v : Json) : Option (List α) := do
  (← v.asArray?).mapM read

/-- A name out of a fixed list, also as the single member, with the value null, of an object. -/
def asName? : Json → Option String
  | .string s => some s
  | .object [(k, .null)] => some k
  | _ => none

end BearerTrust.Json

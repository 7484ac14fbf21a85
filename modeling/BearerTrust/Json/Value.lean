import BearerTrust.Json.Number

namespace BearerTrust

inductive Json where
  | null
  | bool (value : Bool)
  | number (value : Json.Number)
  | string (value : String)
  | array (items : List Json)
  | object (members : List (String × Json))
deriving Inhabited

namespace Json

/-- The members of an object; what is read has them in ascending order of their names. -/
abbrev Members := List (String × Json)

mutual
def same : Json → Json → Bool
  | .null, .null => true
  | .bool a, .bool b => a == b
  | .number a, .number b => a == b
  | .string a, .string b => a == b
  | .array xs, .array ys => sameItems xs ys
  | .object xs, .object ys => sameMembers xs ys
  | _, _ => false

def sameItems : List Json → List Json → Bool
  | [], [] => true
  | x :: xs, y :: ys => same x y && sameItems xs ys
  | _, _ => false

def sameMembers : Members → Members → Bool
  | [], [] => true
  | (k, x) :: xs, (l, y) :: ys => k == l && same x y && sameMembers xs ys
  | _, _ => false
end

mutual
theorem same_iff : ∀ a b : Json, same a b = true ↔ a = b
  | .null, b => by cases b <;> simp [same]
  | .bool _, b => by cases b <;> simp [same]
  | .number _, b => by cases b <;> simp [same]
  | .string _, b => by cases b <;> simp [same]
  | .array xs, .array ys => by simp [same, sameItems_iff xs ys]
  | .object xs, .object ys => by simp [same, sameMembers_iff xs ys]
  | .array _, .null | .array _, .bool _ | .array _, .number _ | .array _, .string _
  | .array _, .object _ => by simp [same]
  | .object _, .null | .object _, .bool _ | .object _, .number _ | .object _, .string _
  | .object _, .array _ => by simp [same]

theorem sameItems_iff : ∀ xs ys : List Json, sameItems xs ys = true ↔ xs = ys
  | [], [] => by simp [sameItems]
  | [], _ :: _ => by simp [sameItems]
  | _ :: _, [] => by simp [sameItems]
  | x :: xs, y :: ys => by simp [sameItems, same_iff x y, sameItems_iff xs ys]

theorem sameMembers_iff : ∀ xs ys : Members, sameMembers xs ys = true ↔ xs = ys
  | [], [] => by simp [sameMembers]
  | [], _ :: _ => by simp [sameMembers]
  | _ :: _, [] => by simp [sameMembers]
  | (k, x) :: xs, (l, y) :: ys => by
    simp [sameMembers, same_iff x y, sameMembers_iff xs ys, and_assoc]
end

instance : DecidableEq Json := fun a b => decidable_of_iff _ (same_iff a b)

/-- Puts a member in its place in the order, over one of the same name. -/
def insert (name : String) (value : Json) : Members → Members
  | [] => [(name, value)]
  | (k, v) :: r =>
    if name = k then (name, value) :: r
    else if name < k then (name, value) :: (k, v) :: r
    else (k, v) :: insert name value r

/-- The members with the given names and values; the last of two with one name counts. -/
def ofMembers (ms : List (String × Json)) : Members :=
  ms.foldl (fun acc m => insert m.1 m.2 acc) []

def Members.get? (name : String) (ms : Members) : Option Json := ms.lookup name

def nat (n : Nat) : Json := .number (.natural n.toUInt64)

def asString? : Json → Option String
  | .string s => some s
  | _ => none

def asBool? : Json → Option Bool
  | .bool b => some b
  | _ => none

def asNatural? : Json → Option UInt64
  | .number (.natural n) => some n
  | _ => none

def asArray? : Json → Option (List Json)
  | .array xs => some xs
  | _ => none

def asObject? : Json → Option Members
  | .object ms => some ms
  | _ => none

theorem get?_insert_self (name : String) (value : Json) (ms : Members) :
    Members.get? name (insert name value ms) = some value := by
  induction ms with
  | nil => simp [insert, Members.get?]
  | cons m r ih =>
    obtain ⟨k, v⟩ := m
    unfold insert
    split
    · simp [Members.get?]
    · split
      · simp [Members.get?]
      · rename_i h _
        simpa [Members.get?, List.lookup_cons, beq_eq_false_iff_ne.2 h] using ih

end Json
end BearerTrust

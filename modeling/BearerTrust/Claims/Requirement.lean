import BearerTrust.Claims.Basic
import BearerTrust.Text.Blank

namespace BearerTrust

structure RequirementError where
  spec : String
deriving DecidableEq, Inhabited

def RequirementError.message (e : RequirementError) : String :=
  "invalid claim requirement `" ++ e.spec ++ "`, expected `name=value`"

structure ClaimRequirement where
  name : String
  value : String
deriving DecidableEq, Inhabited

namespace ClaimRequirement

def cut? (mark : Char) (cs : List Char) : Option (List Char × List Char) :=
  match cs.dropWhile (· != mark) with
  | [] => none
  | _ :: r => some (cs.takeWhile (· != mark), r)

def parse (spec : String) : Except RequirementError (Option ClaimRequirement) :=
  let cs := Text.trim spec.toList
  if cs.isEmpty then .ok none
  else match cut? '=' cs with
    | some (name, value) =>
      if (Text.trim name).isEmpty then .error ⟨String.ofList cs⟩
      else .ok (some ⟨String.ofList (Text.trim name), String.ofList (Text.trim value)⟩)
    | none => .error ⟨String.ofList cs⟩

def text (r : ClaimRequirement) : String := r.name ++ "=" ++ r.value

def isSatisfiedBy (r : ClaimRequirement) (c : Claims) : Bool := c.hasValue r.name r.value

/-- Reads several requirements, the blank ones left out. The first that cannot be read is reported. -/
def parseAll (specs : List String) : Except RequirementError (List ClaimRequirement) :=
  match specs with
  | [] => .ok []
  | s :: r => do
    let first ← parse s
    let rest ← parseAll r
    .ok (first.toList ++ rest)

end ClaimRequirement
end BearerTrust

namespace BearerTrust

inductive Algorithm where
  | rs256
  | rs384
  | rs512
  | ps256
  | ps384
  | ps512
deriving DecidableEq, Inhabited

namespace Algorithm

def name : Algorithm → String
  | rs256 => "RS256"
  | rs384 => "RS384"
  | rs512 => "RS512"
  | ps256 => "PS256"
  | ps384 => "PS384"
  | ps512 => "PS512"

def all : List Algorithm := [rs256, rs384, rs512, ps256, ps384, ps512]

def ofName? (s : String) : Option Algorithm := all.find? (·.name == s)

theorem ofName?_name (a : Algorithm) : ofName? a.name = some a := by cases a <;> decide

end Algorithm
end BearerTrust

import BearerTrust.Claims.Requirement

namespace BearerTrust

namespace Text

/-- Whether two texts differ at most in the case of letters from `A` to `Z`. -/
def sameUpToCase (s t : String) : Bool := s.toList.map Char.toLower == t.toList.map Char.toLower

end Text

structure Cookie where
  name : String
  value : String
deriving DecidableEq, Inhabited

structure Request where
  headers : List (String × Bytes)
deriving DecidableEq, Inhabited

namespace Request

def isTokenChar (c : Char) : Bool :=
  c.isAlphanum || "!#$%&'*+-.^_`|~".toList.contains c

/-- The octets that a value can hold: no control characters but the tab. -/
def isValueByte (b : UInt8) : Bool := b = 9 || (0x20 ≤ b && b ≠ 0x7f)

def ofHeaders? (hs : List (String × String)) : Option Request :=
  let hs := hs.map fun h => (h.1, Text.utf8 h.2)
  if hs.all fun h => !h.1.isEmpty && h.1.toList.all isTokenChar && h.2.all isValueByte then
    some ⟨hs⟩
  else none

/-- The octets that are read as text: visible ones and the tab. -/
def isTextByte (b : UInt8) : Bool := b = 9 || (0x20 ≤ b && b < 0x7f)

def valueText? (v : Bytes) : Option String :=
  if v.all isTextByte then some (String.ofList (v.map fun b => Char.ofNat b.toNat)) else none

def values (q : Request) (name : String) : List Bytes :=
  (q.headers.filter fun h => Text.sameUpToCase h.1 name).map Prod.snd

def header? (q : Request) (name : String) : Option String := (q.values name).head? >>= valueText?

def unquote : List Char → List Char
  | '"' :: cs => if cs.getLast? = some '"' then cs.dropLast else '"' :: cs
  | cs => cs

def cookie? (cs : List Char) : Option Cookie := do
  let (name, value) ← ClaimRequirement.cut? '=' cs
  if (Text.trim name).isEmpty then none
  else some ⟨String.ofList (Text.trim name), String.ofList (unquote (Text.trim value))⟩

def cookiesOf (v : String) : List Cookie := (v.toList.splitOn ';').filterMap cookie?

def cookies (q : Request) : List Cookie := ((q.values "cookie").filterMap valueText?).flatMap cookiesOf

end Request
end BearerTrust

import BearerTrust.Url.Domain.Direction
import BearerTrust.Url.Domain.Joiner
import BearerTrust.Url.Domain.Table
import BearerTrust.Url.Punycode

namespace BearerTrust.Url.Domain

open Text

def isAscii (c : Char) : Bool := c.toNat < 0x80

def aceMark : List Char := ['x', 'n', '-', '-']

def mapChar (c : Char) : List Char :=
  if isAscii c then [c.toLower]
  else if ignoredRanges.any (·.has c) then []
  else match mappings.find? (·.range.has c) with
    | some m => m.image c
    | none => [c]

def isValidChar (c : Char) : Bool :=
  if isAscii c then !c.isUpper else validRanges.any (·.has c)

def isValidLabel (cs : List Char) : Bool :=
  cs.all isValidChar && !cs.head?.any (fun c => markRanges.any (·.has c)) && joinersFit [] cs &&
    NormalForm.normalize cs == cs

def shown? (cs : List Char) : Option (List Char) :=
  if aceMark.isPrefixOf cs then do
    let decoded ← Punycode.decode? (cs.drop aceMark.length)
    if !decoded.all isAscii && isValidLabel decoded && aceMark ++ Punycode.encode decoded == cs then
      some decoded
    else none
  else if cs.all isAscii || isValidLabel cs then some cs
  else none

def labelAscii (cs : List Char) : List Char :=
  if cs.all isAscii then cs else aceMark ++ Punycode.encode cs

/-- Every label is mapped, normalised and checked before it is written in ASCII. -/
def toAscii? (cs : List Char) : Option (List Char) := do
  let mapped := NormalForm.normalize (cs.flatMap mapChar)
  let labels ← (mapped.splitOn '.').mapM shown?
  if labels.any runsLeft && !labels.all runsOneWay then none
  some (['.'].intercalate (labels.map labelAscii))

end BearerTrust.Url.Domain

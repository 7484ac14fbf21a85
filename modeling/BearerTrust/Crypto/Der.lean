import BearerTrust.Text.Bytes

namespace BearerTrust

structure Der where
  tag : UInt8
  content : Bytes
deriving DecidableEq, Inhabited

namespace Der

def integerTag : UInt8 := 0x02
def octetStringTag : UInt8 := 0x04
def identifierTag : UInt8 := 0x06
def sequenceTag : UInt8 := 0x30

def number (bs : Bytes) : Nat := bs.foldl (fun n b => n * 256 + b.toNat) 0

def length? : Bytes → Option (Nat × Bytes)
  | [] => none
  | b :: r =>
    if b < 0x80 then some (b.toNat, r)
    else
      let count := (b - 0x80).toNat
      if count = 0 || count > 4 || r.length < count then none
      else some (number (r.take count), r.drop count)

def next? : Bytes → Option (Der × Bytes)
  | [] => none
  | tag :: r => do
    let (size, r) ← length? r
    if r.length < size then none else some (⟨tag, r.take size⟩, r.drop size)

def all? (bs : Bytes) : Nat → Option (List Der)
  | 0 => if bs.isEmpty then some [] else none
  | fuel + 1 =>
    if bs.isEmpty then some []
    else do
      let (d, r) ← next? bs
      some (d :: (← all? r fuel))

def items? (d : Der) : Option (List Der) :=
  if d.tag = sequenceTag then all? d.content d.content.length else none

def natural? (d : Der) : Option Nat :=
  if d.tag = integerTag && !d.content.isEmpty && d.content.headD 0 < 0x80 then
    some (number d.content)
  else none

def octetString? (d : Der) : Option Bytes :=
  if d.tag = octetStringTag then some d.content else none

end Der
end BearerTrust

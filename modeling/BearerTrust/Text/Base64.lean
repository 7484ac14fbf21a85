import BearerTrust.Text.Bytes

namespace BearerTrust.Text.Base64

structure Alphabet where
  sixtyTwo : Char
  sixtyThree : Char

def urlSafe : Alphabet := ⟨'-', '_'⟩

def standard : Alphabet := ⟨'+', '/'⟩

def Alphabet.char (a : Alphabet) (n : Nat) : Char :=
  if n < 26 then Char.ofNat (65 + n)
  else if n < 52 then Char.ofNat (71 + n)
  else if n < 62 then Char.ofNat (n - 4)
  else if n = 62 then a.sixtyTwo
  else a.sixtyThree

def Alphabet.value? (a : Alphabet) (c : Char) : Option Nat :=
  if 'A' ≤ c ∧ c ≤ 'Z' then some (c.toNat - 65)
  else if 'a' ≤ c ∧ c ≤ 'z' then some (c.toNat - 71)
  else if '0' ≤ c ∧ c ≤ '9' then some (c.toNat + 4)
  else if c = a.sixtyTwo then some 62
  else if c = a.sixtyThree then some 63
  else none

def encode (a : Alphabet) : Bytes → List Char
  | [] => []
  | [x] => [a.char (x.toNat / 4), a.char (x.toNat % 4 * 16)]
  | [x, y] =>
    [a.char (x.toNat / 4), a.char (x.toNat % 4 * 16 + y.toNat / 16), a.char (y.toNat % 16 * 4)]
  | x :: y :: z :: r =>
    a.char (x.toNat / 4) :: a.char (x.toNat % 4 * 16 + y.toNat / 16) ::
      a.char (y.toNat % 16 * 4 + z.toNat / 64) :: a.char (z.toNat % 64) :: encode a r

def join : List Nat → Option Bytes
  | [] => some []
  | [_] => none
  | [a, b] => if b % 16 = 0 then some [(a * 4 + b / 16).toUInt8] else none
  | [a, b, c] =>
    if c % 4 = 0 then some [(a * 4 + b / 16).toUInt8, (b % 16 * 16 + c / 4).toUInt8] else none
  | a :: b :: c :: d :: r => do
    let bs ← join r
    some ((a * 4 + b / 16).toUInt8 :: (b % 16 * 16 + c / 4).toUInt8 :: (c % 4 * 64 + d).toUInt8 :: bs)

/-- Accepts what `encode` writes and nothing else: bits that stand for no octet have to be zero. -/
def decode? (a : Alphabet) (cs : List Char) : Option Bytes := do join (← cs.mapM a.value?)

def encodeUrl (bs : Bytes) : String := String.ofList (encode urlSafe bs)

def decodeUrl? (s : String) : Option Bytes := decode? urlSafe s.toList

def padded (cs : List Char) : List Char := cs ++ List.replicate ((4 - cs.length % 4) % 4) '='

def encodeStandard (bs : Bytes) : String := String.ofList (padded (encode standard bs))

def decodeStandard? (cs : List Char) : Option Bytes :=
  let ds := (cs.reverse.dropWhile (· == '=')).reverse
  if padded ds = cs then decode? standard ds else none

end BearerTrust.Text.Base64

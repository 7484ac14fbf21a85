import BearerTrust.Url.Percent
import BearerTrust.Url.Domain

namespace BearerTrust.Url

inductive Host where
  | domain (name : String)
  | ipv4 (address : Nat)
  | ipv6 (pieces : List Nat)
deriving DecidableEq, Inhabited

namespace Host

def isForbidden (c : Char) : Bool :=
  c.toNat == 0 || c == '\t' || c == '\n' || c == '\r' ||
    [' ', '#', '/', ':', '<', '>', '?', '@', '[', '\\', ']', '^', '|'].contains c

def isForbiddenInDomain (c : Char) : Bool :=
  isForbidden c || c.toNat < 0x20 || c == '%' || c.toNat == 0x7f

def digitValue? (base : Nat) (c : Char) : Option Nat :=
  let n :=
    if '0' ≤ c ∧ c ≤ '9' then c.toNat - 48
    else if 'a' ≤ c ∧ c ≤ 'f' then c.toNat - 87
    else if 'A' ≤ c ∧ c ≤ 'F' then c.toNat - 55
    else base
  if n < base then some n else none

def number? (base : Nat) (cs : List Char) : Option Nat := do
  some ((← cs.mapM (digitValue? base)).foldl (fun n d => n * base + d) 0)

def ipv4Part? : List Char → Option Nat
  | [] => none
  | '0' :: x :: r =>
    if x = 'x' ∨ x = 'X' then (if r.isEmpty then some 0 else number? 16 r)
    else number? 8 (x :: r)
  | cs => number? 10 cs

def ipv4Parts (cs : List Char) : List (List Char) :=
  let parts := cs.splitOn '.'
  if parts.length > 1 && parts.getLast? == some [] then parts.dropLast else parts

/-- Whether the last part of a name is a number; such a name is an address or nothing. -/
def endsInNumber (cs : List Char) : Bool :=
  match (ipv4Parts cs).getLast? with
  | none | some [] => false
  | some p => p.all Char.isDigit || (ipv4Part? p).isSome

/-- The last part fills the octets that the others leave. -/
def ipv4? (cs : List Char) : Option Nat := do
  let parts ← (ipv4Parts cs).mapM ipv4Part?
  let last ← parts.getLast?
  let first := parts.dropLast
  if parts.length > 4 || first.any (· > 255) || last ≥ 256 ^ (5 - parts.length) then none
  some (first.foldl (fun n p => n * 256 + p) 0 * 256 ^ (5 - parts.length) + last)

def ipv4Text (n : Nat) : String :=
  String.intercalate "." ([n / 2 ^ 24, n / 2 ^ 16 % 256, n / 2 ^ 8 % 256, n % 256].map Nat.repr)

def embeddedPart? (cs : List Char) : Option Nat := do
  if cs.isEmpty || (cs.length > 1 && cs.head? == some '0') || cs.length > 3 then none
  let n ← number? 10 cs
  if n ≤ 255 then some n else none

def embedded? (cs : List Char) : Option (List Nat) := do
  match ← (cs.splitOn '.').mapM embeddedPart? with
  | [a, b, c, d] => some [a * 256 + b, c * 256 + d]
  | _ => none

def piece? (cs : List Char) : Option Nat :=
  if cs.isEmpty || cs.length > 4 then none else number? 16 cs

def pieces? (mayEmbed : Bool) (cs : List Char) : Option (List Nat) :=
  if cs.isEmpty then some []
  else
    let parts := cs.splitOn ':'
    match parts.getLast? with
    | some p =>
      if mayEmbed && p.contains '.' then do
        some ((← parts.dropLast.mapM piece?) ++ (← embedded? p))
      else parts.mapM piece?
    | none => none

def splitCompressed : List Char → Option (List Char × List Char)
  | ':' :: ':' :: r => some ([], r)
  | c :: r => (splitCompressed r).map fun (a, b) => (c :: a, b)
  | [] => none

def ipv6? (cs : List Char) : Option (List Nat) := do
  match splitCompressed cs with
  | some (a, b) =>
    let front ← pieces? false a
    let back ← pieces? true b
    if front.length + back.length ≤ 7 then
      some (front ++ List.replicate (8 - front.length - back.length) 0 ++ back)
    else none
  | none =>
    let ps ← pieces? true cs
    if ps.length = 8 then some ps else none

def lowerHex (n : Nat) : List Char := Nat.toDigits 16 n

def zeroRun (ps : List Nat) : Nat := (ps.takeWhile (· == 0)).length

def longestZeroRun : Nat → List Nat → Nat × Nat
  | _, [] => (0, 0)
  | i, p :: ps =>
    let (j, n) := longestZeroRun (i + 1) ps
    if n ≤ zeroRun (p :: ps) then (i, zeroRun (p :: ps)) else (j, n)

def ipv6Text (ps : List Nat) : String :=
  let (i, n) := longestZeroRun 0 ps
  let join (qs : List Nat) := [':'].intercalate (qs.map lowerHex)
  String.ofList <| '[' ::
    ((if n < 2 then join ps else join (ps.take i) ++ ':' :: ':' :: join (ps.drop (i + n))) ++ [']'])

def bracketed? (cs : List Char) : Option (List Char) :=
  match cs with
  | '[' :: r => if r.getLast? == some ']' then some r.dropLast else none
  | _ => none

/-- The host of a URL with a special scheme: percent-decoded, mapped to ASCII, and read as an
address where it ends in a number. -/
def special? (cs : List Char) : Option Host := do
  if cs.head? == some '[' then
    some (.ipv6 (← ipv6? (← bracketed? cs)))
  else
    let decoded := (Text.ofUtf8Lossy (Percent.decode (Text.utf8 (String.ofList cs)))).toList
    let name ← Domain.toAscii? decoded
    if name.isEmpty || name.any isForbiddenInDomain then none
    else if endsInNumber name then some (.ipv4 (← ipv4? name))
    else some (.domain (String.ofList name))

def other? (cs : List Char) : Option Host := do
  if cs.head? == some '[' then
    some (.ipv6 (← ipv6? (← bracketed? cs)))
  else if cs.any isForbidden then none
  else some (.domain (String.ofList (Percent.encode Percent.control cs)))

def text : Host → String
  | .domain name => name
  | .ipv4 a => ipv4Text a
  | .ipv6 ps => ipv6Text ps

end Host
end BearerTrust.Url

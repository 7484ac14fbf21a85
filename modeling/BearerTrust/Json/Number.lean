import BearerTrust.Json.Double
import BearerTrust.Text.Bytes

namespace BearerTrust.Json

/-- A number: an integer from `0` to `2 ^ 64 - 1`, one from `-2 ^ 63` to `-1` by its distance from
zero, or a double. -/
inductive Number where
  | natural (value : UInt64)
  | negative (distance : UInt64)
  | double (value : Double)
deriving DecidableEq, Inhabited

namespace Number

def isDigit (b : UInt8) : Bool := 0x30 ≤ b && b ≤ 0x39

def digit (b : UInt8) : Nat := (b - 0x30).toNat

def absorb (n : Nat) : Bytes → Nat × Bytes
  | [] => (n, [])
  | b :: r => if n * 10 + digit b < 2 ^ 64 then absorb (n * 10 + digit b) r else (n, b :: r)

def ofDigits (ds : Bytes) : Nat := ds.foldl (fun n b => n * 10 + digit b) 0

structure Literal where
  isSigned : Bool
  whole : Bytes
  fraction : Bytes
  exponent : Option (Bool × Bytes)

def Literal.ofBytes (bs : Bytes) : Literal :=
  let isSigned := bs.head? == some 0x2d
  let bs := if isSigned then bs.tail else bs
  let whole := bs.takeWhile isDigit
  let bs := bs.dropWhile isDigit
  let pointed := bs.head? == some 0x2e
  let fraction := if pointed then bs.tail.takeWhile isDigit else []
  let bs := if pointed then bs.tail.dropWhile isDigit else bs
  let exponent := match bs with
    | [] => none
    | _ :: r =>
      let down := r.head? == some 0x2d
      let r := if down || r.head? == some 0x2b then r.tail else r
      some (down, r)
  { isSigned, whole, fraction, exponent }

def signed (isSigned : Bool) (d : Double) : Number := .double (if isSigned then d.neg else d)

/-- An integer literal. A minus before zero, and an integer that fits no 64 bits, make a double. -/
def ofInteger (isSigned : Bool) (n : Nat) : Option Number :=
  if isSigned then
    if 1 ≤ n && n ≤ 2 ^ 63 then some (.negative n.toUInt64)
    else (Double.ofRatio? n 1).map (signed true)
  else some (.natural n.toUInt64)

/-- A literal with a point or an exponent, or with more digits than 64 bits hold. The digits count
up to 64 bits; those left over before the point only move it. -/
def ofScientific (l : Literal) : Option Number :=
  let (n, excess) := absorb 0 l.whole
  let (m, rest) := absorb n l.fraction
  let point : Int := (excess.length : Int) - (l.fraction.length - rest.length : Nat)
  match l.exponent with
  | none => (Double.scientific? m point).map (signed l.isSigned)
  | some (down, ds) =>
    let e := ofDigits ds
    if e ≥ 2 ^ 31 then
      if m ≠ 0 && !down then none else some (signed l.isSigned Double.zero)
    else
      (Double.scientific? m (if down then point - e else point + e)).map (signed l.isSigned)

def ofLiteral? (bs : Bytes) : Option Number :=
  let l := Literal.ofBytes bs
  if l.fraction.isEmpty && l.exponent.isNone && (absorb 0 l.whole).2.isEmpty then
    ofInteger l.isSigned (ofDigits l.whole)
  else ofScientific l

/-- The digits `ds`, the first of them at the decimal exponent `k`. From `10 ^ -5` up to `10 ^ 16`
positional, with at least one digit on each side of the point; beyond, with an explicit exponent. -/
def layout (ds : List Char) (k : Int) : List Char :=
  if -5 ≤ k && k < 0 then '0' :: '.' :: (List.replicate (-k - 1).toNat '0' ++ ds)
  else if 0 ≤ k && k < 16 then
    let places := k.toNat + 1
    let whole := ds.take places ++ List.replicate (places - ds.length) '0'
    let fraction := ds.drop places
    whole ++ '.' :: (if fraction.isEmpty then ['0'] else fraction)
  else
    let mantissa := match ds with
      | [] => []
      | [d] => [d]
      | d :: r => d :: '.' :: r
    mantissa ++ 'e' :: (if k < 0 then '-' else '+') :: (Nat.repr k.natAbs).toList

def trimZeros (ds : List Char) : List Char := (ds.reverse.dropWhile (· == '0')).reverse

def ofDouble (d : Double) : List Char :=
  let sign := if d.isSigned then ['-'] else []
  if d.body = 0 then sign ++ ['0', '.', '0']
  else
    let (c, e) := d.shortest
    let ds := (Nat.repr c).toList
    sign ++ layout (trimZeros ds) (e + (ds.length - 1 : Nat))

def text : Number → String
  | .natural n => Nat.repr n.toNat
  | .negative n => "-" ++ Nat.repr n.toNat
  | .double d => String.ofList (ofDouble d)

end Number
end BearerTrust.Json

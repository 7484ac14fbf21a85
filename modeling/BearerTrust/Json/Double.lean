import BearerTrust.Text.Bytes

namespace BearerTrust

/-- A finite number in double precision: sign, eleven bits of exponent, 52 bits of fraction. -/
structure Double where
  bits : UInt64
deriving DecidableEq, Inhabited

namespace Double

def isSigned (d : Double) : Bool := d.bits.toNat / 2 ^ 63 == 1

def body (d : Double) : Nat := d.bits.toNat % 2 ^ 63

def exponent (d : Double) : Nat := d.body / 2 ^ 52 - 1

def significand (d : Double) : Nat :=
  if d.body < 2 ^ 52 then d.body else d.body % 2 ^ 52 + 2 ^ 52

/-- The absolute value in units of `2 ^ -1074`. -/
def magnitude (d : Double) : Nat := d.significand * 2 ^ d.exponent

def unit : Nat := 2 ^ 1074

def isNegative (d : Double) : Bool := d.isSigned && d.body != 0

def zero : Double := ⟨0⟩

def neg (d : Double) : Double := ⟨d.bits ^^^ 0x8000000000000000⟩

def roundDiv (num den : Nat) : Nat :=
  let q := num / den
  let r := num % den
  if 2 * r > den || (2 * r == den && q % 2 == 1) then q + 1 else q

def ofRatio? (num den : Nat) : Option Double :=
  let whole := num * unit / den
  let e := if whole < 2 ^ 53 then 0 else whole.log2 - 52
  let bits := e * 2 ^ 52 + roundDiv (num * unit) (den * 2 ^ e)
  if bits < 0x7ff * 2 ^ 52 then some ⟨bits.toUInt64⟩ else none

def mul? (a b : Double) : Option Double := ofRatio? (a.magnitude * b.magnitude) (unit * unit)

def div? (a b : Double) : Option Double :=
  if b.magnitude = 0 then none else ofRatio? a.magnitude b.magnitude

def powerOfTen (e : Nat) : Double := (ofRatio? (10 ^ e) 1).getD zero

/-- Divides by `10 ^ e` in steps of at most 308 places, each of them rounded. Three steps take
every 64-bit number to zero. -/
def scaleDown (d : Double) (e : Nat) : Nat → Double
  | 0 => zero
  | steps + 1 =>
    if e ≤ 308 then (d.div? (powerOfTen e)).getD zero
    else scaleDown ((d.div? (powerOfTen 308)).getD zero) (e - 308) steps

def scientific? (n : Nat) (e : Int) : Option Double := do
  let d ← ofRatio? n 1
  match e with
  | .ofNat k => if n = 0 then some zero else if k ≤ 308 then d.mul? (powerOfTen k) else none
  | .negSucc k => some (d.scaleDown (k + 1) 3)

def truncate (d : Double) : Nat := d.magnitude / unit

def decimalExponent (num den : Nat) : Int :=
  if den ≤ num then (Nat.repr (num / den)).length - 1
  else
    let places := (Nat.repr (den / num)).length
    if den ≤ num * 10 ^ (places - 1) then -(places - 1 : Nat) else -(places : Int)

/-- The bounds of the interval that rounds to `d`, in quarters of `2 ^ -1074`. Below a power of two
the grid is twice as fine. -/
def bounds (d : Double) : Nat × Nat :=
  let ulp := 2 ^ d.exponent
  let below := if d.significand == 2 ^ 52 && d.exponent != 0 then ulp else 2 * ulp
  (4 * d.magnitude - below, 4 * d.magnitude + 2 * ulp)

/-- Of the two neighbours of `d` among the decimals with `n` digits, the one that reads back as `d`,
the nearer if both do. -/
def neighbour? (d : Double) (k : Int) (n : Nat) : Option Nat :=
  let places : Int := k + 1 - n
  let up := 10 ^ places.toNat
  let down := 10 ^ (-places).toNat
  -- A grid point `c` is `c · up / down`; all is compared in quarters of the unit times `down`.
  let value := 4 * d.magnitude * down
  let step := 4 * unit * up
  let (low, high) := d.bounds
  let inside (x : Nat) :=
    if d.significand % 2 == 0 then low * down ≤ x && x ≤ high * down
    else low * down < x && x < high * down
  let c := value / step
  match inside (c * step), inside ((c + 1) * step) with
  | true, true =>
    let below := value - c * step
    let above := (c + 1) * step - value
    if below < above || (below == above && c % 2 == 0) then some c else some (c + 1)
  | true, false => some c
  | false, true => some (c + 1)
  | false, false => none

def searchDigits (d : Double) (k : Int) (n : Nat) : Nat → Nat × Int
  | 0 => (0, 0)
  | fuel + 1 =>
    match d.neighbour? k n with
    | some c => (c, k + 1 - n)
    | none => searchDigits d k (n + 1) fuel

/-- The shortest decimal `c · 10 ^ e` that reads back as the absolute value of a number other than
zero; 17 digits always do. -/
def shortest (d : Double) : Nat × Int :=
  searchDigits d (decimalExponent d.magnitude unit) 1 17

end Double
end BearerTrust

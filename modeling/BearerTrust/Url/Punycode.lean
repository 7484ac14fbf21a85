namespace BearerTrust.Url.Punycode

def base : Nat := 36

def digitChar (n : Nat) : Char := Char.ofNat (if n < 26 then 97 + n else 22 + n)

def digitValue? (c : Char) : Option Nat :=
  if 'a' ≤ c ∧ c ≤ 'z' then some (c.toNat - 97)
  else if 'A' ≤ c ∧ c ≤ 'Z' then some (c.toNat - 65)
  else if '0' ≤ c ∧ c ≤ '9' then some (c.toNat - 22)
  else none

/-- The least digit at a position that has others after it. -/
def threshold (bias k : Nat) : Nat :=
  if k ≤ bias + 1 then 1 else if k ≥ bias + 26 then 26 else k - bias

def reduce (delta k : Nat) : Nat → Nat × Nat
  | 0 => (delta, k)
  | fuel + 1 => if delta > 455 then reduce (delta / 35) (k + base) fuel else (delta, k)

def adapt (delta points : Nat) (isFirst : Bool) : Nat :=
  let delta := if isFirst then delta / 700 else delta / 2
  let (delta, k) := reduce (delta + delta / points) 0 64
  k + 36 * delta / (delta + 38)

def writeNumber (bias q k : Nat) : Nat → List Char
  | 0 => []
  | fuel + 1 =>
    let t := threshold bias k
    if q < t then [digitChar q]
    else digitChar (t + (q - t) % (base - t)) :: writeNumber bias ((q - t) / (base - t)) (k + base) fuel

structure Writer where
  delta : Nat
  bias : Nat
  handled : Nat
  output : List Char

def writeChar (n basic : Nat) : List Nat → Writer → Writer
  | [], w => w
  | c :: r, w =>
    if c < n then writeChar n basic r { w with delta := w.delta + 1 }
    else if c = n then
      writeChar n basic r
        { delta := 0
          bias := adapt w.delta (w.handled + 1) (w.handled == basic)
          handled := w.handled + 1
          output := w.output ++ writeNumber w.bias w.delta base 64 }
    else writeChar n basic r w

def writeFrom (input : List Nat) (basic : Nat) : List Nat → Nat → Writer → Writer
  | [], _, w => w
  | m :: ms, n, w =>
    let w := writeChar m basic input { w with delta := w.delta + (m - n) * (w.handled + 1) }
    writeFrom input basic ms (m + 1) { w with delta := w.delta + 1 }

def wide (input : List Nat) : List Nat :=
  ((input.filter (· ≥ 128)).mergeSort (· ≤ ·)).eraseDups

def encode (cs : List Char) : List Char :=
  let input := cs.map Char.toNat
  let basic := cs.filter (·.toNat < 128)
  let start := if basic.isEmpty then [] else basic ++ ['-']
  (writeFrom input basic.length (wide input) 128 ⟨0, 72, basic.length, start⟩).output

def readNumber (bias : Nat) (value weight k : Nat) : List Char → Option (Nat × List Char)
  | [] => none
  | c :: r => do
    let d ← digitValue? c
    let t := threshold bias k
    let value := value + d * weight
    if d < t then some (value, r) else readNumber bias value (weight * (base - t)) (k + base) r

def decodeFrom (n i bias : Nat) (output : List Char) (input : List Char) : Nat → Option (List Char)
  | 0 => none
  | fuel + 1 =>
    if input.isEmpty then some output
    else do
      let (delta, rest) ← readNumber bias 0 1 base input
      let points := output.length + 1
      let bias := adapt delta points (i == 0 && n == 128)
      let n := n + (i + delta) / points
      let i := (i + delta) % points
      if n > 0x10ffff || (0xd800 ≤ n && n < 0xe000) then none
      decodeFrom n (i + 1) bias (output.take i ++ Char.ofNat n :: output.drop i) rest fuel

def decode? (cs : List Char) : Option (List Char) :=
  let tail := (cs.reverse.takeWhile (· != '-')).reverse
  let basic := (cs.take (cs.length - tail.length)).dropLast
  decodeFrom 128 0 72 basic tail (cs.length + 1)

end BearerTrust.Url.Punycode

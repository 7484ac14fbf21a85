import BearerTrust.Text.NormalForm.Table

namespace BearerTrust.Text.NormalForm

def combiningClass (c : Char) : Nat :=
  if c.toNat < 0x300 then 0
  else (combiningClasses.find? fun e => e.1.has c).elim 0 Prod.snd

def isSyllable (n : Nat) : Bool := 0xac00 ≤ n && n < 0xac00 + 11172

def syllableParts (n : Nat) : List Nat :=
  let i := n - 0xac00
  let final := i % 28
  [0x1100 + i / 588, 0x1161 + i % 588 / 28] ++ if final = 0 then [] else [0x11a7 + final]

def composeSyllable? (a b : Nat) : Option Nat :=
  if 0x1100 ≤ a ∧ a < 0x1113 ∧ 0x1161 ≤ b ∧ b < 0x1176 then
    some (0xac00 + ((a - 0x1100) * 21 + (b - 0x1161)) * 28)
  else if isSyllable a ∧ (a - 0xac00) % 28 = 0 ∧ 0x11a7 < b ∧ b < 0x11c3 then some (a + (b - 0x11a7))
  else none

def decomposeChar : Nat → Nat → List Nat
  | 0, n => [n]
  | fuel + 1, n =>
    if n < 0xc0 then [n]
    else if isSyllable n then syllableParts n
    else match decompositions.find? (·.char == n) with
      | some d => d.parts.flatMap (decomposeChar fuel)
      | none => [n]

def decompose (cs : List Char) : List Char :=
  (cs.flatMap fun c => decomposeChar 4 c.toNat).map Char.ofNat

def insertMark (c : Char) (k : Nat) : List Char → List Char
  | [] => [c]
  | d :: acc => if k < combiningClass d then d :: insertMark c k acc else c :: d :: acc

def orderMarks (cs : List Char) : List Char :=
  (cs.foldl (fun acc c =>
    let k := combiningClass c
    if k = 0 then c :: acc else insertMark c k acc) []).reverse

def compose? (a b : Char) : Option Char :=
  match composeSyllable? a.toNat b.toNat with
  | some n => some (Char.ofNat n)
  | none =>
    (decompositions.find? fun d => d.composes && d.parts == [a.toNat, b.toNat]).map
      fun d => Char.ofNat d.char

/-- Composition at work: what is finished, the last character that others may join, and the marks
after it that could not, both latest first. -/
structure Composer where
  finished : List Char := []
  starter : Option Char := none
  marks : List Char := []

namespace Composer

def flush (s : Composer) : List Char := s.marks ++ s.starter.toList ++ s.finished

/-- Takes the next character in. A mark joins the starter unless one of its class or a higher one
stands between them. -/
def push (s : Composer) (c : Char) : Composer :=
  let k := combiningClass c
  let isBlocked := s.marks.head?.any fun m => k ≤ combiningClass m
  match (if isBlocked then none else s.starter.bind (compose? · c)) with
  | some joined => { s with starter := some joined }
  | none =>
    if k = 0 then { finished := s.flush, starter := some c }
    else { s with marks := c :: s.marks }

end Composer

def compose (cs : List Char) : List Char := (cs.foldl Composer.push {}).flush.reverse

def normalize (cs : List Char) : List Char :=
  if cs.all (·.toNat < 0xc0) then cs else compose (orderMarks (decompose cs))

end BearerTrust.Text.NormalForm

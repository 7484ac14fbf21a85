import BearerTrust.Crypto.Der
import BearerTrust.Crypto.Rsa
import BearerTrust.Text.Base64

namespace BearerTrust.Pem

def lines (cs : List Char) : List (List Char) := cs.splitOn '\n'

def isLineBlank (c : Char) : Bool := c.toNat ≤ 0x20

def trimLine (cs : List Char) : List Char := (cs.reverse.dropWhile isLineBlank).reverse

def label? (word : String) (line : List Char) : Option (List Char) :=
  let front := ("-----" ++ word ++ " ").toList
  let back := "-----".toList
  let line := trimLine line
  if front.isPrefixOf line && back.isSuffixOf (line.drop front.length) then
    some ((line.drop front.length).take (line.length - front.length - back.length))
  else none

structure Block where
  label : String
  body : List Char

/-- The blocks of a text. A block that does not end, or ends under another label, is the last. -/
def blocks : Option Block → List (List Char) → List Block
  | _, [] => []
  | none, l :: r =>
    match label? "BEGIN" l with
    | some name => blocks (some ⟨String.ofList name, []⟩) r
    | none => blocks none r
  | some b, l :: r =>
    match label? "END" l with
    | some name => if String.ofList name = b.label then b :: blocks none r else []
    | none => blocks (some { b with body := b.body ++ l.filter (!isLineBlank ·) }) r

def rsaIdentifier : Bytes := [0x2a, 0x86, 0x48, 0x86, 0xf7, 0x0d, 0x01, 0x01, 0x01]

/-- The keys that assertions are signed with: a modulus of 2048 to 4096 bits that is the product of
two primes of equal size, and an odd exponent from 65537 on. -/
def isAcceptable (n e p q : Nat) : Bool :=
  Rsa.hasBitLength 2048 4096 n && e % 2 == 1 && 65537 ≤ e && e < 2 ^ 33 && p * q == n &&
    p.log2 == q.log2

def plainKey? (d : Der) : Option Rsa.PrivateKey := do
  match ← (← d.items?).mapM Der.natural? with
  | [0, n, e, d, p, q, _, _, _] => if isAcceptable n e p q then some ⟨n, e, d⟩ else none
  | _ => none

def wrappedKey? (d : Der) : Option Rsa.PrivateKey := do
  match ← d.items? with
  | _ :: algorithm :: key :: _ =>
    let id ← (← algorithm.items?).head?
    if id ≠ ⟨Der.identifierTag, rsaIdentifier⟩ then none
    let (inner, _) ← Der.next? (← key.octetString?)
    plainKey? inner
  | _ => none

def isPrivateKey (b : Block) : Bool :=
  b.label == "PRIVATE KEY" || " PRIVATE KEY".toList.isSuffixOf b.label.toList

def privateKey? (text : String) : Option Rsa.PrivateKey := do
  let block ← (blocks none (lines text.toList)).find? isPrivateKey
  let (d, _) ← Der.next? (← Text.Base64.decodeStandard? block.body)
  if block.label = "RSA PRIVATE KEY" then plainKey? d
  else if block.label = "PRIVATE KEY" then wrappedKey? d
  else none

end BearerTrust.Pem

import BearerTrust.Crypto.Sha256

namespace BearerTrust.Rsa

def number (bs : Bytes) : Nat := bs.foldl (fun n b => n * 256 + b.toNat) 0

def powMod (m : Nat) (b e : Nat) : Nat → Nat
  | 0 => 1 % m
  | bits + 1 =>
    if e = 0 then 1 % m
    else
      let r := powMod m (b * b % m) (e / 2) bits
      if e % 2 = 1 then b * r % m else r

def power (m b e : Nat) : Nat := powMod m b e (e.log2 + 1)

structure PublicKey where
  modulus : Bytes
  exponent : Bytes
deriving DecidableEq, Inhabited

structure PrivateKey where
  modulus : Nat
  publicExponent : Nat
  privateExponent : Nat
deriving DecidableEq, Inhabited

def octets (n : Nat) : Nat := if n = 0 then 0 else n.log2 / 8 + 1

def PrivateKey.publicKey (k : PrivateKey) : PublicKey :=
  ⟨Sha256.bigEndian (octets k.modulus) k.modulus,
    Sha256.bigEndian (octets k.publicExponent) k.publicExponent⟩

/-- What marks a SHA-256 digest: a sequence with the algorithm's identifier and an octet string. -/
def digestMark : Bytes :=
  [0x30, 0x31, 0x30, 0x0d, 0x06, 0x09, 0x60, 0x86, 0x48, 0x01, 0x65, 0x03, 0x04, 0x02, 0x01, 0x05,
    0x00, 0x04, 0x20]

def encoded (size : Nat) (message : Bytes) : Bytes :=
  let digest := digestMark ++ Sha256.digest message
  0x00 :: 0x01 :: (List.replicate (size - digest.length - 3) 0xff ++ 0x00 :: digest)

def hasBitLength (least most n : Nat) : Bool := 2 ^ (least - 1) ≤ n && n < 2 ^ most

def isMinimal (bs : Bytes) : Bool := bs.head? != some 0

/-- The keys that signatures are verified with: an odd exponent of at most 33 bits, from three on,
and a modulus of 2048 to 8192 bits. -/
def PublicKey.isUsable (k : PublicKey) : Bool :=
  let e := number k.exponent
  isMinimal k.modulus && isMinimal k.exponent && hasBitLength 2048 8192 (number k.modulus) &&
    e % 2 == 1 && 3 ≤ e && e < 2 ^ 33

def PublicKey.verifies (k : PublicKey) (message signature : Bytes) : Bool :=
  let n := number k.modulus
  let s := number signature
  k.isUsable && signature.length == k.modulus.length && s < n &&
    power n s (number k.exponent) == number (encoded k.modulus.length message)

def PrivateKey.sign (k : PrivateKey) (message : Bytes) : Bytes :=
  let size := octets k.modulus
  Sha256.bigEndian size (power k.modulus (number (encoded size message)) k.privateExponent)

end BearerTrust.Rsa

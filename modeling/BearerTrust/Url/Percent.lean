import BearerTrust.Text.Bytes

namespace BearerTrust.Url.Percent

/-- The octets that a place of a URL does not hold as they are. -/
abbrev EncodeSet := UInt8 → Bool

def among (cs : List Char) (b : UInt8) : Bool := cs.any fun c => c.toNat == b.toNat

def control : EncodeSet := fun b => b < 0x20 || b > 0x7e

def fragment : EncodeSet := fun b => control b || among [' ', '"', '<', '>', '`'] b

def query : EncodeSet := fun b => control b || among [' ', '"', '#', '<', '>'] b

def specialQuery : EncodeSet := fun b => query b || among ['\''] b

def path : EncodeSet := fun b => query b || among ['?', '^', '`', '{', '}'] b

def userinfo : EncodeSet := fun b =>
  path b || among ['/', ':', ';', '=', '@', '[', '\\', ']', '|'] b

def upperHex (n : Nat) : Char := Char.ofNat (if n < 10 then 48 + n else 55 + n)

def encodeByte (encoded : EncodeSet) (b : UInt8) : List Char :=
  if encoded b then ['%', upperHex (b.toNat / 16), upperHex (b.toNat % 16)] else [Char.ofNat b.toNat]

def encode (encoded : EncodeSet) (cs : List Char) : List Char :=
  (Text.utf8 (String.ofList cs)).flatMap (encodeByte encoded)

def hexValue? (b : UInt8) : Option Nat :=
  if 0x30 ≤ b && b ≤ 0x39 then some (b.toNat - 0x30)
  else if 0x41 ≤ b && b ≤ 0x46 then some (b.toNat - 0x37)
  else if 0x61 ≤ b && b ≤ 0x66 then some (b.toNat - 0x57)
  else none

def decode : Bytes → Bytes
  | b :: t@(h :: l :: r) =>
    match b == 0x25, hexValue? h, hexValue? l with
    | true, some m, some n => (m * 16 + n).toUInt8 :: decode r
    | _, _, _ => b :: decode t
  | bs => bs

def isFormByte (b : UInt8) : Bool :=
  (0x30 ≤ b && b ≤ 0x39) || (0x41 ≤ b && b ≤ 0x5a) || (0x61 ≤ b && b ≤ 0x7a) ||
    among ['*', '-', '.', '_'] b

def encodeFormByte (b : UInt8) : List Char :=
  if b = 0x20 then ['+'] else encodeByte (fun b => !isFormByte b) b

def encodeFormText (s : String) : List Char := (Text.utf8 s).flatMap encodeFormByte

def encodeForm (fields : List (String × String)) : String :=
  String.ofList <| ['&'].intercalate <|
    fields.map fun f => encodeFormText f.1 ++ '=' :: encodeFormText f.2

end BearerTrust.Url.Percent

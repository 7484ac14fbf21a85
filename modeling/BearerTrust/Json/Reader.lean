import BearerTrust.Json.Value
import BearerTrust.Json.Written

namespace BearerTrust.Json

/-- How many arrays and objects may stand inside each other. -/
def deepest : Nat := 127

def hexValue (b : UInt8) : Nat :=
  if b < 0x40 then (b - 0x30).toNat else if b < 0x60 then (b - 0x37).toNat else (b - 0x57).toNat

def codeUnit (a b c d : UInt8) : Nat :=
  ((hexValue a * 16 + hexValue b) * 16 + hexValue c) * 16 + hexValue d

def unescapeLetter (b : UInt8) : UInt8 :=
  if b = 0x62 then 0x08 else if b = 0x66 then 0x0c else if b = 0x6e then 0x0a
  else if b = 0x72 then 0x0d else if b = 0x74 then 0x09 else b

def pushChar (code : Nat) (acc : Bytes) : Bytes :=
  (Text.utf8 (String.singleton (Char.ofNat code))).reverse ++ acc

/-- The octets of a string's content, after `acc`, latest first. A code unit of the upper half of a
pair has to be followed by one of the lower half. -/
def unescape (acc : Bytes) : Bytes → Option Bytes
  | [] => some acc.reverse
  | b :: r =>
    if b ≠ 0x5c then unescape (b :: acc) r
    else match r with
      | 0x75 :: a :: b :: c :: d :: r =>
        let unit := codeUnit a b c d
        if 0xdc00 ≤ unit && unit < 0xe000 then none
        else if 0xd800 ≤ unit && unit < 0xdc00 then
          match r with
          | 0x5c :: 0x75 :: a :: b :: c :: d :: r =>
            let low := codeUnit a b c d
            if 0xdc00 ≤ low && low < 0xe000 then
              unescape (pushChar (0x10000 + (unit - 0xd800) * 1024 + (low - 0xdc00)) acc) r
            else none
          | _ => none
        else unescape (pushChar unit acc) r
      | e :: r => unescape (unescapeLetter e :: acc) r
      | [] => none

def readString (content : Bytes) : Option String := do Text.ofUtf8? (← unescape [] content)

mutual
def ofWritten? (depth : Nat) : Written → Option Json
  | .null => some .null
  | .bool b => some (.bool b)
  | .number literal => (Number.ofLiteral? literal).map .number
  | .string content => (readString content).map .string
  | .array xs => match depth with
    | 0 => none
    | d + 1 => (ofWrittenItems? d xs).map .array
  | .object ms => match depth with
    | 0 => none
    | d + 1 => (ofWrittenMembers? d ms).map fun ms => .object (ofMembers ms)

def ofWrittenItems? (depth : Nat) : List Written → Option (List Json)
  | [] => some []
  | x :: xs => do
    let y ← ofWritten? depth x
    let ys ← ofWrittenItems? depth xs
    some (y :: ys)

def ofWrittenMembers? (depth : Nat) : List (Bytes × Written) → Option (List (String × Json))
  | [] => some []
  | (k, x) :: ms => do
    let name ← readString k
    let y ← ofWritten? depth x
    let rest ← ofWrittenMembers? depth ms
    some ((name, y) :: rest)
end

def parse? (bs : Bytes) : Option Json := do ofWritten? deepest (← Written.parse? bs)

end BearerTrust.Json

import BearerTrust.Json.Value

namespace BearerTrust.Json

def quoteByte : UInt8 := 0x22
def backslash : UInt8 := 0x5c

def hexDigit (n : UInt8) : UInt8 := if n < 10 then 0x30 + n else 0x57 + n

def escapeLetter? (b : UInt8) : Option UInt8 :=
  if b = quoteByte || b = backslash then some b
  else if b = 0x08 then some 0x62
  else if b = 0x09 then some 0x74
  else if b = 0x0a then some 0x6e
  else if b = 0x0c then some 0x66
  else if b = 0x0d then some 0x72
  else none

def escapeByte (b : UInt8) : Bytes :=
  match escapeLetter? b with
  | some e => [backslash, e]
  | none =>
    if b < 0x20 then [backslash, 0x75, 0x30, 0x30, hexDigit (b / 16), hexDigit (b % 16)] else [b]

def escape (bs : Bytes) : Bytes := bs.flatMap escapeByte

def quoted (s : String) : Bytes := quoteByte :: (escape (Text.utf8 s) ++ [quoteByte])

mutual
def render : Json → Bytes
  | .null => [0x6e, 0x75, 0x6c, 0x6c]
  | .bool true => [0x74, 0x72, 0x75, 0x65]
  | .bool false => [0x66, 0x61, 0x6c, 0x73, 0x65]
  | .number n => Text.utf8 n.text
  | .string s => quoted s
  | .array [] => [0x5b, 0x5d]
  | .array (x :: xs) => 0x5b :: (render x ++ renderItems xs)
  | .object [] => [0x7b, 0x7d]
  | .object ((k, x) :: ms) => 0x7b :: (quoted k ++ 0x3a :: (render x ++ renderMembers ms))

def renderItems : List Json → Bytes
  | [] => [0x5d]
  | x :: xs => 0x2c :: (render x ++ renderItems xs)

def renderMembers : Members → Bytes
  | [] => [0x7d]
  | (k, x) :: ms => 0x2c :: (quoted k ++ 0x3a :: (render x ++ renderMembers ms))
end

end BearerTrust.Json

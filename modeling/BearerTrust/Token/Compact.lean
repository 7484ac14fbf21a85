import BearerTrust.Claims.Basic
import BearerTrust.Json.Printer
import BearerTrust.Json.Record
import BearerTrust.Text.Base64
import BearerTrust.Token.Algorithm

namespace BearerTrust

inductive MalformedToken where
  | token
  | header
  | signature
  | payload
deriving DecidableEq, Inhabited

def MalformedToken.message : MalformedToken → String
  | token => "malformed JWT"
  | header => "malformed JWT header"
  | signature => "malformed JWT signature"
  | payload => "malformed JWT payload"

structure Header where
  algorithm : Algorithm
  keyId : Option String
deriving DecidableEq, Inhabited

namespace Header

def parse? (bs : Bytes) : Option Header := do
  let r ← Json.Record.parse? ["alg", "kid"] bs
  let algorithm ← r.required "alg" fun v => v.asString? >>= Algorithm.ofName?
  let keyId ← r.optional "kid" Json.asString?
  some { algorithm, keyId }

def toJson (h : Header) : Json :=
  .object (("alg", .string h.algorithm.name) :: h.keyId.toList.map fun k => ("kid", .string k))

end Header

/-- A token taken apart. What is signed is the text up to the last dot. -/
structure Compact where
  header : Header
  signed : List Char
  payload : List Char
  signature : Bytes
deriving DecidableEq, Inhabited

def splitLastDot (cs : List Char) : Option (List Char × List Char) :=
  match cs.reverse.dropWhile (· != '.') with
  | [] => none
  | _ :: r => some (r.reverse, (cs.reverse.takeWhile (· != '.')).reverse)

namespace Compact

/-- Takes a token apart at its last two dots. The header is decoded first, then the signature, and
only then is the header read. -/
def parse (token : String) : Except MalformedToken Compact :=
  match splitLastDot token.toList with
  | none => .error .token
  | some (signed, signature) =>
    match splitLastDot signed with
    | none => .error .token
    | some (header, payload) =>
      match Text.Base64.decode? Text.Base64.urlSafe header with
      | none => .error .header
      | some headerBytes =>
        match Text.Base64.decode? Text.Base64.urlSafe signature with
        | none => .error .signature
        | some signature =>
          match Header.parse? headerBytes with
          | none => .error .header
          | some header => .ok { header, signed, payload, signature }

def message (c : Compact) : Bytes := Text.utf8 (String.ofList c.signed)

def claims (c : Compact) : Except MalformedToken Claims :=
  match Text.Base64.decode? Text.Base64.urlSafe c.payload >>= Json.parse? with
  | some (.object ms) =>
    match Claims.ofMembers ms with
    | .ok claims => .ok claims
    | .error _ => .error .payload
  | _ => .error .payload

def part (v : Json) : List Char := Text.Base64.encode Text.Base64.urlSafe v.render

def write (header : Header) (payload : Json) (sign : Bytes → Bytes) : String :=
  let signed := part header.toJson ++ '.' :: part payload
  let signature := sign (Text.utf8 (String.ofList signed))
  String.ofList (signed ++ '.' :: Text.Base64.encode Text.Base64.urlSafe signature)

end Compact

/-- The claims of a token of exactly three parts, its signature unseen. -/
def Claims.peek (token : String) : Except ClaimsError Claims :=
  match token.toList.splitOn '.' with
  | [_, payload, _] =>
    match Text.Base64.decode? Text.Base64.urlSafe payload >>= Json.parse? with
    | some (.object ms) => Claims.ofMembers ms
    | _ => .error .notAnObject
  | _ => .error .notAnObject

/-- A token that its issuer's validator has accepted, as it was sent, with its claims. -/
structure Token where
  encoded : String
  claims : Claims
deriving DecidableEq, Inhabited

end BearerTrust

import BearerTrust.Url.Host

namespace BearerTrust

inductive Url.Path where
  | rootless (text : String)
  | segments (names : List String)
deriving DecidableEq, Inhabited

structure Url where
  scheme : String
  username : String := ""
  password : String := ""
  host : Option Url.Host := none
  port : Option Nat := none
  path : Url.Path
  query : Option String := none
  fragment : Option String := none
deriving DecidableEq, Inhabited

namespace Url

def defaultPort? (scheme : String) : Option Nat :=
  if scheme = "http" ∨ scheme = "ws" then some 80
  else if scheme = "https" ∨ scheme = "wss" then some 443
  else if scheme = "ftp" then some 21
  else none

def isSpecial (scheme : String) : Bool := (defaultPort? scheme).isSome || scheme == "file"

def effectivePort? (u : Url) : Option Nat := u.port <|> defaultPort? u.scheme

def Path.text : Path → String
  | .rootless t => t
  | .segments ns => String.join (ns.map ("/" ++ ·))

def pathText (u : Url) : String := u.path.text

def credentialsText (u : Url) : String :=
  if u.username = "" ∧ u.password = "" then ""
  else u.username ++ (if u.password = "" then "" else ":" ++ u.password) ++ "@"

def hostText? (u : Url) : Option String := u.host.map Host.text

/-- The part between the scheme and the path. A path that starts with an empty segment is set off
from the scheme by a dot. -/
def authorityText (u : Url) : String :=
  match u.host with
  | some h =>
    "//" ++ u.credentialsText ++ h.text ++ (u.port.elim "" fun p => ":" ++ Nat.repr p)
  | none =>
    if u.scheme = "file" then "//"
    else match u.path with
      | .segments ("" :: _ :: _) => "/."
      | _ => ""

def text (u : Url) : String :=
  u.scheme ++ ":" ++ u.authorityText ++ u.pathText ++ (u.query.elim "" ("?" ++ ·)) ++
    (u.fragment.elim "" ("#" ++ ·))

/-- The same location over the other of two special schemes. A port is dropped when the new scheme
implies it; one that the old scheme implied is not written and follows the scheme. -/
def withScheme (u : Url) (scheme : String) : Url :=
  { u with
    scheme
    port := if u.port = defaultPort? scheme then none else u.port }

end Url
end BearerTrust

import BearerTrust.Url.Basic

namespace BearerTrust.Url

def isControlOrSpace (c : Char) : Bool := c.toNat ≤ 0x20

/-- Without control characters and spaces at the ends, and without tabs and line ends anywhere. -/
def clean (cs : List Char) : List Char :=
  let cs := cs.dropWhile isControlOrSpace
  let cs := (cs.reverse.dropWhile isControlOrSpace).reverse
  cs.filter fun c => c != '\t' && c != '\n' && c != '\r'

def isSchemeChar (c : Char) : Bool := c.isAlphanum || c == '+' || c == '-' || c == '.'

def splitScheme? (cs : List Char) : Option (String × List Char) :=
  match cs with
  | c :: _ =>
    if c.isAlpha then
      match cs.dropWhile isSchemeChar with
      | ':' :: r => some (String.ofList ((cs.takeWhile isSchemeChar).map Char.toLower), r)
      | _ => none
    else none
  | [] => none

def cutAt (mark : Char) (cs : List Char) : List Char × Option (List Char) :=
  match cs.dropWhile (· != mark) with
  | [] => (cs, none)
  | _ :: r => (cs.takeWhile (· != mark), some r)

def cutAtLast (mark : Char) (cs : List Char) : Option (List Char × List Char) :=
  match cs.reverse.dropWhile (· != mark) with
  | [] => none
  | _ :: r => some (r.reverse, (cs.reverse.takeWhile (· != mark)).reverse)

def isSeparator (special : Bool) (c : Char) : Bool := c == '/' || (special && c == '\\')

def splitPort (cs : List Char) : List Char × Option (List Char) :=
  if cs.head? == some '[' then
    match cs.dropWhile (· != ']') with
    | [] => (cs, none)
    | b :: r =>
      let host := cs.takeWhile (· != ']') ++ [b]
      match r with
      | ':' :: p => (host, some p)
      | _ => (host ++ r, none)
  else cutAt ':' cs

/-- A port; nothing for an empty text and for the port that the scheme implies. -/
def port? (scheme : String) : Option (List Char) → Option (Option Nat)
  | none | some [] => some none
  | some ds => do
    if !ds.all Char.isDigit then none
    let n ← Host.number? 10 ds
    if n > 65535 then none
    some (if defaultPort? scheme = some n then none else some n)

structure Authority where
  username : String := ""
  password : String := ""
  host : Option Host := none
  port : Option Nat := none

def encodedUserinfo (cs : List Char) : String := String.ofList (Percent.encode Percent.userinfo cs)

def authority? (scheme : String) (cs : List Char) : Option Authority := do
  let (login, place) := match cutAtLast '@' cs with
    | some (l, p) => (some l, p)
    | none => (none, cs)
  let (username, password) := match login with
    | none => ("", "")
    | some l =>
      let (u, p) := cutAt ':' l
      (encodedUserinfo u, (p.map encodedUserinfo).getD "")
  let (hostPart, portPart) := splitPort place
  if hostPart.isEmpty && (isSpecial scheme || login.isSome || portPart.isSome) then none
  let host ← if isSpecial scheme then Host.special? hostPart else Host.other? hostPart
  let port ← port? scheme portPart
  some { username, password, host := some host, port }

/-- The host of a `file` URL; the local host is none. -/
def fileHost? (cs : List Char) : Option (Option Host) := do
  if cs.isEmpty then some none
  else
    let h ← Host.special? cs
    some (if h = .domain "localhost" then none else some h)

def lowered (cs : List Char) : List Char := cs.map Char.toLower

def isSingleDot (cs : List Char) : Bool := ["." , "%2e"].any fun d => d.toList == lowered cs

def isDoubleDot (cs : List Char) : Bool :=
  ["..", ".%2e", "%2e.", "%2e%2e"].any fun d => d.toList == lowered cs

def isDriveLetter : List Char → Bool
  | [c, m] => c.isAlpha && (m == ':' || m == '|')
  | _ => false

/-- One segment up. The drive of a `file` URL stays. -/
def shorten (scheme : String) (done : List String) : List String :=
  match done with
  | [s] => if scheme = "file" ∧ isDriveLetter s.toList then [s] else []
  | _ => done.tail

def resolveSegments (scheme : String) (done : List String) : List (List Char) → List String
  | [] => done.reverse
  | s :: r =>
    let isLast := r.isEmpty
    if isDoubleDot s then
      let up := shorten scheme done
      resolveSegments scheme (if isLast then "" :: up else up) r
    else if isSingleDot s then
      resolveSegments scheme (if isLast then "" :: done else done) r
    else
      let s := if scheme = "file" ∧ done.isEmpty ∧ isDriveLetter s then s.take 1 ++ [':'] else s
      resolveSegments scheme (String.ofList (Percent.encode Percent.path s) :: done) r

def segments (scheme : String) (cs : List Char) : List String :=
  let special := isSpecial scheme
  match cs with
  | [] => if special then [""] else []
  | c :: r =>
    let body := if isSeparator special c then r else cs
    resolveSegments scheme [] (body.splitOnP (isSeparator special))

def encodedQuery (scheme : String) (cs : List Char) : String :=
  String.ofList <| Percent.encode
    (if isSpecial scheme then Percent.specialQuery else Percent.query) cs

def encodedFragment (cs : List Char) : String := String.ofList (Percent.encode Percent.fragment cs)

def place? (scheme : String) (cs : List Char) : Option (Authority × Path) := do
  let special := isSpecial scheme
  let sep := isSeparator special
  if scheme = "file" then
    match cs with
    | a :: b :: r =>
      if sep a && sep b then
        let hostPart := r.takeWhile (!sep ·)
        if isDriveLetter hostPart then some ({}, .segments (segments scheme r))
        else some ({ host := ← fileHost? hostPart }, .segments (segments scheme (r.dropWhile (!sep ·))))
      else some ({}, .segments (segments scheme cs))
    | _ => some ({}, .segments (segments scheme cs))
  else if special then
    let r := cs.dropWhile sep
    let a ← authority? scheme (r.takeWhile (!sep ·))
    some (a, .segments (segments scheme (r.dropWhile (!sep ·))))
  else match cs with
    | '/' :: '/' :: r =>
      let a ← authority? scheme (r.takeWhile (!sep ·))
      some (a, .segments (segments scheme (r.dropWhile (!sep ·))))
    | '/' :: _ => some ({}, .segments (segments scheme cs))
    | _ => some ({}, .rootless (String.ofList (Percent.encode Percent.control cs)))

def parse? (s : String) : Option Url := do
  let (scheme, rest) ← splitScheme? (clean s.toList)
  let (rest, fragment) := cutAt '#' rest
  let (rest, query) := cutAt '?' rest
  let (a, path) ← place? scheme rest
  some
    { scheme, path
      username := a.username
      password := a.password
      host := a.host
      port := a.port
      query := query.map (encodedQuery scheme)
      fragment := fragment.map encodedFragment }

end BearerTrust.Url

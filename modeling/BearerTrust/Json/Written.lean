import BearerTrust.Text.Bytes

namespace BearerTrust.Json

/-- A text by its shape: numbers and the contents of strings are kept as they are written. -/
inductive Written where
  | null
  | bool (value : Bool)
  | number (literal : Bytes)
  | string (content : Bytes)
  | array (items : List Written)
  | object (members : List (Bytes × Written))
deriving Inhabited

namespace Written

def isSpace (b : UInt8) : Bool := b == 0x20 || b == 0x0a || b == 0x0d || b == 0x09

def skipSpaces (bs : Bytes) : Bytes := bs.dropWhile isSpace

def isHex (b : UInt8) : Bool :=
  (0x30 ≤ b && b ≤ 0x39) || (0x41 ≤ b && b ≤ 0x46) || (0x61 ≤ b && b ≤ 0x66)

def isEscapeLetter (b : UInt8) : Bool :=
  b == 0x22 || b == 0x5c || b == 0x2f || b == 0x62 || b == 0x66 || b == 0x6e || b == 0x72 || b == 0x74

inductive Within
  | plain
  | escape
  | hex (missing : Nat)

/-- Splits after the closing quote. The content keeps its escapes; `acc` holds it latest first. -/
def scanString (acc : Bytes) : Within → Bytes → Option (Bytes × Bytes)
  | _, [] => none
  | .plain, b :: r =>
    if b = 0x22 then some (acc.reverse, r)
    else if b < 0x20 then none
    else scanString (b :: acc) (if b = 0x5c then .escape else .plain) r
  | .escape, b :: r =>
    if b = 0x75 then scanString (b :: acc) (.hex 3) r
    else if isEscapeLetter b then scanString (b :: acc) .plain r
    else none
  | .hex n, b :: r =>
    if isHex b then
      scanString (b :: acc) (match n with | 0 => .plain | k + 1 => .hex k) r
    else none

def isDigit (b : UInt8) : Bool := 0x30 ≤ b && b ≤ 0x39

def scanDigits (bs : Bytes) : Option (Bytes × Bytes) :=
  let ds := bs.takeWhile isDigit
  if ds.isEmpty then none else some (ds, bs.dropWhile isDigit)

def scanWhole (bs : Bytes) : Option (Bytes × Bytes) :=
  match scanDigits bs with
  | some (0x30 :: _ :: _, _) => none
  | other => other

def scanNumber (bs : Bytes) : Option (Bytes × Bytes) := do
  let sign := bs.takeWhile (· == 0x2d)
  if sign.length > 1 then none
  let (whole, r) ← scanWhole (bs.drop sign.length)
  let (fraction, r) ← match r with
    | 0x2e :: r => (scanDigits r).map fun (ds, r) => (0x2e :: ds, r)
    | _ => some ([], r)
  let (exponent, r) ← match r with
    | e :: s :: r' =>
      if e = 0x65 || e = 0x45 then
        if s = 0x2b || s = 0x2d then (scanDigits r').map fun (ds, r) => (e :: s :: ds, r)
        else (scanDigits (s :: r')).map fun (ds, r) => (e :: ds, r)
      else some ([], r)
    | [e] => if e = 0x65 || e = 0x45 then none else some ([], r)
    | [] => some ([], r)
  some (sign ++ whole ++ fraction ++ exponent, r)

def afterWord (word : Bytes) (bs : Bytes) : Option Bytes :=
  if word.isPrefixOf bs then some (bs.drop word.length) else none

/- The second argument bounds the number of steps; twice the length of the text and two suffice. -/
mutual
def scanValue : Nat → Bytes → Option (Written × Bytes)
  | 0, _ => none
  | fuel + 1, bs =>
    match skipSpaces bs with
    | [] => none
    | b :: r =>
      if b = 0x22 then (scanString [] .plain r).map fun (s, r) => (.string s, r)
      else if b = 0x7b then
        match skipSpaces r with
        | 0x7d :: r => some (.object [], r)
        | r => scanMembers [] fuel r
      else if b = 0x5b then
        match skipSpaces r with
        | 0x5d :: r => some (.array [], r)
        | r => scanItems [] fuel r
      else if b = 0x6e then (afterWord [0x75, 0x6c, 0x6c] r).map fun r => (.null, r)
      else if b = 0x74 then (afterWord [0x72, 0x75, 0x65] r).map fun r => (.bool true, r)
      else if b = 0x66 then (afterWord [0x61, 0x6c, 0x73, 0x65] r).map fun r => (.bool false, r)
      else (scanNumber (b :: r)).map fun (n, r) => (.number n, r)

def scanItems (acc : List Written) : Nat → Bytes → Option (Written × Bytes)
  | 0, _ => none
  | fuel + 1, bs => do
    let (x, r) ← scanValue fuel bs
    match skipSpaces r with
    | 0x2c :: r => scanItems (x :: acc) fuel r
    | 0x5d :: r => some (.array (x :: acc).reverse, r)
    | _ => none

def scanMembers (acc : List (Bytes × Written)) : Nat → Bytes → Option (Written × Bytes)
  | 0, _ => none
  | fuel + 1, bs => do
    match skipSpaces bs with
    | 0x22 :: r =>
      let (name, r) ← scanString [] .plain r
      match skipSpaces r with
      | 0x3a :: r =>
        let (x, r) ← scanValue fuel r
        match skipSpaces r with
        | 0x2c :: r => scanMembers ((name, x) :: acc) fuel r
        | 0x7d :: r => some (.object ((name, x) :: acc).reverse, r)
        | _ => none
      | _ => none
    | _ => none
end

def scan? (bs : Bytes) : Option (Written × Bytes) := scanValue (2 * bs.length + 2) bs

def isBlank (bs : Bytes) : Bool := (skipSpaces bs).isEmpty

def parse? (bs : Bytes) : Option Written := do
  let (w, r) ← scan? bs
  if isBlank r then some w else none

end Written
end BearerTrust.Json

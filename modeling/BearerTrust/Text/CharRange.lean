namespace BearerTrust.Text

/-- The characters `first`, `first + step` and so on up to `last`. -/
structure CharRange where
  first : Nat
  last : Nat
  step : Nat := 1
deriving DecidableEq, Inhabited

def CharRange.has (r : CharRange) (c : Char) : Bool :=
  r.first ≤ c.toNat && c.toNat ≤ r.last && (c.toNat - r.first) % r.step == 0

def tableWords (s : String) : List (List Char) :=
  ((s.toList.map fun c => if c = '\n' then ' ' else c).splitOn ' ').filter (!·.isEmpty)

def hexDigit (c : Char) : Nat := if c.isDigit then c.toNat - 48 else c.toNat - 87

def hexNumber (cs : List Char) : Nat := cs.foldl (fun n c => n * 16 + hexDigit c) 0

def hexNumbers (cs : List Char) : List Nat := (cs.splitOn ',').map hexNumber

def CharRange.ofWord (cs : List Char) : CharRange :=
  let isDigit (c : Char) : Bool := c != '-' && c != '~'
  let first := hexNumber (cs.takeWhile isDigit)
  match cs.dropWhile isDigit with
  | '-' :: last => ⟨first, hexNumber last, 1⟩
  | _ :: last => ⟨first, hexNumber last, 2⟩
  | [] => ⟨first, first, 1⟩

def rangesOf (s : String) : List CharRange := (tableWords s).map CharRange.ofWord

end BearerTrust.Text

import BearerTrust.Abort
import BearerTrust.Registry

namespace BearerTrust

/-- A registry as two indices into one list of issuers. -/
structure IndexedRegistry where
  issuers : List TrustedIssuer := []
  shortNames : List (String × Nat) := []
  identifiers : List (String × Nat) := []
deriving DecidableEq, Inhabited

namespace IndexedRegistry

def issuerAt (x : IndexedRegistry) (place : Nat) : Except Abort TrustedIssuer :=
  match x.issuers[place]? with
  | some i => .ok i
  | none => .error (.raised ("index out of bounds: the len is " ++ Nat.repr x.issuers.length ++
      " but the index is " ++ Nat.repr place))

def find? (x : IndexedRegistry) (places : List (String × Nat)) (name : String) :
    Except Abort (Option TrustedIssuer) :=
  match Table.get? name places with
  | none => .ok none
  | some place => (x.issuerAt place).map some

def byShortName? (x : IndexedRegistry) (shortName : String) : Except Abort (Option TrustedIssuer) :=
  x.find? x.shortNames shortName

def byIssuer? (x : IndexedRegistry) (identifier : String) : Except Abort (Option TrustedIssuer) :=
  x.find? x.identifiers identifier

def lookup? (x : IndexedRegistry) (key : String) : Except Abort (Option TrustedIssuer) := do
  match ← x.byShortName? key with
  | some i => .ok (some i)
  | none => x.byIssuer? key

def append (x : IndexedRegistry) (i : TrustedIssuer) : IndexedRegistry where
  issuers := x.issuers ++ [i]
  shortNames := Table.put i.shortName x.issuers.length x.shortNames
  identifiers := Table.put i.identifier x.issuers.length x.identifiers

/-- Adds an issuer whose short name and identifier are both new, and looks it up where it was put. -/
def add (i : TrustedIssuer) (x : IndexedRegistry) :
    Except Abort (Except RegistryError TrustedIssuer × IndexedRegistry) :=
  if (Table.get? i.shortName x.shortNames).isSome then
    .ok (.error (.duplicateShortName i.shortName), x)
  else if (Table.get? i.identifier x.identifiers).isSome then
    .ok (.error (.duplicateIssuer i.identifier), x)
  else do
    let added ← (x.append i).issuerAt x.issuers.length
    .ok (.ok added, x.append i)

variable {σ : Type}

def register (resolve : Url → σ → Except MetadataError IssuerMetadata × σ) (shortName : String)
    (s : IssuerSettings) (x : IndexedRegistry) (w : σ) :
    Except Abort (Except RegistryError TrustedIssuer × IndexedRegistry × σ) :=
  if (Table.get? shortName x.shortNames).isSome then
    .ok (.error (.duplicateShortName shortName), x, w)
  else match resolve s.discoveryUrl w with
    | (.error e, w) => .ok (.error (.metadataUnavailable shortName e), x, w)
    | (.ok m, w) => do
      let (result, x) ← x.add (.ofMetadata shortName s m)
      .ok (result, x, w)

end IndexedRegistry

inductive Enrolment (σ : Type) where
  | add (i : TrustedIssuer)
  | register (resolve : Url → σ → Except MetadataError IssuerMetadata × σ) (shortName : String)
      (s : IssuerSettings)

namespace IndexedRegistry

variable {σ : Type}

def enrol (x : IndexedRegistry) (w : σ) :
    Enrolment σ → Except Abort (Except RegistryError TrustedIssuer × IndexedRegistry × σ)
  | .add i => (x.add i).map fun (result, x) => (result, x, w)
  | .register resolve shortName s => x.register resolve shortName s w

def enrolAll : List (Enrolment σ) → IndexedRegistry → σ →
    Except Abort (List (Except RegistryError TrustedIssuer) × IndexedRegistry × σ)
  | [], x, w => .ok ([], x, w)
  | c :: cs, x, w => do
    let (result, x, w) ← x.enrol w c
    let (results, x, w) ← enrolAll cs x w
    .ok (result :: results, x, w)

end IndexedRegistry
end BearerTrust

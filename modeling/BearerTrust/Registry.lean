import BearerTrust.Issuer

namespace BearerTrust

inductive RegistryError where
  | metadataUnavailable (shortName : String) (cause : MetadataError)
  | retriever (shortName : String) (cause : RetrievalError)
  | duplicateShortName (shortName : String)
  | duplicateIssuer (identifier : String)
deriving DecidableEq, Inhabited

def RegistryError.message : RegistryError → String
  | .metadataUnavailable shortName _ => "metadata unavailable for issuer `" ++ shortName ++ "`"
  | .retriever shortName _ =>
    "unable to construct resource retriever for issuer `" ++ shortName ++ "`"
  | .duplicateShortName shortName =>
    "issuer short name `" ++ shortName ++ "` is registered more than once"
  | .duplicateIssuer identifier =>
    "issuer `" ++ identifier ++ "` is registered under more than one short name"

/-- The trusted issuers in the order of registration. -/
structure Registry where
  issuers : List TrustedIssuer
  nodup_shortName : (issuers.map TrustedIssuer.shortName).Nodup
  nodup_identifier : (issuers.map TrustedIssuer.identifier).Nodup

namespace Registry

def empty : Registry := ⟨[], .nil, .nil⟩

instance : Inhabited Registry := ⟨empty⟩

def byShortName? (r : Registry) (shortName : String) : Option TrustedIssuer :=
  r.issuers.find? (·.shortName = shortName)

def byIssuer? (r : Registry) (identifier : String) : Option TrustedIssuer :=
  r.issuers.find? (·.identifier = identifier)

/-- The issuer with the key as its short name, or else the one with it as its identifier. -/
def lookup? (r : Registry) (key : String) : Option TrustedIssuer :=
  r.byShortName? key <|> r.byIssuer? key

theorem nodup_map_append {α : Type} {f : TrustedIssuer → α} {is : List TrustedIssuer}
    {i : TrustedIssuer} (h : (is.map f).Nodup) (hi : f i ∉ is.map f) :
    ((is ++ [i]).map f).Nodup := by
  induction is with
  | nil => simp
  | cons j is ih => simp_all [eq_comm]

def add (i : TrustedIssuer) (r : Registry) : Except RegistryError Registry :=
  if hs : i.shortName ∈ r.issuers.map TrustedIssuer.shortName then
    .error (.duplicateShortName i.shortName)
  else if hi : i.identifier ∈ r.issuers.map TrustedIssuer.identifier then
    .error (.duplicateIssuer i.identifier)
  else
    .ok ⟨r.issuers ++ [i], nodup_map_append r.nodup_shortName hs,
      nodup_map_append r.nodup_identifier hi⟩

variable {σ : Type}

/-- Finds out an issuer's metadata and adds it. Nothing is retrieved for a short name that is taken. -/
def register (web : Retriever σ) (shortName : String) (s : IssuerSettings) (r : Registry) (w : σ) :
    Except RegistryError Registry × σ :=
  if (r.byShortName? shortName).isSome then (.error (.duplicateShortName shortName), w)
  else match discover web s.discoveryUrl w with
    | (.error e, w) => (.error (.metadataUnavailable shortName e), w)
    | (.ok m, w) => (r.add (.ofMetadata shortName s m), w)

def registerAll (connect : Routing → Except RetrievalError (Retriever σ)) :
    List (String × IssuerSettings) → Registry → σ → Except RegistryError Registry × σ
  | [], r, w => (.ok r, w)
  | (shortName, s) :: rest, r, w =>
    match connect s.routing with
    | .error e => (.error (.retriever shortName e), w)
    | .ok web =>
      match register web shortName s r w with
      | (.error e, w) => (.error e, w)
      | (.ok r, w) => registerAll connect rest r w

/-- The registry of all issuers in the settings, or the first error in the order of their short
names. -/
def ofSettings (connect : Routing → Except RetrievalError (Retriever σ)) (s : ValidationSettings)
    (w : σ) : Except RegistryError Registry × σ :=
  registerAll connect s.issuers empty w

end Registry
end BearerTrust

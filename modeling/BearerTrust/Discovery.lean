import BearerTrust.Json.Record
import BearerTrust.Retrieval

namespace BearerTrust

structure IssuerMetadata where
  issuer : String
  jwksUri : Url
  tokenEndpoint : Option Url
deriving DecidableEq, Inhabited

namespace IssuerMetadata

def readUrl (v : Json) : Option Url := v.asString? >>= Url.parse?

def fieldNames : List String := ["issuer", "jwks_uri", "token_endpoint"]

def ofRecord? (r : Json.Record) : Option IssuerMetadata := do
  let issuer ← r.required "issuer" Json.asString?
  let jwksUri ← r.required "jwks_uri" readUrl
  let tokenEndpoint ← r.withDefault "token_endpoint" none (Json.nullable readUrl)
  some { issuer, jwksUri, tokenEndpoint }

def ofJson? (v : Json) : Option IssuerMetadata := Json.Record.ofJson? fieldNames v >>= ofRecord?

def parse? (bs : Bytes) : Option IssuerMetadata := Json.Record.parse? fieldNames bs >>= ofRecord?

def toJson (m : IssuerMetadata) : Json :=
  .object (("issuer", .string m.issuer) :: ("jwks_uri", .string m.jwksUri.text) ::
    m.tokenEndpoint.toList.map fun u => ("token_endpoint", .string u.text))

end IssuerMetadata

inductive MetadataError where
  | retrieval (cause : RetrievalError)
  | malformed
deriving DecidableEq, Inhabited

def MetadataError.message : MetadataError → String
  | .retrieval _ => "unable to retrieve discovery document"
  | .malformed => "malformed discovery document"

def discover {σ : Type} (web : Retriever σ) (url : Url) (s : σ) :
    Except MetadataError IssuerMetadata × σ :=
  match web.retrieve url s with
  | (.error e, s) => (.error (.retrieval e), s)
  | (.ok body, s) =>
    match IssuerMetadata.parse? body with
    | some m => (.ok m, s)
    | none => (.error .malformed, s)

end BearerTrust

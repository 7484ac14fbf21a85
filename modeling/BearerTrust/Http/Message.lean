import BearerTrust.Retrieval

namespace BearerTrust.Http

/-- A request as it is handed to a carrier. Carriers take the user and the password out of a location and send
them in a header of their own; that is left out, so they stand in `url` as they were given. -/
structure Request where
  method : String
  url : Url
  proxy : Option Url
  headers : List (String × String)
  body : Bytes
deriving DecidableEq, Inhabited

structure Response where
  status : Nat
  declared : Option Nat
  chunks : List (Option Bytes)
deriving DecidableEq, Inhabited

/-- A carrier of requests with the state `ω`; `none` if a request cannot be sent. -/
structure Transport (ω : Type) where
  send : Request → ω → Option Response × ω

def Transport.unreachable : Transport Unit := ⟨fun _ s => (none, s)⟩

def readChunks (url : Url) (limit : Nat) (acc : Bytes) :
    List (Option Bytes) → Except RetrievalError Bytes
  | [] => .ok acc
  | none :: _ => .error (.bodyRead url)
  | some chunk :: rest =>
    if limit < acc.length + chunk.length then .error (.tooLarge url limit)
    else readChunks url limit (acc ++ chunk) rest

/-- Reads the body of a response that came from a place. A declared length beyond the limit is refused
before anything is read. -/
def Response.read (r : Response) (url : Url) (limit : Nat) : Except RetrievalError Bytes :=
  if r.declared.any (limit < ·) then .error (.tooLarge url limit)
  else readChunks url limit [] r.chunks

def Response.isSuccess (r : Response) : Bool := 200 ≤ r.status && r.status < 300

end BearerTrust.Http

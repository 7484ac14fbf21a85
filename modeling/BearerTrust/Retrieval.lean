import BearerTrust.Url.Parser

namespace BearerTrust

inductive RetrievalError where
  | clientBuild
  | requestSend (url : Url)
  | errorStatus (url : Url) (status : Nat)
  | tooLarge (url : Url) (limit : Nat)
  | bodyRead (url : Url)
deriving DecidableEq, Inhabited

def RetrievalError.message : RetrievalError → String
  | .clientBuild => "unable to construct HTTP client"
  | .requestSend url => "error sending request to " ++ url.text
  | .errorStatus url status => "unexpected status " ++ Nat.repr status ++ " from " ++ url.text
  | .tooLarge url limit =>
    "response from " ++ url.text ++ " exceeds the " ++ Nat.repr limit ++ " byte limit"
  | .bodyRead url => "error reading response body from " ++ url.text

/-- A source of documents with the state `σ`. -/
structure Retriever (σ : Type) where
  retrieve : Url → σ → Except RetrievalError Bytes × σ

inductive Document where
  | body (content : Bytes)
  | status (code : Nat)
deriving DecidableEq, Inhabited

def Document.answer (url : Url) : Document → Except RetrievalError Bytes
  | .body content => .ok content
  | .status code => .error (.errorStatus url code)

structure Library where
  shelves : List (Url × List Document) := []
  asked : List Url := []
deriving Inhabited

namespace Library

def takeNext (url : Url) : List Document → Except RetrievalError Bytes × List Document
  | [] => (.error (.errorStatus url 404), [])
  | [d] => (Document.answer url d, [d])
  | d :: r => (Document.answer url d, r)

def takeFrom (url : Url) :
    List (Url × List Document) → Except RetrievalError Bytes × List (Url × List Document)
  | [] => (.error (.errorStatus url 404), [])
  | (u, ds) :: r =>
    if u = url then
      let (answer, ds) := takeNext url ds
      (answer, (u, ds) :: r)
    else
      let (answer, r) := takeFrom url r
      (answer, (u, ds) :: r)

def retrieve (url : Url) (l : Library) : Except RetrievalError Bytes × Library :=
  let (answer, shelves) := takeFrom url l.shelves
  (answer, ⟨shelves, l.asked ++ [url]⟩)

def shelve (url : Url) (d : Document) : List (Url × List Document) → List (Url × List Document)
  | [] => [(url, [d])]
  | (u, ds) :: r => if u = url then (u, ds ++ [d]) :: r else (u, ds) :: shelve url d r

def add (url : Url) (d : Document) (l : Library) : Library := { l with shelves := shelve url d l.shelves }

def retriever : Retriever Library := ⟨retrieve⟩

end Library
end BearerTrust

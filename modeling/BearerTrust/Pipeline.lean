import BearerTrust.Candidates
import BearerTrust.Context

namespace BearerTrust

/-- The keys that each issuer has stored, under its short name, and the state of the web. -/
structure TrustState (σ : Type) where
  stored : List (String × StoredKeys) := []
  web : σ

namespace TrustState

variable {σ : Type}

def keys (st : TrustState σ) (shortName : String) : KeyState σ :=
  ⟨Table.get? shortName st.stored, st.web⟩

def withKeys (st : TrustState σ) (shortName : String) (k : KeyState σ) : TrustState σ :=
  ⟨match k.stored with
    | none => Table.erase shortName st.stored
    | some c => Table.put shortName c st.stored, k.web⟩

theorem keys_withKeys_self (st : TrustState σ) (shortName : String) (k : KeyState σ) :
    (st.withKeys shortName k).keys shortName = k := by
  obtain ⟨stored, web⟩ := k
  cases stored with
  | none => simp [keys, withKeys, Table.get?_erase_self]
  | some c => simp [keys, withKeys, Table.get?_put_self]

theorem get?_withKeys_of_ne (st : TrustState σ) {n shortName : String} (h : n ≠ shortName)
    (k : KeyState σ) :
    Table.get? n (st.withKeys shortName k).stored = Table.get? n st.stored := by
  obtain ⟨stored, web⟩ := k
  cases stored with
  | none => exact Table.get?_erase_of_ne h _
  | some c => exact Table.get?_put_of_ne h _ _

end TrustState

namespace Registry

variable {σ : Type}

/-- Validates one candidate with the validator of its issuer; `none` if the issuer is not known. -/
def validateCandidate (web : Retriever σ) (r : Registry) (now : Seconds) (instant : Instant)
    (c : Candidate) (st : TrustState σ) :
    Except Abort (Option (Except TokenError Token) × TrustState σ) :=
  match r.byShortName? c.shortName with
  | none => .ok (none, st)
  | some i => do
    let (result, k) ← i.validator.validate web now instant c.token (st.keys c.shortName)
    .ok (some result, st.withKeys c.shortName k)

def validateAll (web : Retriever σ) (r : Registry) (now : Seconds) (instant : Instant) :
    List Candidate → Context → TrustState σ → Except Abort (Context × TrustState σ)
  | [], ctx, st => .ok (ctx, st)
  | c :: cs, ctx, st => do
    match ← r.validateCandidate web now instant c st with
    | (some (.ok token), st) => validateAll web r now instant cs (ctx.insert c.shortName token) st
    | (_, st) => validateAll web r now instant cs ctx st

/-- The context of a request. Candidates that do not pass are left out. -/
def validate (web : Retriever σ) (r : Registry) (now : Seconds) (instant : Instant) (q : Request)
    (st : TrustState σ) : Except Abort (Context × TrustState σ) :=
  r.validateAll web now instant (r.candidates q) {} st

end Registry
end BearerTrust

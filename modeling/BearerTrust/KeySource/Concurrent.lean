import BearerTrust.KeySource.Basic
import BearerTrust.Table

namespace BearerTrust

inductive KeyQuery where
  | keys
  | key (id : Option String) (algorithm : Algorithm)
  | refreshAhead
deriving DecidableEq, Inhabited

inductive KeyAnswer where
  | keys (found : KeySet)
  | key (found : Option Jwk)
  | refreshed
deriving DecidableEq, Inhabited

inductive KeyOutcome where
  | answer (a : KeyAnswer)
  | failure (e : KeySourceError)
  | abort (a : Abort)
deriving DecidableEq, Inhabited

inductive KeyPhase where
  | reading
  | waiting (why : RefreshReason)
  | checking (why : RefreshReason)
  | retrieving (why : RefreshReason)
  | storing (why : RefreshReason) (fresh : StoredKeys)
  | done (outcome : KeyOutcome)
deriving DecidableEq, Inhabited

structure KeyCaller where
  query : KeyQuery
  phase : KeyPhase := .reading
deriving DecidableEq, Inhabited

/-- A source at work. Callers get the lock in the order of asking: `line` starts with the one that holds
it or gets it next. -/
structure KeyDesk where
  source : KeySource
  now : Instant := 0
  stored : Option StoredKeys := none
  line : List Nat := []
  callers : List (Nat × KeyCaller) := []
  begun : Nat := 0
deriving Inhabited

inductive KeyMove where
  | pass (span : Span)
  | arrive (i : Nat) (query : KeyQuery)
  | step (i : Nat)
  | answer (i : Nat) (answer : Except RetrievalError Bytes)

namespace KeyDesk

def setPhase (d : KeyDesk) (i : Nat) (c : KeyCaller) (phase : KeyPhase) : KeyDesk :=
  { d with callers := Table.put i { c with phase } d.callers }

def finish (d : KeyDesk) (i : Nat) (c : KeyCaller) (outcome : KeyOutcome) : KeyDesk :=
  d.setPhase i c (.done outcome)

def leaveLine (d : KeyDesk) (i : Nat) : KeyDesk := { d with line := d.line.erase i }

def enterLine (d : KeyDesk) (i : Nat) (c : KeyCaller) (why : RefreshReason) : KeyDesk :=
  { d.setPhase i c (.waiting why) with line := d.line ++ [i] }

/-- Hands a set to a caller, `why` it asked for it. A key that a cached set lacks is asked for once
more. -/
def deliver (d : KeyDesk) (i : Nat) (c : KeyCaller) (why : RefreshReason) (ks : KeySet) : KeyDesk :=
  match c.query with
  | .keys => d.finish i c (.answer (.keys ks))
  | .refreshAhead => d.finish i c (.answer .refreshed)
  | .key id algorithm =>
    match ks.choose id algorithm with
    | some k => d.finish i c (.answer (.key (some k)))
    | none =>
      if why = .unknownKey ∨ d.source.cache.isNone then d.finish i c (.answer (.key none))
      else d.enterLine i c .unknownKey

def beginRetrieval (d : KeyDesk) (i : Nat) (c : KeyCaller) (why : RefreshReason) : KeyDesk :=
  { d.setPhase i c (.retrieving why) with begun := d.begun + 1 }

def step (d : KeyDesk) (i : Nat) : KeyDesk :=
  match Table.get? i d.callers with
  | none => d
  | some c =>
    match c.phase, d.source.cache with
    | .reading, none =>
      match c.query with
      | .refreshAhead => d.finish i c (.answer .refreshed)
      | _ => d.beginRetrieval i c .expiry
    | .reading, some policy =>
      match c.query, d.stored with
      | .refreshAhead, _ => d.enterLine i c .ahead
      | _, some s =>
        if RefreshReason.expiry.isSettledBy policy d.now s then d.deliver i c .expiry s.keys
        else d.enterLine i c .expiry
      | _, none => d.enterLine i c .expiry
    | .waiting why, _ => if d.line.head? = some i then d.setPhase i c (.checking why) else d
    | .checking why, some policy =>
      match d.stored with
      | some s =>
        if why.isSettledBy policy d.now s then (d.leaveLine i).deliver i c why s.keys
        else d.beginRetrieval i c why
      | none => d.beginRetrieval i c why
    | .checking why, none => d.beginRetrieval i c why
    | .storing why s, _ => { d.leaveLine i with stored := some s }.deliver i c why s.keys
    | .retrieving _, _ | .done _, _ => d

/-- The issuer's answer: with a cache a set is to be stored before it is handed on; a failure is
reported. -/
def answer (d : KeyDesk) (i : Nat) (a : Except RetrievalError Bytes) : KeyDesk :=
  match Table.get? i d.callers with
  | none => d
  | some c =>
    match c.phase with
    | .retrieving why =>
      let free := d.leaveLine i
      match KeySource.readAnswer a, d.source.cache with
      | .error e, _ => free.finish i c (.failure e)
      | .ok ks, none => free.deliver i c why ks
      | .ok ks, some policy =>
        match KeySource.storedAt policy d.now ks with
        | .ok s => d.setPhase i c (.storing why s)
        | .error a => free.finish i c (.abort a)
    | _ => d

def apply (d : KeyDesk) : KeyMove → KeyDesk
  | .pass span => { d with now := d.now + span }
  | .arrive i query =>
    if (Table.get? i d.callers).isSome then d
    else { d with callers := Table.put i { query } d.callers }
  | .step i => d.step i
  | .answer i a => d.answer i a

def run (d : KeyDesk) (moves : List KeyMove) : KeyDesk := moves.foldl apply d

def outcome? (d : KeyDesk) (i : Nat) : Option KeyOutcome :=
  match Table.get? i d.callers with
  | some ⟨_, .done o⟩ => some o
  | _ => none

def isReady (d : KeyDesk) (i : Nat) : Bool :=
  match Table.get? i d.callers with
  | some ⟨_, .reading⟩ | some ⟨_, .checking _⟩ | some ⟨_, .storing _ _⟩ => true
  | some ⟨_, .waiting _⟩ => d.line.head? == some i
  | _ => false

def isRetrieving (d : KeyDesk) (i : Nat) : Bool :=
  match Table.get? i d.callers with
  | some ⟨_, .retrieving _⟩ => true
  | _ => false

def forget (d : KeyDesk) (i : Nat) : KeyDesk := { d with callers := Table.erase i d.callers }

end KeyDesk
end BearerTrust

import BearerTrust.KeySource.Concurrent

namespace BearerTrust

/-- A retrieval on its way: whose it is, when the answer arrives, and what it will be. -/
structure Flight where
  caller : Nat
  due : Instant
  answer : Except RetrievalError Bytes

/-- The background task: asleep, or in the middle of a refresh as a caller. -/
inductive Refresher where
  | asleep (wakes : Instant)
  | refreshing (caller : Nat)
deriving DecidableEq, Inhabited

/-- A source in virtual time: whoever can act does so at once, and then time goes to the next event. -/
structure Timeline where
  desk : KeyDesk
  library : Library
  delay : Span := 0
  flights : List Flight := []
  refreshers : List Refresher := []
  nextCaller : Nat := 0
  isHeld : Bool := true
deriving Inhabited

namespace Timeline

def start (source : KeySource) (library : Library) (delay : Span) : Timeline :=
  { desk := { source }, library, delay }

def arrive (t : Timeline) (query : KeyQuery) : Nat × Timeline :=
  (t.nextCaller,
    { t with desk := t.desk.apply (.arrive t.nextCaller query), nextCaller := t.nextCaller + 1 })

def step (t : Timeline) (i : Nat) : Timeline :=
  let desk := t.desk.apply (.step i)
  if desk.begun = t.desk.begun then { t with desk }
  else
    let (answer, library) := t.library.retrieve desk.source.jwksUrl
    { t with desk, library, flights := t.flights ++ [⟨i, desk.now + t.delay, answer⟩] }

def land (t : Timeline) (f : Flight) : Timeline :=
  { t with
    desk := t.desk.apply (.answer f.caller f.answer)
    flights := t.flights.filter (·.caller ≠ f.caller) }

def settle (t : Timeline) : Nat → Timeline
  | 0 => t
  | fuel + 1 =>
    match t.desk.callers.find? fun e => t.desk.isReady e.1 with
    | some e => settle (t.step e.1) fuel
    | none =>
      match t.flights.find? (·.due ≤ t.desk.now) with
      | some f => settle (t.land f) fuel
      | none => t

/-- Every caller has at most nine steps. -/
def settled (t : Timeline) : Timeline := t.settle (10 * t.desk.callers.length + 10)

/-- Whether the source still exists: its owner holds it, or one of the background tasks `others` that is
in the middle of a refresh. -/
def isAlive (t : Timeline) (others : List Refresher) : Bool :=
  t.isHeld || others.any fun
    | .refreshing _ => true
    | .asleep _ => false

def lieDown (policy : KeyCachePolicy) (t : Timeline) : Timeline :=
  let wakes := t.desk.now + KeySource.nextRefresh policy t.desk.now t.desk.stored
  { t with refreshers := t.refreshers ++ [.asleep wakes] }

def wake (t : Timeline) : Timeline :=
  let (i, t) := t.arrive .refreshAhead
  { t with refreshers := t.refreshers ++ [.refreshing i] }

/-- Lets a background task go on beside the others: to sleep again after a refresh, or to an end with
the source. -/
def resumeRefresher (r : Refresher) (others : List Refresher) (t : Timeline) : Timeline :=
  match r, t.desk.source.cache with
  | .asleep wakes, some _ =>
    if wakes ≤ t.desk.now then
      if t.isAlive others then t.wake.settled else t
    else { t with refreshers := t.refreshers ++ [r] }
  | .refreshing i, some policy =>
    match t.desk.outcome? i with
    | none => { t with refreshers := t.refreshers ++ [r] }
    | some (.abort _) => { t with desk := t.desk.forget i }
    | some _ =>
      let t := { t with desk := t.desk.forget i }
      if t.isAlive others then t.lieDown policy else t
  | _, none => t

def resumeAll (t : Timeline) : (waiting : List Refresher) → Timeline
  | [] => t
  | r :: rs => resumeAll (resumeRefresher r (t.refreshers ++ rs) t) rs

def resumeRefreshers (t : Timeline) : Timeline := { t with refreshers := [] }.resumeAll t.refreshers

/-- Everything that happens without time passing: the callers' steps, due answers, and background
tasks that wake or have finished. -/
def react (t : Timeline) : Timeline := t.settled.resumeRefreshers.settled.resumeRefreshers

def nextEvent? (t : Timeline) : Option Instant :=
  let wakes := t.refreshers.filterMap fun
    | .asleep w => some w
    | .refreshing _ => none
  (t.flights.map (·.due) ++ wakes).min?

def moveTo (t : Timeline) (instant : Instant) : Timeline :=
  { t with desk := t.desk.apply (.pass (instant - t.desk.now)) }

/-- Goes on from event to event up to an instant, which comes before the events at it. -/
def passTo (t : Timeline) (instant : Instant) : Nat → Timeline
  | 0 => t
  | fuel + 1 =>
    match t.nextEvent? with
    | some e => if e < instant then passTo (t.moveTo e).react instant fuel else t.moveTo instant
    | none => t.moveTo instant

def await (t : Timeline) (callers : List Nat) : Nat → Timeline
  | 0 => t
  | fuel + 1 =>
    let t := t.settled
    if callers.all fun i => (t.desk.outcome? i).isSome then t
    else match t.nextEvent? with
      | some e => await (t.moveTo e).react callers fuel
      | none => t

/-- More events than a span of time holds for the tasks at work. -/
def fuelFor (t : Timeline) (span : Span) : Nat :=
  (span + 2) * (t.refreshers.length + t.flights.length + 2) * 4

inductive Action where
  | query (query : KeyQuery)
  | concurrent (count : Nat)
  | spawnRefresh
  | sleep (span : Span)
  | push (d : Document)
  | drop

inductive Reply where
  | nothing
  | completed
  | outcome (o : KeyOutcome)
  | outcomes (os : List KeyOutcome)

def collect (t : Timeline) (callers : List Nat) : List KeyOutcome × Timeline :=
  let t := t.await callers (t.fuelFor (t.delay * (2 * callers.length + 2)))
  (callers.filterMap t.desk.outcome?, { t with desk := callers.foldl KeyDesk.forget t.desk })

def arriveAll (query : KeyQuery) (t : Timeline) : Nat → List Nat × Timeline
  | 0 => ([], t)
  | n + 1 =>
    let (i, t) := t.arrive query
    let (is, t) := arriveAll query t n
    (i :: is, t)

def perform (t : Timeline) : Action → Reply × Timeline
  | .sleep span => (.completed, t.passTo (t.desk.now + span) (t.fuelFor span))
  | .push d => (.completed, { t with library := t.library.add t.desk.source.jwksUrl d })
  | .drop => (.completed, { t with isHeld := false })
  | .query q =>
    if t.isHeld then
      let (i, t) := t.arrive q
      match t.collect [i] with
      | ([o], t) => (.outcome o, t)
      | (_, t) => (.nothing, t)
    else (.nothing, t)
  | .concurrent n =>
    if t.isHeld then
      let (is, t) := arriveAll .keys t n
      let (os, t) := t.collect is
      (.outcomes os, t)
    else (.nothing, t)
  | .spawnRefresh =>
    if t.isHeld then
      match t.desk.source.cache with
      | none => (.completed, t)
      | some policy => (.completed, t.lieDown policy)
    else (.nothing, t)

end Timeline
end BearerTrust

import BearerTrust.Abort
import BearerTrust.Pipeline
import BearerTrust.Policy

namespace BearerTrust

/-- Work done by a task, with observations of the type `τ` that go into a log. -/
inductive Work (τ : Type) where
  | observe (f : Option Context → τ)
  | scope (c : Context) (body : List (Work τ))
  | spawn (body : List (Work τ))
  | raise (a : Abort)
  | guard (body : List (Work τ)) (report : Option Abort → τ)

/-- A task: the context installed in it and the log so far. -/
structure Task (τ : Type) where
  installed : Option Context := none
  log : List τ := []

namespace Task

variable {τ : Type}

def note (t : Task τ) (x : τ) : Task τ := { t with log := t.log ++ [x] }

mutual
/-- Does one piece of work; the abort that ends it, if any, comes first. -/
def run : Work τ → Task τ → Option Abort × Task τ
  | .observe f, t => (none, t.note (f t.installed))
  | .scope c body, t =>
    if t.installed.isSome then (some .contextInstalled, t)
    else
      let (a, u) := runAll body { t with installed := some c }
      (a, { u with installed := t.installed })
  | .spawn body, t =>
    let (_, u) := runAll body { t with installed := none }
    (none, { u with installed := t.installed })
  | .raise a, t => (some a, t)
  | .guard body report, t =>
    let (a, u) := runAll body t
    (none, u.note (report a))

def runAll : List (Work τ) → Task τ → Option Abort × Task τ
  | [], t => (none, t)
  | w :: ws, t =>
    match run w t with
    | (some a, t) => (some a, t)
    | (none, t) => runAll ws t
end

mutual
/-- Whatever is done, and however it ends, what was installed before is installed after it. -/
theorem run_installed : ∀ (w : Work τ) (t : Task τ), (run w t).2.installed = t.installed
  | .observe _, _ => rfl
  | .scope c body, t => by
    unfold run
    split <;> rfl
  | .spawn _, _ => rfl
  | .raise _, _ => rfl
  | .guard body _, t => runAll_installed body t

theorem runAll_installed : ∀ (ws : List (Work τ)) (t : Task τ), (runAll ws t).2.installed = t.installed
  | [], _ => rfl
  | w :: ws, t => by
    have hw := run_installed w t
    unfold runAll
    split
    · next h => rw [← hw, h]
    · next u h => rw [runAll_installed ws u, ← hw, h]
end

theorem mem_log_scope {c : Context} {body : List (Work τ)} {t : Task τ} {x : τ}
    (h : x ∈ (run (.scope c body) t).2.log) :
    x ∈ t.log ∨ x ∈ (runAll body { t with installed := some c }).2.log := by
  unfold run at h
  split at h
  · exact .inl h
  · exact .inr h

end Task

/-- The decision of a policy where a context may be installed; without one there are no tokens. -/
def Policy.currentDecision (policy : Option Policy) (installed : Option Context) :
    Except Denial Unit :=
  Policy.decision policy (installed.getD {})

/-- Validates a request, then does the body with its context installed. -/
def Registry.serve {σ τ : Type} (web : Retriever σ) (r : Registry) (now : Seconds)
    (instant : Instant) (q : Request) (st : TrustState σ) (body : List (Work τ)) : Work τ :=
  match r.validate web now instant q st with
  | .error a => .raise a
  | .ok (c, _) => .scope c body

end BearerTrust

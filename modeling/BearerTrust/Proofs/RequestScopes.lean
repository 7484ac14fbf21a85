import BearerTrust.Proofs.Completeness
import BearerTrust.Scope

namespace BearerTrust

variable {σ τ : Type}

/-- How work goes under a context, or under none: the abort that ends it, if any, and what it logs. -/
inductive Course : Option Context → List (Work τ) → Option Abort → List τ → Prop
  | done {around : Option Context} : Course around [] none []
  | read {around : Option Context} {f : Option Context → τ} {ws : List (Work τ)} {a : Option Abort}
      {l : List τ} (h : Course around ws a l) : Course around (.observe f :: ws) a (f around :: l)
  | entered {c : Context} {body ws : List (Work τ)} {a : Option Abort} {l l' : List τ}
      (hbody : Course (some c) body none l) (h : Course none ws a l') :
      Course none (.scope c body :: ws) a (l ++ l')
  | unwound {c : Context} {body ws : List (Work τ)} {a : Abort} {l : List τ}
      (hbody : Course (some c) body (some a) l) : Course none (.scope c body :: ws) (some a) l
  | refused {outer c : Context} {body ws : List (Work τ)} :
      Course (some outer) (.scope c body :: ws) (some .contextInstalled) []
  | spawned {around : Option Context} {body ws : List (Work τ)} {ended a : Option Abort} {l l' : List τ}
      (hbody : Course none body ended l) (h : Course around ws a l') :
      Course around (.spawn body :: ws) a (l ++ l')
  | raised {around : Option Context} {a : Abort} {ws : List (Work τ)} :
      Course around (.raise a :: ws) (some a) []
  | guarded {around : Option Context} {body ws : List (Work τ)} {report : Option Abort → τ}
      {ended a : Option Abort} {l l' : List τ} (hbody : Course around body ended l)
      (h : Course around ws a l') : Course around (.guard body report :: ws) a (l ++ report ended :: l')

namespace Course

variable {around : Option Context} {w : Work τ} {ws : List (Work τ)} {a : Option Abort} {l l' : List τ}

theorem cons (hw : Course around [w] none l) (h : Course around ws a l') :
    Course around (w :: ws) a (l ++ l') := by
  cases hw with
  | read hw =>
    cases hw
    exact .read h
  | entered hbody hw =>
    cases hw
    rw [List.append_nil]
    exact .entered hbody h
  | spawned hbody hw =>
    cases hw
    rw [List.append_nil]
    exact .spawned hbody h
  | guarded hbody hw =>
    cases hw
    rw [List.append_assoc]
    exact .guarded hbody h

theorem cons_abort {e : Abort} (hw : Course around [w] (some e) l) :
    Course around (w :: ws) (some e) l := by
  cases hw with
  | read hw => cases hw
  | entered hbody hw => cases hw
  | unwound hbody => exact .unwound hbody
  | refused => exact .refused
  | spawned hbody hw => cases hw
  | raised => exact .raised
  | guarded hbody hw => cases hw

theorem runAll_eq (h : Course around ws a l) (log : List τ) :
    Task.runAll ws ⟨around, log⟩ = (a, ⟨around, log ++ l⟩) := by
  induction h generalizing log with
  | done => simp [Task.runAll]
  | read _ ih => simp [Task.runAll, Task.run, Task.note, ih]
  | entered _ _ ihbody ih => simp [Task.runAll, Task.run, ihbody, ih]
  | unwound _ ihbody => simp [Task.runAll, Task.run, ihbody]
  | refused => simp [Task.runAll, Task.run]
  | spawned _ _ ihbody ih => simp [Task.runAll, Task.run, ihbody, ih]
  | raised => simp [Task.runAll, Task.run]
  | guarded _ _ ihbody ih => simp [Task.runAll, Task.run, Task.note, ihbody, ih]

end Course

namespace Task

mutual
theorem course_run : ∀ (w : Work τ) (around : Option Context) (log : List τ),
    ∃ l, Course around [w] (run w ⟨around, log⟩).1 l
  | .observe f, around, log => ⟨_, .read .done⟩
  | .scope c body, none, log => by
    obtain ⟨l, hbody⟩ := course_runAll body (some c) log
    change ∃ l, Course none [.scope c body] (runAll body ⟨some c, log⟩).1 l
    cases ha : (runAll body ⟨some c, log⟩).1 with
    | none =>
      rw [ha] at hbody
      exact ⟨_, .entered hbody .done⟩
    | some a =>
      rw [ha] at hbody
      exact ⟨_, .unwound hbody⟩
  | .scope c body, some outer, log => ⟨_, .refused⟩
  | .spawn body, around, log =>
    have ⟨_, hbody⟩ := course_runAll body none log
    ⟨_, .spawned hbody .done⟩
  | .raise a, around, log => ⟨_, .raised⟩
  | .guard body report, around, log =>
    have ⟨_, hbody⟩ := course_runAll body around log
    ⟨_, .guarded hbody .done⟩

theorem course_runAll : ∀ (ws : List (Work τ)) (around : Option Context) (log : List τ),
    ∃ l, Course around ws (runAll ws ⟨around, log⟩).1 l
  | [], around, log => ⟨_, .done⟩
  | w :: ws, around, log => by
    obtain ⟨l, hw⟩ := course_run w around log
    have hsame := run_installed w ⟨around, log⟩
    rcases hrun : run w ⟨around, log⟩ with ⟨a, ⟨installed, log'⟩⟩
    rw [hrun] at hw hsame
    rw [runAll, hrun]
    cases a with
    | some a => exact ⟨l, hw.cons_abort⟩
    | none =>
      -- The rest is done under what is installed now, which is what was installed before.
      cases hsame
      obtain ⟨l', h⟩ := course_runAll ws around log'
      exact ⟨_, hw.cons h⟩
end

/-- Tasks, with what they install and put back, go exactly by courses, which do neither. -/
theorem runAll_eq_iff {ws : List (Work τ)} {t u : Task τ} {a : Option Abort} :
    runAll ws t = (a, u) ↔ ∃ l, Course t.installed ws a l ∧ u = ⟨t.installed, t.log ++ l⟩ := by
  constructor
  · intro h
    obtain ⟨l, hcourse⟩ := course_runAll ws t.installed t.log
    have hrun := hcourse.runAll_eq t.log
    cases h.symm.trans hrun
    exact ⟨l, hcourse, rfl⟩
  · rintro ⟨l, hcourse, rfl⟩
    exact hcourse.runAll_eq t.log

end Task

theorem Course.evaluated_iff {report : Except Denial Unit → τ} {p : Option Policy}
    {around : Option Context} {ws : List (Work τ)} {a : Option Abort} {l : List τ} :
    Course around (.observe (fun installed => report (Policy.currentDecision p installed)) :: ws) a l ↔
      ∃ l', l = report (Policy.decision p (around.getD {})) :: l' ∧ Course around ws a l' := by
  constructor
  · intro h
    cases h with
    | read h => exact ⟨_, rfl, h⟩
  · rintro ⟨l', rfl, h⟩
    exact .read h

namespace Registry

variable {answers : Url → Except RetrievalError Bytes} {web : Retriever σ} {r : Registry}
  {st st' after : TrustState σ} {instant instant' : Instant} {now : Seconds} {q : Request} {ctx : Context}

theorem run_serve (h : Stable web answers r st) (h' : Stable web answers r st')
    (hr : r.validate web now instant q st = .ok (ctx, after)) (body : List (Work τ)) (log : List τ) :
    (∃ a l, Course (some ctx) body a l ∧
        Task.run (r.serve web now instant' q st' body) ⟨none, log⟩ = (a, ⟨none, log ++ l⟩)) ∨
      Task.run (r.serve web now instant' q st' body) ⟨none, log⟩ = (some .instantOverflow, ⟨none, log⟩) ∧
        ∃ c ∈ r.candidates q, r.Overruns web instant' st' c := by
  unfold serve
  cases hr' : r.validate web now instant' q st' with
  | error a =>
    obtain ⟨rfl, ho⟩ := (validateAll_settled_error (h'.settled instant')).1 hr'
    exact .inr ⟨rfl, ho⟩
  | ok x =>
    obtain ⟨ctx', after'⟩ := x
    cases validate_again h h' hr hr'
    obtain ⟨a, l, hbody⟩ : ∃ a l, Course (some ctx) body a l := ⟨_, Task.course_runAll body (some ctx) log⟩
    have hrun := hbody.runAll_eq log
    refine .inl ⟨a, l, hbody, ?_⟩
    simp only [Task.run, Option.isSome_none, Bool.false_eq_true, if_false, hrun]

/-- Tasks go by their courses: within a scope its context is seen, and nothing else; a scope within a scope
is refused, and its body is not done; a spawned task sees no context; and afterwards the task has
installed what it had before, however the work ended. Wherever a policy is evaluated, the decision is the
one for the context around it, or for the empty one. And what is done for a request, at whatever other
time, has around it the context that the request is validated to, unless it does not begin. -/
theorem serve_scopes (h : Stable web answers r st) (h' : Stable web answers r st') (now : Seconds)
    (instant instant' : Instant) (q : Request) :
    (∀ (ws : List (Work τ)) (t u : Task τ) (a : Option Abort), Task.runAll ws t = (a, u) ↔
      ∃ l, Course t.installed ws a l ∧ u = ⟨t.installed, t.log ++ l⟩) ∧
    (∀ (report : Except Denial Unit → τ) (p : Option Policy) (around : Option Context)
      (ws : List (Work τ)) (a : Option Abort) (l : List τ),
      Course around (.observe (fun installed => report (Policy.currentDecision p installed)) :: ws) a l ↔
        ∃ l', l = report (Policy.decision p (around.getD {})) :: l' ∧ Course around ws a l') ∧
    ∀ ctx after, r.validate web now instant q st = .ok (ctx, after) → ∀ (body : List (Work τ)) (log : List τ),
      (∃ a l, Course (some ctx) body a l ∧
          Task.run (r.serve web now instant' q st' body) ⟨none, log⟩ = (a, ⟨none, log ++ l⟩)) ∨
        Task.run (r.serve web now instant' q st' body) ⟨none, log⟩ =
            (some .instantOverflow, ⟨none, log⟩) ∧
          ∃ c ∈ r.candidates q, r.Overruns web instant' st' c :=
  ⟨fun _ _ _ _ => Task.runAll_eq_iff, fun _ _ _ _ _ _ => Course.evaluated_iff,
    fun _ _ hr body log => run_serve h h' hr body log⟩

end Registry

namespace Sample

def inquiries : List (Work (Except Denial Unit)) :=
  let ask := .observe (Policy.currentDecision (some .anyToken))
  [ask, .spawn [ask], .guard [.scope {} [ask]] fun _ => .error .misconfigured,
    ask, .raise (.raised "gone")]

theorem registry_stable :
    Stable (.constant (.ok document)) (fun _ => .ok document) registry ⟨[], ()⟩ :=
  ⟨fun _ _ => rfl, fun _ _ => nofun⟩

theorem serve_scopes_nested :
    Task.run (registry.serve (.constant (.ok document)) 0 0 request ⟨[], ()⟩ inquiries) {} =
      (some (.raised "gone"),
        ⟨none, [.ok (), .error (.tokenMissing []), .error .misconfigured, .ok ()]⟩) := by
  obtain ⟨-, -, hserve⟩ := Registry.serve_scopes registry_stable registry_stable 0 0 0 request
  rcases hserve _ _ registry_validate inquiries [] with ⟨a, l, hcourse, hrun⟩ | ⟨-, c, hc, ho⟩
  · have hbody := hcourse.runAll_eq []
    cases hbody
    exact hrun
  · exact absurd ho (Registry.not_overruns_of_ok (registry_stable.settled 0) registry_validate c hc)

end Sample
end BearerTrust

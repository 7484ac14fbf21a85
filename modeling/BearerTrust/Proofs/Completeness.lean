import BearerTrust.Proofs.RequestEdits
import BearerTrust.Proofs.Soundness
import Mathlib.Data.List.Induction

namespace BearerTrust

open KeySource (Constant Current Kept)

variable {σ : Type} {answers : Url → Except RetrievalError Bytes}

namespace Context

def ofKept (es : List (String × Token)) : Context := es.foldl (fun ctx e => ctx.insert e.1 e.2) {}

theorem ofKept_concat (es : List (String × Token)) (e : String × Token) :
    ofKept (es ++ [e]) = (ofKept es).insert e.1 e.2 := by
  rw [ofKept, List.foldl_append]
  rfl

theorem issuers_insert (n : String) (t : Token) (ctx : Context) :
    (ctx.insert n t).issuers = if n ∈ ctx.issuers then ctx.issuers else ctx.issuers ++ [n] :=
  Table.keys_put n t ctx.tokens

theorem issuers_ofKept (es : List (String × Token)) :
    (ofKept es).issuers = (es.map Prod.fst).eraseDups := by
  induction es using List.reverseRecOn with
  | nil => rfl
  | append_singleton es e ih =>
    rw [ofKept_concat, issuers_insert, ih, List.map_append, List.eraseDups_append]
    simp only [List.mem_eraseDups]
    by_cases he : e.1 ∈ es.map Prod.fst
    · have hnone : (List.map Prod.fst [e]).removeAll (es.map Prod.fst) = [] := by
        simpa [List.removeAll] using he
      rw [if_pos he, hnone, List.eraseDups_nil, List.append_nil]
    · have hnew : (List.map Prod.fst [e]).removeAll (es.map Prod.fst) = [e.1] := by
        simpa [List.removeAll] using he
      rw [if_neg he, hnew]
      rfl

theorem token?_ofKept (es : List (String × Token)) (n : String) :
    (ofKept es).token? n = ((es.filter fun e => e.1 = n).getLast?).map Prod.snd := by
  induction es using List.reverseRecOn with
  | nil => rfl
  | append_singleton es e ih =>
    rw [ofKept_concat, List.filter_append]
    by_cases he : e.1 = n
    · subst he
      rw [token?_insert_self]
      simp
    · rw [token?_insert_of_ne (Ne.symm he), ih]
      simp [he]

end Context

/-- Over places that always answer alike, nothing is stored but their answers, and nothing that makes
a difference to what was stored at first. -/
structure Settled (web : Retriever σ) (answers : Url → Except RetrievalError Bytes) (r : Registry)
    (instant : Instant) (first st : TrustState σ) : Prop where
  firstWeb : web.Steady answers first.web
  web : web.Steady answers st.web
  current : ∀ i ∈ r.issuers, Current (answers i.jwksUrl) (st.keys i.shortName).stored
  kept : ∀ i ∈ r.issuers,
    Kept i.validator.keys instant (first.keys i.shortName).stored (st.keys i.shortName).stored

theorem Settled.withKeys {web : Retriever σ} {r : Registry} {instant : Instant}
    {first st : TrustState σ} (h : Settled web answers r instant first st) {i : TrustedIssuer}
    (hi : i ∈ r.issuers) {k : KeyState σ} (hk : Constant web answers i.validator.keys k)
    (hkept : Kept i.validator.keys instant (st.keys i.shortName).stored k.stored) :
    Settled web answers r instant first (st.withKeys i.shortName k) := by
  have hcurrent := Registry.forall_stored_withKeys
    (Q := fun j stored => Current (answers j.jwksUrl) stored) hi hk.current h.current
  have hkept' : Kept i.validator.keys instant (first.keys i.shortName).stored k.stored :=
    (h.kept i hi).trans hkept
  exact ⟨h.firstWeb, hk.web, hcurrent, Registry.forall_stored_withKeys
    (Q := fun j stored => Kept j.validator.keys instant (first.keys j.shortName).stored stored)
    hi hkept' h.kept⟩

namespace Registry

variable {web : Retriever σ} {r : Registry} {now : Seconds} {instant : Instant} {c : Candidate}
  {first st st' : TrustState σ}

theorem overruns_settled (h : Settled web answers r instant first st) (c : Candidate) :
    r.Overruns web instant st c ↔ r.Overruns web instant first c := by
  have hiff (i : TrustedIssuer) (d : Compact) (hn : r.byShortName? c.shortName = some i) :
      KeySource.Overruns i.validator.keys (KeySource.readAnswer (web.retrieve i.jwksUrl st.web).1)
          d.header.keyId d.header.algorithm instant (st.keys c.shortName).stored ↔
        KeySource.Overruns i.validator.keys (KeySource.readAnswer (web.retrieve i.jwksUrl first.web).1)
          d.header.keyId d.header.algorithm instant (first.keys c.shortName).stored := by
    obtain ⟨hi, hname⟩ := mem_of_byShortName? hn
    rw [(h.web i.jwksUrl).answer, (h.firstWeb i.jwksUrl).answer, ← hname]
    exact (h.kept i hi).overruns_iff
  constructor
  · rintro ⟨i, d, hn, hd, ho⟩
    exact ⟨i, d, hn, hd, (hiff i d hn).1 ho⟩
  · rintro ⟨i, d, hn, hd, ho⟩
    exact ⟨i, d, hn, hd, (hiff i d hn).2 ho⟩

def verdict (r : Registry) (answers : Url → Except RetrievalError Bytes) (now : Seconds)
    (c : Candidate) : Option (Except TokenError Token) :=
  (r.byShortName? c.shortName).map fun i =>
    match Validator.parse c.token with
    | .error e => .error e
    | .ok d => i.validator.conclude now c.token d
        ((KeySource.readAnswer (answers i.jwksUrl)).map (·.choose d.header.keyId d.header.algorithm))

theorem validateCandidate_settled (h : Settled web answers r instant first st)
    {o : Option (Except TokenError Token)}
    (hc : r.validateCandidate web now instant c st = .ok (o, st')) :
    o = r.verdict answers now c ∧ Settled web answers r instant first st' := by
  cases hn : r.byShortName? c.shortName with
  | none =>
    rw [validateCandidate_unknown hn] at hc
    cases hc
    rw [verdict, hn]
    exact ⟨rfl, h⟩
  | some i =>
    obtain ⟨hi, hname⟩ := mem_of_byShortName? hn
    have hst : Constant web answers i.validator.keys (st.keys i.shortName) :=
      ⟨h.web, h.current i hi⟩
    rw [validateCandidate_known hn] at hc
    obtain ⟨⟨result, k⟩, hv, hc⟩ := map_eq_ok_iff.1 hc
    cases hc
    rw [verdict, hn, Option.map_some]
    rw [← hname] at hv ⊢
    cases hd : Validator.parse c.token with
    | error e =>
      rw [Validator.validate_of_parse_error hd] at hv
      cases hv
      exact ⟨rfl, h.withKeys hi hst (.inl rfl)⟩
    | ok d =>
      rw [Validator.validate_of_parse hd] at hv
      obtain ⟨⟨found, k'⟩, hk, hv⟩ := map_eq_ok_iff.1 hv
      cases hv
      obtain ⟨rfl, hconstant, hkept⟩ := KeySource.verificationKey_steady hst hk
      exact ⟨rfl, h.withKeys hi hconstant hkept⟩

theorem validateAll_settled (h : Settled web answers r instant first st) {cs : List Candidate}
    {ctx ctx' : Context} (hr : r.validateAll web now instant cs ctx st = .ok (ctx', st')) :
    ctx' = cs.foldl (fun ctx c => keep ctx c (r.verdict answers now c)) ctx := by
  induction cs generalizing ctx st with
  | nil => cases hr; rfl
  | cons c cs ih =>
    rw [validateAll_cons] at hr
    obtain ⟨⟨o, st₁⟩, hc, hr⟩ := bind_eq_ok_iff.1 hr
    obtain ⟨rfl, h₁⟩ := validateCandidate_settled h hc
    exact ih h₁ hr

theorem validateAll_settled_error (h : Settled web answers r instant first st)
    {cs : List Candidate} {ctx : Context} {a : Abort} :
    r.validateAll web now instant cs ctx st = .error a ↔
      a = .instantOverflow ∧ ∃ c ∈ cs, r.Overruns web instant first c := by
  induction cs generalizing ctx st with
  | nil => exact iff_of_false nofun fun ⟨_, c, hc, _⟩ => nomatch hc
  | cons c cs ih =>
    rw [validateAll_cons, bind_eq_error_iff, validateCandidate_eq_error_iff, overruns_settled h]
    constructor
    · rintro (⟨rfl, ho⟩ | ⟨⟨o, st₁⟩, hc, hr⟩)
      · exact ⟨rfl, c, List.mem_cons_self, ho⟩
      · obtain ⟨rfl, d, hd, ho⟩ := (ih (validateCandidate_settled h hc).2).1 hr
        exact ⟨rfl, d, List.mem_cons_of_mem _ hd, ho⟩
    · rintro ⟨rfl, d, hd, ho⟩
      cases hc : r.validateCandidate web now instant c st with
      | error a =>
        obtain ⟨-, hoc⟩ := validateCandidate_eq_error_iff.1 hc
        exact .inl ⟨rfl, (overruns_settled h c).1 hoc⟩
      | ok x =>
        obtain ⟨o, st₁⟩ := x
        rcases List.mem_cons.1 hd with rfl | hd
        · exact .inl ⟨rfl, ho⟩
        · exact .inr ⟨_, rfl, (ih (validateCandidate_settled h hc).2).2 ⟨rfl, d, hd, ho⟩⟩

def accepted? (web : Retriever σ) (r : Registry) (now : Seconds) (instant : Instant)
    (st : TrustState σ) (c : Candidate) : Option Token :=
  match r.validateCandidate web now instant c st with
  | .ok (some (.ok t), _) => some t
  | _ => none

/-- Whether a candidate is anything but dropped. -/
def counts (web : Retriever σ) (r : Registry) (now : Seconds) (instant : Instant)
    (st : TrustState σ) (c : Candidate) : Bool :=
  match r.validateCandidate web now instant c st with
  | .ok (none, _) | .ok (some (.error _), _) => false
  | _ => true

def passing (web : Retriever σ) (r : Registry) (now : Seconds) (instant : Instant)
    (st : TrustState σ) (cs : List Candidate) : List (String × Token) :=
  cs.filterMap fun c => (r.accepted? web now instant st c).map fun t => (c.shortName, t)

theorem foldl_keep (h : Settled web answers r instant st st) {cs : List Candidate}
    (ho : ∀ c ∈ cs, ¬r.Overruns web instant st c) (ctx : Context) :
    cs.foldl (fun ctx c => keep ctx c (r.verdict answers now c)) ctx =
      (r.passing web now instant st cs).foldl (fun ctx e => ctx.insert e.1 e.2) ctx := by
  induction cs generalizing ctx with
  | nil => rfl
  | cons c cs ih =>
    obtain ⟨hoc, hocs⟩ := List.forall_mem_cons.1 ho
    rw [List.foldl_cons, ih hocs, passing, passing, List.filterMap_cons, accepted?]
    cases hc : r.validateCandidate web now instant c st with
    | error a => exact absurd (validateCandidate_eq_error_iff.1 hc).2 hoc
    | ok x =>
      obtain ⟨o, st'⟩ := x
      obtain ⟨rfl, -⟩ := validateCandidate_settled h hc
      match r.verdict answers now c with
      | none => rfl
      | some (.error e) => rfl
      | some (.ok t) => rfl

theorem not_overruns_of_ok (h : Settled web answers r instant st st) {cs : List Candidate}
    {x : Context × TrustState σ} (hr : r.validateAll web now instant cs {} st = .ok x) :
    ∀ c ∈ cs, ¬r.Overruns web instant st c := by
  intro c hc ho
  have herror : r.validateAll web now instant cs {} st = .error .instantOverflow :=
    (validateAll_settled_error h).2 ⟨rfl, c, hc, ho⟩
  rw [hr] at herror
  cases herror

theorem validateAll_eq_ok (h : Settled web answers r instant st st) {cs : List Candidate}
    {ctx : Context} (hr : r.validateAll web now instant cs {} st = .ok (ctx, st')) :
    ctx = .ofKept (r.passing web now instant st cs) := by
  rw [validateAll_settled h hr]
  exact foldl_keep h (not_overruns_of_ok h hr) {}

theorem counts_of_overruns (ho : r.Overruns web instant st c) :
    r.counts web now instant st c = true := by
  have hc : r.validateCandidate web now instant c st = .error .instantOverflow :=
    validateCandidate_eq_error_iff.2 ⟨rfl, ho⟩
  rw [counts, hc]

theorem passing_filter (cs : List Candidate) :
    r.passing web now instant st (cs.filter (r.counts web now instant st)) =
      r.passing web now instant st cs := by
  rw [passing, passing, List.filterMap_filter]
  refine List.filterMap_congr fun c _ => ?_
  unfold counts accepted?
  split <;> simp_all

theorem validateAll_filter (h : Settled web answers r instant st st) (cs : List Candidate) :
    (r.validateAll web now instant (cs.filter (r.counts web now instant st)) {} st).map Prod.fst =
      (r.validateAll web now instant cs {} st).map Prod.fst := by
  have hoverruns : (∃ c ∈ cs.filter (r.counts web now instant st), r.Overruns web instant st c) ↔
      ∃ c ∈ cs, r.Overruns web instant st c := by
    constructor
    · rintro ⟨c, hc, ho⟩
      exact ⟨c, List.mem_of_mem_filter hc, ho⟩
    · rintro ⟨c, hc, ho⟩
      exact ⟨c, List.mem_filter.2 ⟨hc, counts_of_overruns ho⟩, ho⟩
  cases hr : r.validateAll web now instant cs {} st with
  | error a =>
    rw [validateAll_settled_error h, ← hoverruns, ← validateAll_settled_error h] at hr
    rw [hr]
  | ok x =>
    cases hr' : r.validateAll web now instant (cs.filter (r.counts web now instant st)) {} st with
    | error a =>
      rw [validateAll_settled_error h, hoverruns, ← validateAll_settled_error h, hr] at hr'
      cases hr'
    | ok y =>
      change Except.ok y.1 = Except.ok x.1
      rw [validateAll_eq_ok h hr, validateAll_eq_ok h hr', passing_filter]

end Registry

/-- The places of keys have always given the same answers and always will. -/
structure Unchanging (web : Retriever σ) (answers : Url → Except RetrievalError Bytes)
    (st : TrustState (σ × Exchanges)) : Prop where
  past : ∀ e ∈ st.web.2, e.2 = answers e.1
  future : web.Steady answers st.web.1

theorem Unchanging.settled {web : Retriever σ} {r : Registry} {st : TrustState (σ × Exchanges)}
    (h : Unchanging web answers st) (hst : Reached web r st) (instant : Instant) :
    Settled web answers r instant st.unrecorded st.unrecorded := by
  refine ⟨h.future, h.future, fun i hi c hc => ?_, fun i _ => .inl rfl⟩
  obtain ⟨body, hmem, hparse⟩ := hst.sourced i hi c hc
  have hanswer : answers i.jwksUrl = .ok body := (h.past _ hmem).symm
  rw [hanswer]
  simp only [KeySource.readAnswer, hparse]

/-- From now on the places of keys always give the same answers, and what is stored is what they give. -/
structure Stable (web : Retriever σ) (answers : Url → Except RetrievalError Bytes) (r : Registry)
    (st : TrustState σ) : Prop where
  web : web.Steady answers st.web
  current : ∀ i ∈ r.issuers, Current (answers i.jwksUrl) (st.keys i.shortName).stored

theorem Stable.settled {web : Retriever σ} {r : Registry} {st : TrustState σ}
    (h : Stable web answers r st) (instant : Instant) : Settled web answers r instant st st :=
  ⟨h.web, h.web, h.current, fun _ _ => .inl rfl⟩

/-- A request is validated to the same context again, whatever has been stored or dropped meanwhile. -/
theorem Registry.validate_again {web : Retriever σ} {r : Registry} {now : Seconds}
    {instant instant' : Instant} {q : Request} {st st' after after' : TrustState σ} {ctx ctx' : Context}
    (h : Stable web answers r st) (h' : Stable web answers r st')
    (hr : r.validate web now instant q st = .ok (ctx, after))
    (hr' : r.validate web now instant' q st' = .ok (ctx', after')) : ctx = ctx' :=
  (validateAll_settled (h.settled instant) hr).trans
    (validateAll_settled (h'.settled instant') hr').symm

/-- Over places that always give the same answers, either a candidate makes its issuer store a set
that would expire past the clock's range, and then there is no context; or the context holds the
issuers with an accepted candidate, in the order of their first ones, each with its last one. Either
way, credentials that carry no token or whose tokens are refused can be added and taken away. -/
theorem Registry.validate_complete {web : Retriever σ} {r : Registry}
    {st : TrustState (σ × Exchanges)} (hst : Reached web r st) (hweb : Unchanging web answers st)
    (now : Seconds) (instant : Instant) :
    (∀ q, (r.validate web now instant q st.unrecorded = .error .instantOverflow ∧
        ∃ c ∈ r.candidates q, r.Overruns web instant st.unrecorded c) ∨
      ((∀ c ∈ r.candidates q, ¬r.Overruns web instant st.unrecorded c) ∧ ∃ ctx st',
        r.validate web now instant q st.unrecorded = .ok (ctx, st') ∧
        ctx.issuers = ((r.passing web now instant st.unrecorded (r.candidates q)).map
          Prod.fst).eraseDups ∧
        ∀ n, ctx.token? n = (((r.passing web now instant st.unrecorded (r.candidates q)).filter
          fun e => e.1 = n).getLast?).map Prod.snd)) ∧
    ∀ q q', Relation.EqvGen (r.Adds (r.counts web now instant st.unrecorded)) q q' →
      (r.validate web now instant q st.unrecorded).map Prod.fst =
        (r.validate web now instant q' st.unrecorded).map Prod.fst := by
  have h := hweb.settled hst instant
  refine ⟨fun q => ?_, fun q q' hq => ?_⟩
  · cases hr : r.validate web now instant q st.unrecorded with
    | error a =>
      obtain ⟨rfl, ho⟩ := (validateAll_settled_error h).1 hr
      exact .inl ⟨rfl, ho⟩
    | ok x =>
      obtain ⟨ctx, st'⟩ := x
      refine .inr ⟨not_overruns_of_ok h hr, ctx, st', rfl, ?_⟩
      rw [validateAll_eq_ok h hr]
      exact ⟨Context.issuers_ofKept _, Context.token?_ofKept _⟩
  · have hcandidates := candidates_filter hq
    calc (r.validate web now instant q st.unrecorded).map Prod.fst
        = (r.validateAll web now instant ((r.candidates q).filter
            (r.counts web now instant st.unrecorded)) {} st.unrecorded).map Prod.fst :=
          (validateAll_filter h _).symm
      _ = (r.validate web now instant q' st.unrecorded).map Prod.fst := by
          rw [hcandidates]
          exact validateAll_filter h _

namespace Sample

theorem validate_complete_cookie :
    Reached (.constant (.ok document)) registry ⟨[], ((), [])⟩ ∧
      Unchanging (.constant (.ok document)) (fun _ => .ok document) ⟨[], ((), [])⟩ ∧
      ∀ q, Relation.EqvGen (registry.Adds
          (registry.counts (.constant (.ok document)) 0 0 ⟨[], ()⟩)) request q →
        (registry.validate (.constant (.ok document)) 0 0 q ⟨[], ()⟩).map Prod.fst =
          .ok ⟨[("a", token)]⟩ := by
  have hreached : Reached (.constant (.ok document)) registry ⟨[], ((), [])⟩ := .built ()
  have hunchanging : Unchanging (.constant (.ok document)) (fun _ => .ok document) ⟨[], ((), [])⟩ :=
    ⟨List.forall_mem_nil _, fun _ _ => rfl⟩
  refine ⟨hreached, hunchanging, fun q hq => ?_⟩
  have hsame := (Registry.validate_complete hreached hunchanging 0 0).2 request q hq
  exact hsame.symm.trans (congrArg (Except.map Prod.fst) registry_validate)

def otherPlace : Url := { scheme := "http", path := .segments [""] }

def hoarder : TrustedIssuer where
  shortName := "b"
  settings :=
    { discoveryUrl := otherPlace, cookieName := some "t", validation := .legacy ["iss"],
      jwksCache := some { lifespanSecs := 0xffffffffffffffff } }
  metadata := ⟨"b", otherPlace, none⟩

def hoarders : Registry := ⟨[hoarder, issuer], by decide, by decide⟩

theorem hoarders_candidates :
    hoarders.candidates request = [⟨"b", token.encoded⟩, ⟨"a", token.encoded⟩] := by
  rw [Registry.candidates, request_header, hoarders, List.flatMap_cons, List.flatMap_singleton,
    ofCookies_request rfl, ofCookies_request rfl]
  rfl

theorem hoarders_validate :
    hoarders.validate (.constant (.ok document)) 0 0 request ⟨[], ()⟩ = .error .instantOverflow := by
  have hoverruns : hoarders.Overruns (.constant (.ok document)) 0 ⟨[], ()⟩ ⟨"b", token.encoded⟩ :=
    ⟨hoarder, compact, rfl, token_parse, _, _, rfl, by decide, readAnswer_ok document_keys, nofun⟩
  exact Registry.validateAll_eq_error_iff.2
    ⟨rfl, [], _, _, _, _, hoarders_candidates, rfl, hoverruns⟩

/-- A token that is accepted gets no context when the candidate before it overruns. -/
theorem accepted_without_context :
    (⟨"a", token.encoded⟩ : Candidate) ∈ hoarders.candidates request ∧
      hoarders.accepted? (.constant (.ok document)) 0 0 ⟨[], ()⟩ ⟨"a", token.encoded⟩ = some token ∧
      hoarders.validate (.constant (.ok document)) 0 0 request ⟨[], ()⟩ =
        .error .instantOverflow := by
  refine ⟨?_, ?_, hoarders_validate⟩
  · rw [hoarders_candidates]
    exact List.mem_cons_of_mem _ (List.mem_singleton_self _)
  · rw [Registry.accepted?, validateCandidate_issuer rfl]

end Sample
end BearerTrust

import BearerTrust.Proofs.Steps
import BearerTrust.Registry.Index
import Mathlib.Data.List.Nodup

namespace BearerTrust

variable {σ : Type}

def Locates (places : List (String × Nat)) (names : List String) : Prop :=
  ∀ n p, Table.get? n places = some p ↔ names[p]? = some n

namespace Locates

variable {places : List (String × Nat)} {names : List String} {n : String}

theorem nil : Locates [] [] := fun _ _ => by simp [Table.get?]

theorem nodup (h : Locates places names) : names.Nodup := by
  rw [List.nodup_iff_getElem?_ne_getElem?]
  intro p q hpq hq heq
  have hname : names[q]? = some names[q] := List.getElem?_eq_getElem hq
  have hp := (h names[q] p).2 (heq.trans hname)
  have hq := (h names[q] q).2 hname
  rw [hp] at hq
  exact Nat.ne_of_lt hpq (Option.some.inj hq)

theorem get?_eq_none_iff (h : Locates places names) : Table.get? n places = none ↔ n ∉ names := by
  rw [List.mem_iff_getElem?, Option.eq_none_iff_forall_not_mem]
  exact ⟨fun hn ⟨p, hp⟩ => hn p ((h n p).2 hp), fun hn p hp => hn ⟨p, (h n p).1 hp⟩⟩

theorem isSome_iff (h : Locates places names) : (Table.get? n places).isSome = true ↔ n ∈ names := by
  rw [Option.isSome_iff_ne_none, ne_eq, h.get?_eq_none_iff, not_not]

theorem put (h : Locates places names) (hn : n ∉ names) :
    Locates (Table.put n names.length places) (names ++ [n]) := by
  intro m p
  rw [Table.get?_put, List.getElem?_append]
  by_cases hp : p < names.length
  · rw [if_pos hp, ← h m p]
    split
    · next hm =>
      rw [hm, h.get?_eq_none_iff.2 hn]
      simpa using Nat.ne_of_gt hp
    · rfl
  · -- Past the old row there is only the new place.
    rw [if_neg hp]
    split
    · next hm =>
      subst hm
      rw [Option.some_inj, List.getElem?_singleton]
      by_cases hlast : p = names.length
      · simp [hlast]
      · have hbeyond : p - names.length ≠ 0 := by omega
        simp [hbeyond, Ne.symm hlast]
    · next hm =>
      refine iff_of_false ?_ ?_
      · intro hget
        obtain ⟨hlt, -⟩ := List.getElem?_eq_some_iff.1 ((h m p).1 hget)
        exact hp hlt
      · intro hlast
        exact hm (List.mem_singleton.1 (List.mem_of_getElem? hlast))

end Locates

theorem find?_eq_some_iff {name : TrustedIssuer → String} {is : List TrustedIssuer}
    (h : (is.map name).Nodup) {n : String} {i : TrustedIssuer} :
    is.find? (fun j => name j = n) = some i ↔ i ∈ is ∧ name i = n := by
  constructor
  · intro hi
    exact ⟨List.mem_of_find?_eq_some hi, by simpa using List.find?_some hi⟩
  · rintro ⟨hi, rfl⟩
    cases hj : is.find? fun j => name j = name i with
    | none =>
      have hne := List.find?_eq_none.1 hj i hi
      simp at hne
    | some j =>
      have hname : name j = name i := by simpa using List.find?_some hj
      rw [List.inj_on_of_nodup_map h (List.mem_of_find?_eq_some hj) hi hname]

inductive Joins (is : List TrustedIssuer) (i : TrustedIssuer) :
    Except RegistryError TrustedIssuer → Prop
  | admitted (hn : i.shortName ∉ is.map TrustedIssuer.shortName)
      (hi : i.identifier ∉ is.map TrustedIssuer.identifier) : Joins is i (.ok i)
  | nameTaken (hn : i.shortName ∈ is.map TrustedIssuer.shortName) :
      Joins is i (.error (.duplicateShortName i.shortName))
  | identifierTaken (hn : i.shortName ∉ is.map TrustedIssuer.shortName)
      (hi : i.identifier ∈ is.map TrustedIssuer.identifier) :
      Joins is i (.error (.duplicateIssuer i.identifier))

theorem Joins.error_iff {is : List TrustedIssuer} {i : TrustedIssuer}
    {o : Except RegistryError TrustedIssuer} (h : Joins is i o) :
    (∃ e, o = .error e) ↔
      i.shortName ∈ is.map TrustedIssuer.shortName ∨ i.identifier ∈ is.map TrustedIssuer.identifier := by
  cases h with
  | admitted hn hi => simp [hn, hi]
  | nameTaken hn => simp [hn]
  | identifierTaken hn hi => simp [hi]

theorem Registry.byShortName?_isSome_iff {r : Registry} {n : String} :
    (r.byShortName? n).isSome = true ↔ n ∈ r.issuers.map TrustedIssuer.shortName := by
  simp [Registry.byShortName?, List.mem_map]

namespace IndexedRegistry

variable {x : IndexedRegistry} {r : Registry} {i : TrustedIssuer}

structure Keeps (x : IndexedRegistry) (r : Registry) : Prop where
  issuers : x.issuers = r.issuers
  shortNames : Locates x.shortNames (r.issuers.map TrustedIssuer.shortName)
  identifiers : Locates x.identifiers (r.issuers.map TrustedIssuer.identifier)

theorem keeps_empty : ({} : IndexedRegistry).Keeps .empty := ⟨rfl, .nil, .nil⟩

theorem find?_eq {name : TrustedIssuer → String} {places : List (String × Nat)}
    (h : Locates places (x.issuers.map name)) (n : String) :
    x.find? places n = .ok (x.issuers.find? fun i => name i = n) := by
  unfold find?
  split
  · next hnone =>
    have hnew := h.get?_eq_none_iff.1 hnone
    have hsearch : (x.issuers.find? fun i => name i = n) = none := by
      rw [List.find?_eq_none]
      intro i hi hname
      exact hnew (of_decide_eq_true hname ▸ List.mem_map_of_mem hi)
    rw [hsearch]
  · next p hp =>
    have hplace := (h n p).1 hp
    rw [List.getElem?_map, Option.map_eq_some_iff] at hplace
    obtain ⟨i, hi, hname⟩ := hplace
    have hsearch := (find?_eq_some_iff h.nodup).2 ⟨List.mem_of_getElem? hi, hname⟩
    rw [issuerAt, hi, hsearch]
    rfl

namespace Keeps

theorem byShortName? (h : x.Keeps r) (n : String) : x.byShortName? n = .ok (r.byShortName? n) := by
  have hfind := find?_eq (x := x) (h.issuers ▸ h.shortNames) n
  rw [h.issuers] at hfind
  exact hfind

theorem byIssuer? (h : x.Keeps r) (n : String) : x.byIssuer? n = .ok (r.byIssuer? n) := by
  have hfind := find?_eq (x := x) (h.issuers ▸ h.identifiers) n
  rw [h.issuers] at hfind
  exact hfind

theorem lookup? (h : x.Keeps r) (k : String) : x.lookup? k = .ok (r.lookup? k) := by
  unfold IndexedRegistry.lookup? Registry.lookup?
  rw [h.byShortName?, h.byIssuer?]
  cases r.byShortName? k with
  | none => rfl
  | some i => rfl

theorem taken_iff (h : x.Keeps r) {n : String} :
    (Table.get? n x.shortNames).isSome = true ↔ n ∈ r.issuers.map TrustedIssuer.shortName :=
  h.shortNames.isSome_iff

theorem append (h : x.Keeps r) {r' : Registry} (hadd : r.add i = .ok r') : (x.append i).Keeps r' := by
  unfold Registry.add at hadd
  split at hadd
  · cases hadd
  · next hn =>
    split at hadd
    · cases hadd
    · next hi =>
      cases hadd
      have hlength : x.issuers.length = r.issuers.length := congrArg List.length h.issuers
      have hshort := h.shortNames.put hn
      have hident := h.identifiers.put hi
      rw [List.length_map, ← hlength] at hshort hident
      refine ⟨congrArg (· ++ [i]) h.issuers, ?_, ?_⟩
      · rw [List.map_append]
        exact hshort
      · rw [List.map_append]
        exact hident

theorem add (h : x.Keeps r) (i : TrustedIssuer) :
    (∃ r', r.add i = .ok r' ∧ x.add i = .ok (.ok i, x.append i) ∧ Joins x.issuers i (.ok i)) ∨
      ∃ e, r.add i = .error e ∧ x.add i = .ok (.error e, x) ∧ Joins x.issuers i (.error e) := by
  have hident : (Table.get? i.identifier x.identifiers).isSome = true ↔
      i.identifier ∈ r.issuers.map TrustedIssuer.identifier := h.identifiers.isSome_iff
  unfold Registry.add IndexedRegistry.add
  rw [h.issuers]
  by_cases hn : i.shortName ∈ r.issuers.map TrustedIssuer.shortName
  · rw [dif_pos hn, if_pos (h.taken_iff.2 hn)]
    exact .inr ⟨_, rfl, rfl, .nameTaken hn⟩
  · rw [dif_neg hn, if_neg (mt h.taken_iff.1 hn)]
    by_cases hi : i.identifier ∈ r.issuers.map TrustedIssuer.identifier
    · rw [dif_pos hi, if_pos (hident.2 hi)]
      exact .inr ⟨_, rfl, rfl, .identifierTaken hn hi⟩
    · rw [dif_neg hi, if_neg (mt hident.1 hi)]
      have hlast : (x.append i).issuerAt r.issuers.length = .ok i := by
        simp [issuerAt, IndexedRegistry.append, h.issuers]
      rw [hlast]
      exact .inl ⟨_, rfl, rfl, .admitted hn hi⟩

end Keeps
end IndexedRegistry

namespace Enrolment

inductive Ends (is : List TrustedIssuer) (w : σ) :
    Enrolment σ → Except RegistryError TrustedIssuer → σ → Prop
  | added {i : TrustedIssuer} {o} (h : Joins is i o) : Ends is w (.add i) o w
  | nameTaken {resolve} {n : String} {s : IssuerSettings}
      (hn : n ∈ is.map TrustedIssuer.shortName) :
      Ends is w (.register resolve n s) (.error (.duplicateShortName n)) w
  | unresolved {resolve} {n : String} {s : IssuerSettings} {e : MetadataError} {w' : σ}
      (hn : n ∉ is.map TrustedIssuer.shortName) (h : resolve s.discoveryUrl w = (.error e, w')) :
      Ends is w (.register resolve n s) (.error (.metadataUnavailable n e)) w'
  | resolved {resolve} {n : String} {s : IssuerSettings} {m : IssuerMetadata} {w' : σ} {o}
      (hn : n ∉ is.map TrustedIssuer.shortName) (h : resolve s.discoveryUrl w = (.ok m, w'))
      (hjoin : Joins is (.ofMetadata n s m) o) : Ends is w (.register resolve n s) o w'

def shortName : Enrolment σ → String
  | .add i => i.shortName
  | .register _ n _ => n

def issuer? (w : σ) : Enrolment σ → Option TrustedIssuer
  | .add i => some i
  | .register resolve n s => (resolve s.discoveryUrl w).1.toOption.map (.ofMetadata n s)

end Enrolment

/-- Why a call cannot succeed: its short name is taken, its metadata cannot be found out, or its
identifier is taken. -/
def Enrolment.Barred (is : List TrustedIssuer) (w : σ) (c : Enrolment σ) : Prop :=
  c.shortName ∈ is.map TrustedIssuer.shortName ∨ c.issuer? w = none ∨
    ∃ i, c.issuer? w = some i ∧ i.identifier ∈ is.map TrustedIssuer.identifier

theorem Enrolment.Ends.error_iff {is : List TrustedIssuer} {w w' : σ} {c : Enrolment σ}
    {o : Except RegistryError TrustedIssuer} (h : c.Ends is w o w') :
    (∃ e, o = .error e) ↔ c.Barred is w := by
  unfold Barred
  cases h with
  | added h => simpa [shortName, issuer?] using h.error_iff
  | nameTaken hn => simp [shortName, hn]
  | unresolved hn h => simp [issuer?, h, Except.toOption]
  | resolved hn h hjoin =>
    simpa [shortName, issuer?, h, Except.toOption, TrustedIssuer.ofMetadata] using hjoin.error_iff

namespace IndexedRegistry

variable {x x' y : IndexedRegistry} {r : Registry} {w w' : σ} {c : Enrolment σ}
  {o : Except RegistryError TrustedIssuer}

/-- What a call does to the registry: the issuer joins at the end if the call succeeds, and nothing is
touched if it fails. -/
structure Enrols (x : IndexedRegistry) (w : σ) (c : Enrolment σ)
    (o : Except RegistryError TrustedIssuer) (x' : IndexedRegistry) (w' : σ) : Prop where
  ends : c.Ends x.issuers w o w'
  error_iff : (∃ e, o = .error e) ↔ c.Barred x.issuers w
  issuers : x'.issuers = x.issuers ++ o.toOption.toList
  unchanged : ∀ e, o = .error e → x' = x

theorem Enrols.of_ends (h : c.Ends x.issuers w o w')
    (hrow : x'.issuers = x.issuers ++ o.toOption.toList) (hsame : ∀ e, o = .error e → x' = x) :
    x.Enrols w c o x' w' :=
  ⟨h, h.error_iff, hrow, hsame⟩

/-- Every lookup ends, and finds the only issuer that it can mean. -/
structure Answers (x : IndexedRegistry) : Prop where
  byShortName : ∀ n, ∃ found, x.byShortName? n = .ok found ∧
    ∀ i, found = some i ↔ i ∈ x.issuers ∧ i.shortName = n
  byIssuer : ∀ n, ∃ found, x.byIssuer? n = .ok found ∧
    ∀ i, found = some i ↔ i ∈ x.issuers ∧ i.identifier = n
  lookup : ∀ k, ∃ found, x.lookup? k = .ok found ∧
    ∀ i, found = some i ↔
      i ∈ x.issuers ∧ (i.shortName = k ∨ i.identifier = k ∧ ∀ j ∈ x.issuers, j.shortName ≠ k)

namespace Keeps

theorem answers (h : x.Keeps r) : x.Answers where
  byShortName n := ⟨_, h.byShortName? n, fun i => h.issuers ▸ find?_eq_some_iff r.nodup_shortName⟩
  byIssuer n := ⟨_, h.byIssuer? n, fun i => h.issuers ▸ find?_eq_some_iff r.nodup_identifier⟩
  lookup k := by
    have hshort (i) : r.byShortName? k = some i ↔ i ∈ r.issuers ∧ i.shortName = k :=
      find?_eq_some_iff r.nodup_shortName
    have hident (i) : r.byIssuer? k = some i ↔ i ∈ r.issuers ∧ i.identifier = k :=
      find?_eq_some_iff r.nodup_identifier
    refine ⟨_, h.lookup? k, fun i => ?_⟩
    rw [h.issuers]
    unfold Registry.lookup?
    cases hk : r.byShortName? k with
    | some j =>
      obtain ⟨hj, hname⟩ := (hshort j).1 hk
      constructor
      · intro heq
        cases heq
        exact ⟨hj, .inl hname⟩
      · rintro ⟨hi, hik | ⟨-, hno⟩⟩
        · exact hk.symm.trans ((hshort i).2 ⟨hi, hik⟩)
        · exact absurd hname (hno j hj)
    | none =>
      have hno (j) (hj : j ∈ r.issuers) : j.shortName ≠ k := by
        intro hjk
        have hfound := (hshort j).2 ⟨hj, hjk⟩
        rw [hk] at hfound
        cases hfound
      constructor
      · intro heq
        obtain ⟨hi, hik⟩ := (hident i).1 heq
        exact ⟨hi, .inr ⟨hik, hno⟩⟩
      · rintro ⟨hi, hik | ⟨hik, -⟩⟩
        · exact absurd hik (hno i hi)
        · exact (hident i).2 ⟨hi, hik⟩

theorem add_enrols (h : x.Keeps r) (i : TrustedIssuer) :
    ∃ o x' r', x.add i = .ok (o, x') ∧ x'.Keeps r' ∧ Joins x.issuers i o ∧
      x'.issuers = x.issuers ++ o.toOption.toList ∧ ∀ e, o = .error e → x' = x := by
  rcases h.add i with ⟨r', hr, hx, hjoin⟩ | ⟨e, -, hx, hjoin⟩
  · exact ⟨_, _, r', hx, h.append hr, hjoin, rfl, fun _ he => nomatch he⟩
  · exact ⟨_, _, r, hx, h, hjoin, (List.append_nil _).symm, fun _ _ => rfl⟩

theorem enrol (h : x.Keeps r) (w : σ) (c : Enrolment σ) :
    ∃ o x' w' r', x.enrol w c = .ok (o, x', w') ∧ x'.Keeps r' ∧ x.Enrols w c o x' w' := by
  cases c with
  | add i =>
    obtain ⟨o, x', r', hx, hr, hjoin, hrow, hsame⟩ := h.add_enrols i
    refine ⟨o, x', w, r', ?_, hr, .of_ends (.added hjoin) hrow hsame⟩
    simp only [IndexedRegistry.enrol, hx]
    rfl
  | register resolve n s =>
    simp only [IndexedRegistry.enrol, IndexedRegistry.register]
    by_cases hn : n ∈ r.issuers.map TrustedIssuer.shortName
    · rw [if_pos (h.taken_iff.2 hn)]
      exact ⟨_, _, _, r, rfl, h,
        .of_ends (.nameTaken (h.issuers ▸ hn)) (List.append_nil _).symm fun _ _ => rfl⟩
    · -- The short name is free when the metadata are asked for; the identifier comes with them.
      rw [if_neg (mt h.taken_iff.1 hn)]
      rw [← h.issuers] at hn
      rcases hres : resolve s.discoveryUrl w with ⟨e | m, w'⟩
      · exact ⟨_, _, _, r, rfl, h,
          .of_ends (.unresolved hn hres) (List.append_nil _).symm fun _ _ => rfl⟩
      · obtain ⟨o, x', r', hx, hr, hjoin, hrow, hsame⟩ := h.add_enrols (.ofMetadata n s m)
        refine ⟨o, x', w', r', ?_, hr, .of_ends (.resolved hn hres hjoin) hrow hsame⟩
        simp only [hx]
        rfl

/-- Looking an issuer's metadata up on the web, both kinds of registry end in the same way. -/
theorem register_discover {web : Retriever σ} (h : x.Keeps r) (n : String) (s : IssuerSettings) (w : σ) :
    ∃ o x' w', x.register (discover web) n s w = .ok (o, x', w') ∧
      ((∃ i r', o = .ok i ∧ r.register web n s w = (.ok r', w') ∧ x'.Keeps r') ∨
        ∃ e, o = .error e ∧ x' = x ∧ r.register web n s w = (.error e, w')) := by
  unfold IndexedRegistry.register Registry.register
  by_cases hn : n ∈ r.issuers.map TrustedIssuer.shortName
  · rw [if_pos (h.taken_iff.2 hn), if_pos (Registry.byShortName?_isSome_iff.2 hn)]
    exact ⟨_, _, _, rfl, .inr ⟨_, rfl, rfl, rfl⟩⟩
  · rw [if_neg (mt h.taken_iff.1 hn), if_neg (mt Registry.byShortName?_isSome_iff.1 hn)]
    rcases discover web s.discoveryUrl w with ⟨e | m, w'⟩
    · exact ⟨_, _, _, rfl, .inr ⟨_, rfl, rfl, rfl⟩⟩
    · rcases h.add (.ofMetadata n s m) with ⟨r', hr, hx, -⟩ | ⟨e, hr, hx, -⟩
      · simp only [hr, hx]
        exact ⟨_, _, _, rfl, .inl ⟨_, r', rfl, rfl, h.append hr⟩⟩
      · simp only [hr, hx]
        exact ⟨_, _, _, rfl, .inr ⟨e, rfl, rfl, rfl⟩⟩

end Keeps

theorem enrolAll_append {before after : List (Enrolment σ)} {x y z : IndexedRegistry} {w w₁ w₂ : σ}
    {os os' : List (Except RegistryError TrustedIssuer)} (h : enrolAll before x w = .ok (os, y, w₁))
    (h' : enrolAll after y w₁ = .ok (os', z, w₂)) :
    enrolAll (before ++ after) x w = .ok (os ++ os', z, w₂) := by
  induction before generalizing x w os with
  | nil =>
    cases h
    exact h'
  | cons c before ih =>
    obtain ⟨⟨o, x', w'⟩, hc, h⟩ := bind_eq_ok_iff.1 h
    obtain ⟨⟨rest, y', w₁'⟩, hrest, h⟩ := bind_eq_ok_iff.1 h
    cases h
    simp only [List.cons_append, enrolAll, hc, ih hrest, bind, Except.bind]

theorem Keeps.enrolAll {x : IndexedRegistry} {r : Registry} (h : x.Keeps r) (cs : List (Enrolment σ))
    (w : σ) : ∃ os x' w' r', IndexedRegistry.enrolAll cs x w = .ok (os, x', w') ∧ x'.Keeps r' ∧
      x'.issuers = x.issuers ++ os.filterMap Except.toOption := by
  induction cs generalizing x r w with
  | nil => exact ⟨[], x, w, r, rfl, h, (List.append_nil _).symm⟩
  | cons c cs ih =>
    obtain ⟨o, y, w₁, r₁, hc, hy, henrols⟩ := h.enrol w c
    obtain ⟨os, x', w', r', hcs, hx', hrow⟩ := ih hy w₁
    refine ⟨o :: os, x', w', r', ?_, hx', ?_⟩
    · simp only [IndexedRegistry.enrolAll, hc, bind, Except.bind, hcs]
    · rw [hrow, henrols.issuers, List.append_assoc]
      cases o <;> rfl

/-- The registry after any calls, made one after another on an empty one: the calls all end; the issuers
are those of the calls that succeeded, in order, with names of their own; every lookup finds what it can
mean; and each call on the way did what the rules say, on what the calls before it had left. -/
theorem enrolAll_exact (cs : List (Enrolment σ)) (w : σ) :
    ∃ os x w', enrolAll cs {} w = .ok (os, x, w') ∧
      x.issuers = os.filterMap Except.toOption ∧
      (x.issuers.map TrustedIssuer.shortName).Nodup ∧
      (x.issuers.map TrustedIssuer.identifier).Nodup ∧ x.Answers ∧
      ∀ before c after, cs = before ++ c :: after →
        ∃ os₁ y w₁ o y' w₂ os₂, enrolAll before {} w = .ok (os₁, y, w₁) ∧
          y.enrol w₁ c = .ok (o, y', w₂) ∧ y.Enrols w₁ c o y' w₂ ∧ os = os₁ ++ o :: os₂ := by
  obtain ⟨os, x, w', r, hrun, hx, hrow⟩ := keeps_empty.enrolAll cs w
  refine ⟨os, x, w', hrun, hrow, hx.issuers ▸ r.nodup_shortName, hx.issuers ▸ r.nodup_identifier,
    hx.answers, ?_⟩
  rintro before c after rfl
  obtain ⟨os₁, y, w₁, r₁, hbefore, hy, -⟩ := keeps_empty.enrolAll before w
  obtain ⟨o, y', w₂, r₂, hc, hy', henrols⟩ := hy.enrol w₁ c
  obtain ⟨os₂, z, w₃, -, hafter, -⟩ := hy'.enrolAll after w₂
  have hrest : enrolAll (c :: after) y w₁ = .ok (o :: os₂, z, w₃) := by
    simp only [enrolAll, hc, hafter, bind, Except.bind]
  have hsplit := hrun.symm.trans (enrolAll_append hbefore hrest)
  cases hsplit
  exact ⟨os₁, y, w₁, o, y', w₂, os₂, hbefore, hc, henrols, rfl⟩

end IndexedRegistry
end BearerTrust

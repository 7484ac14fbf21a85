namespace BearerTrust

variable {ε α β γ δ : Type}

theorem bind_eq_ok_iff {x : Except ε α} {f : α → Except ε β} {b : β} :
    x >>= f = .ok b ↔ ∃ a, x = .ok a ∧ f a = .ok b := by
  cases x with
  | error e => simp [bind, Except.bind]
  | ok a => simp [bind, Except.bind]

theorem bind_eq_error_iff {x : Except ε α} {f : α → Except ε β} {e : ε} :
    x >>= f = .error e ↔ x = .error e ∨ ∃ a, x = .ok a ∧ f a = .error e := by
  cases x with
  | error e => simp [bind, Except.bind]
  | ok a => simp [bind, Except.bind]

theorem map_eq_ok_iff {x : Except ε α} {f : α → β} {b : β} :
    x.map f = .ok b ↔ ∃ a, x = .ok a ∧ f a = b := by
  cases x with
  | error e => simp [Except.map]
  | ok a => simp [Except.map]

theorem map_eq_error_iff {x : Except ε α} {f : α → β} {e : ε} :
    x.map f = .error e ↔ x = .error e := by
  cases x with
  | error e => simp [Except.map]
  | ok a => simp [Except.map]

/-- Demands are looked at in turn. The first that is not met makes the error. -/
inductive InTurn (Met : δ → Prop) (error : δ → ε) : List δ → Except ε α → Prop
  | done (a : α) : InTurn Met error [] (.ok a)
  | unmet {d : δ} {ds : List δ} : ¬Met d → InTurn Met error (d :: ds) (.error (error d))
  | met {d : δ} {ds : List δ} {r : Except ε α} : Met d → InTurn Met error ds r → InTurn Met error (d :: ds) r

namespace InTurn

variable {Met : δ → Prop} {error : δ → ε} {ds es : List δ} {r : Except ε α}

theorem ok_iff (h : InTurn Met error ds r) : (∃ a, r = .ok a) ↔ ∀ d ∈ ds, Met d := by
  induction h with
  | done a => simp
  | unmet hd => simp [hd]
  | met hd _ ih => simp [hd, ih]

theorem error_iff (h : InTurn Met error ds r) (e : ε) :
    r = .error e ↔ ∃ before d after, ds = before ++ d :: after ∧
      (∀ b ∈ before, Met b) ∧ ¬Met d ∧ e = error d := by
  induction h with
  | done a => simp
  | @unmet d ds hd =>
    constructor
    · rintro ⟨⟩
      exact ⟨[], d, ds, rfl, List.forall_mem_nil _, hd, rfl⟩
    · rintro ⟨before, d', after, hds, hbefore, -, rfl⟩
      cases before with
      | nil =>
        obtain ⟨rfl, -⟩ := List.cons.inj hds
        rfl
      | cons b before =>
        obtain ⟨rfl, -⟩ := List.cons.inj hds
        exact absurd (hbefore d List.mem_cons_self) hd
  | @met d ds r hd _ ih =>
    rw [ih]
    constructor
    · rintro ⟨before, d', after, rfl, hbefore, hd', he⟩
      exact ⟨d :: before, d', after, rfl, List.forall_mem_cons.2 ⟨hd, hbefore⟩, hd', he⟩
    · rintro ⟨before, d', after, hds, hbefore, hd', he⟩
      cases before with
      | nil =>
        obtain ⟨rfl, -⟩ := List.cons.inj hds
        exact absurd hd hd'
      | cons b before =>
        obtain ⟨-, hds⟩ := List.cons.inj hds
        exact ⟨before, d', after, hds, (List.forall_mem_cons.1 hbefore).2, hd', he⟩

theorem single {d : δ} (hok : (∃ a, r = .ok a) ↔ Met d) (herror : ∀ e, r = .error e → e = error d) :
    InTurn Met error [d] r := by
  cases r with
  | ok a => exact .met (hok.1 ⟨a, rfl⟩) (.done a)
  | error e =>
    rw [herror e rfl]
    refine .unmet fun hd => ?_
    obtain ⟨a, ha⟩ := hok.2 hd
    cases ha

theorem bind {f : α → Except ε β} (h : InTurn Met error ds r)
    (hf : ∀ a, r = .ok a → InTurn Met error es (f a)) : InTurn Met error (ds ++ es) (r >>= f) := by
  induction h with
  | done a => exact hf a rfl
  | unmet hd => exact .unmet hd
  | met hd _ ih => exact .met hd (ih hf)

end InTurn

/-- Two courses fail with the same error, or both succeed with results that `S` relates. -/
inductive Lockstep (S : α → β → Prop) : Except ε α → Except ε β → Prop
  | error (e : ε) : Lockstep S (.error e) (.error e)
  | ok {a : α} {b : β} : S a b → Lockstep S (.ok a) (.ok b)

namespace Lockstep

variable {S : α → β → Prop} {T : γ → δ → Prop} {x : Except ε α} {y : Except ε β}

theorem bind {f : α → Except ε γ} {g : β → Except ε δ} (h : Lockstep S x y)
    (hfg : ∀ a b, S a b → Lockstep T (f a) (g b)) : Lockstep T (x >>= f) (y >>= g) := by
  cases h with
  | error e => exact .error e
  | ok hab => exact hfg _ _ hab

theorem left {a : α} (h : Lockstep S x y) (hx : x = .ok a) : ∃ b, y = .ok b ∧ S a b := by
  subst hx
  cases h with
  | ok hab => exact ⟨_, rfl, hab⟩

theorem left_error {e : ε} (h : Lockstep S x y) (hx : x = .error e) : y = .error e := by
  subst hx
  cases h with
  | error => rfl

theorem map_left {f : α → γ} {U : γ → β → Prop} (h : Lockstep S x y)
    (hf : ∀ a b, S a b → U (f a) b) : Lockstep U (x.map f) y := by
  cases h with
  | error e => exact .error e
  | ok hab => exact .ok (hf _ _ hab)

end Lockstep
end BearerTrust

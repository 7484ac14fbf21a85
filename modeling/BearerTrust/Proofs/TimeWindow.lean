import BearerTrust.Proofs.ClaimDecision

namespace BearerTrust

/-- The end of a life, if it has one, lies ahead, give or take the tolerance. -/
def LiesAhead (t : Option Seconds) (now skew : Seconds) : Prop :=
  ∀ s, t = some s → now.toNat < s.toNat + skew.toNat

/-- A time, if there is one, has come, give or take the tolerance. -/
def HasCome (t : Option Seconds) (now skew : Seconds) : Prop :=
  ∀ s, t = some s → s.toNat ≤ now.toNat + skew.toNat

structure Claims.InWindow (c : Claims) (now skew : Seconds) : Prop where
  unexpired : LiesAhead c.expires now skew
  issued : HasCome c.issuedAt now skew
  begun : HasCome c.notBefore now skew

variable {c : Claims} {now skew : Seconds} {t : Option Seconds}

/-- The last second that 64 bits count is an upper bound of all times, and so of no sum that matters. -/
theorem hasCome_iff :
    (∀ s, t = some s → s.toNat ≤ min (now.toNat + skew.toNat) (2 ^ 64 - 1)) ↔ HasCome t now skew := by
  refine forall₂_congr fun s _ => ?_
  have hlast := s.toNat_lt
  omega

theorem liesAhead_iff :
    (∀ s, t = some s → now.toNat - skew.toNat < s.toNat) ↔ LiesAhead t now skew ∧ t ≠ some 0 := by
  constructor
  · intro h
    refine ⟨fun s hs => ?_, fun hzero => ?_⟩
    · have hlt := h s hs
      omega
    · exact Nat.not_lt_zero _ (h 0 hzero)
  · rintro ⟨h, hzero⟩ s hs
    have hahead := h s hs
    have hpos : s.toNat ≠ 0 := by
      rintro hs0
      rw [hs, UInt64.toNat_inj.1 (hs0.trans UInt64.toNat_zero.symm)] at hzero
      exact hzero rfl
    omega

theorem Claims.inTime_iff : c.InTime now skew ↔ c.InWindow now skew ∧ c.expires ≠ some 0 := by
  constructor
  · rintro ⟨hunexpired, hissued, hbegun⟩
    obtain ⟨hahead, hzero⟩ := liesAhead_iff.1 hunexpired
    exact ⟨⟨hahead, hasCome_iff.1 hissued, hasCome_iff.1 hbegun⟩, hzero⟩
  · rintro ⟨⟨hahead, hissued, hbegun⟩, hzero⟩
    exact ⟨liesAhead_iff.2 ⟨hahead, hzero⟩, hasCome_iff.2 hissued, hasCome_iff.2 hbegun⟩

theorem checkTimes_eq_ok_iff : checkTimes c now skew = .ok () ↔ c.InTime now skew := by
  rw [(checkTimes_decides skew).ok_iff, List.forall_mem_cons, List.forall_mem_cons, List.forall_mem_singleton]
  exact ⟨fun ⟨hunexpired, hissued, hbegun⟩ => ⟨hunexpired, hissued, hbegun⟩,
    fun ⟨hunexpired, hissued, hbegun⟩ => ⟨hunexpired, hissued, hbegun⟩⟩

theorem checkTimes_eq_error_iff {e : TokenError} : checkTimes c now skew = .error e ↔
    (¬(Demand.unexpired skew).Met c now ∧ e = .expired) ∨
    ((Demand.unexpired skew).Met c now ∧ ¬(Demand.issued skew).Met c now ∧ e = .notYetValid "iat") ∨
    ((Demand.unexpired skew).Met c now ∧ (Demand.issued skew).Met c now ∧
      ¬(Demand.begun skew).Met c now ∧ e = .notYetValid "nbf") := by
  have h : Decides c now [.unexpired skew, .issued skew, .begun skew] (checkTimes c now skew) :=
    checkTimes_decides skew
  generalize checkTimes c now skew = r at h ⊢
  cases h with
  | unmet hunexpired => simp [hunexpired, Demand.error, eq_comm]
  | met hunexpired h =>
    cases h with
    | unmet hissued => simp [hunexpired, hissued, Demand.error, eq_comm]
    | met hissued h =>
      cases h with
      | unmet hbegun => simp [hunexpired, hissued, hbegun, Demand.error, eq_comm]
      | met hbegun h =>
        cases h
        simp [hunexpired, hissued, hbegun]

/-- The times of claims are accepted exactly inside of the window, but for a life that ends at second zero,
which has ended even where the tolerance reaches back beyond it. Outside, the first time that is at fault is
reported. -/
theorem checkTimes_exact (c : Claims) (now skew : Seconds) :
    (checkTimes c now skew = .ok () ↔ c.InWindow now skew ∧ c.expires ≠ some 0) ∧
    (checkTimes c now skew = .error .expired ↔ ¬LiesAhead c.expires now skew ∨ c.expires = some 0) ∧
    (checkTimes c now skew = .error (.notYetValid "iat") ↔
      LiesAhead c.expires now skew ∧ c.expires ≠ some 0 ∧ ¬HasCome c.issuedAt now skew) ∧
    (checkTimes c now skew = .error (.notYetValid "nbf") ↔
      LiesAhead c.expires now skew ∧ c.expires ≠ some 0 ∧ HasCome c.issuedAt now skew ∧
        ¬HasCome c.notBefore now skew) := by
  have hunexpired : (Demand.unexpired skew).Met c now ↔
      LiesAhead c.expires now skew ∧ c.expires ≠ some 0 := liesAhead_iff
  have hissued : (Demand.issued skew).Met c now ↔ HasCome c.issuedAt now skew := hasCome_iff
  have hbegun : (Demand.begun skew).Met c now ↔ HasCome c.notBefore now skew := hasCome_iff
  refine ⟨checkTimes_eq_ok_iff.trans Claims.inTime_iff, ?_, ?_, ?_⟩
  · rw [checkTimes_eq_error_iff, hunexpired]
    simp [Classical.or_iff_not_imp_left]
  · rw [checkTimes_eq_error_iff, hunexpired, hissued]
    simp [and_assoc]
  · rw [checkTimes_eq_error_iff, hunexpired, hissued, hbegun]
    simp [and_assoc]

namespace Sample

def shortLived : Claims where
  issuer := none
  subject := none
  audience := []
  expires := some 0
  notBefore := none
  issuedAt := none
  all := [("exp", Json.nat 0)]

/-- Thirty seconds later a tolerance of sixty should cover the end. -/
theorem tolerance_ends_at_zero : Claims.ofMembers [("exp", Json.nat 0)] = .ok shortLived ∧
    ¬(checkTimes shortLived 30 60 = .ok () ↔ shortLived.InWindow 30 60) := by
  refine ⟨rfl, fun h => ?_⟩
  have hwindow : shortLived.InWindow 30 60 := by
    refine ⟨?_, nofun, nofun⟩
    rintro _ ⟨⟩
    decide
  cases h.2 hwindow

end Sample
end BearerTrust

import Mathlib.FieldTheory.Finite.Basic
import Mathlib.NumberTheory.LucasPrimality
import Mathlib.Tactic.NormNum.Prime
import BearerTrust.Crypto.Pem

namespace BearerTrust.Rsa

theorem powMod_eq {m b e bits : Nat} (h : e < 2 ^ bits) : powMod m b e bits = b ^ e % m := by
  -- One bit of the exponent less, for the square of the base.
  induction bits generalizing b e with
  | zero =>
    obtain rfl : e = 0 := by omega
    rfl
  | succ bits ih =>
    rw [powMod]
    split
    · next he =>
      subst he
      rfl
    · have hhalf : e / 2 < 2 ^ bits := by
        rw [Nat.pow_succ] at h
        omega
      have hsquare : (b * b % m) ^ (e / 2) % m = b ^ (2 * (e / 2)) % m := by
        rw [← Nat.pow_mod, Nat.pow_mul, Nat.pow_two]
      dsimp only
      rw [ih hhalf, hsquare]
      split
      · next hodd =>
        rw [Nat.mul_mod_mod, ← Nat.pow_succ']
        congr 2
        omega
      · congr 2
        omega

theorem power_eq (m b e : Nat) : power m b e = b ^ e % m := powMod_eq Nat.lt_log2_self

theorem pow_modEq {p k : Nat} (hp : p.Prime) (hpos : 0 < k) (hk : k ≡ 1 [MOD p - 1]) (x : Nat) :
    x ^ k ≡ x [MOD p] := by
  have : Fact p.Prime := ⟨hp⟩
  obtain ⟨j, hj⟩ := (Nat.modEq_iff_dvd' hpos).1 hk.symm
  obtain rfl : k = (p - 1) * j + 1 := by omega
  rw [← ZMod.natCast_eq_natCast_iff]
  push_cast
  by_cases hx : (x : ZMod p) = 0
  · rw [hx, zero_pow (Nat.succ_ne_zero _)]
  · rw [pow_succ, pow_mul, ZMod.pow_card_sub_one_eq_one hx, one_pow, one_mul]

theorem prime_of_power {p a : Nat} (hone : power p a (p - 1) = 1)
    (hroots : ∀ q, q.Prime → q ∣ p - 1 → power p a ((p - 1) / q) ≠ 1) (hp : 1 < p) : p.Prime := by
  have hcast (e : Nat) : (a : ZMod p) ^ e = 1 ↔ power p a e = 1 := by
    rw [power_eq, ← Nat.cast_pow, ← Nat.cast_one, ZMod.natCast_eq_natCast_iff, Nat.ModEq,
      Nat.mod_eq_of_lt hp]
  exact lucas_primality p a ((hcast _).2 hone) fun q hq hdvd h => hroots q hq hdvd ((hcast _).1 h)

theorem prime_of_odd_factor {f m a : Nat} (hf : f.Prime) (hone : power (f * 2 ^ m + 1) a (f * 2 ^ m) = 1)
    (htwo : power (f * 2 ^ m + 1) a (f * 2 ^ m / 2) ≠ 1)
    (hfactor : power (f * 2 ^ m + 1) a (f * 2 ^ m / f) ≠ 1) : (f * 2 ^ m + 1).Prime := by
  refine prime_of_power hone (fun q hq hdvd => ?_) ?_
  · rw [Nat.add_sub_cancel] at hdvd ⊢
    rcases hq.dvd_mul.1 hdvd with h | h
    · rw [(Nat.prime_dvd_prime_iff_eq hq hf).1 h]
      exact hfactor
    · rw [(Nat.prime_dvd_prime_iff_eq hq Nat.prime_two).1 (hq.dvd_of_dvd_pow h)]
      exact htwo
  · have : 0 < f * 2 ^ m := Nat.mul_pos hf.pos (Nat.pow_pos (by decide))
    omega

theorem foldl_number (bs : Bytes) (n : Nat) :
    bs.foldl (fun n b => n * 256 + b.toNat) n = n * 256 ^ bs.length + number bs := by
  induction bs generalizing n with
  | nil => simp [number]
  | cons b bs ih =>
    have hzero := ih b.toNat
    rw [number, List.foldl_cons, List.foldl_cons, ih, Nat.zero_mul, Nat.zero_add, hzero, List.length_cons,
      Nat.pow_succ]
    ring

theorem number_cons (b : UInt8) (bs : Bytes) : number (b :: bs) = b.toNat * 256 ^ bs.length + number bs := by
  rw [number, List.foldl_cons, Nat.zero_mul, Nat.zero_add, foldl_number]

theorem number_lt (bs : Bytes) : number bs < 256 ^ bs.length := by
  induction bs with
  | nil => decide
  | cons b bs ih =>
    have hb := b.toNat_lt
    rw [number_cons, List.length_cons, Nat.pow_succ]
    nlinarith

theorem length_bigEndian (size n : Nat) : (Sha256.bigEndian size n).length = size := by
  simp [Sha256.bigEndian]

theorem bigEndian_succ (size n : Nat) :
    Sha256.bigEndian (size + 1) n = (n / 256 ^ size).toUInt8 :: Sha256.bigEndian size n := by
  simp [Sha256.bigEndian, List.range_succ]

theorem number_bigEndian (size n : Nat) : number (Sha256.bigEndian size n) = n % 256 ^ size := by
  induction size with
  | zero => simp [Sha256.bigEndian, number, Nat.mod_one]
  | succ size ih =>
    have hfirst : (n / 256 ^ size).toUInt8.toNat = n / 256 ^ size % 256 := UInt8.toNat_ofNat'
    rw [bigEndian_succ, number_cons, length_bigEndian, ih, hfirst, Nat.pow_succ (n := 256),
      Nat.mod_mul, Nat.mul_comm, Nat.add_comm]

theorem octets_eq {n : Nat} (h : n ≠ 0) : octets n = n.log2 / 8 + 1 := if_neg h

theorem lt_octets (n : Nat) : n < 256 ^ octets n := by
  by_cases h : n = 0
  · subst h
    decide
  · have hlog : n < 2 ^ (n.log2 + 1) := Nat.lt_log2_self
    refine Nat.lt_of_lt_of_le hlog ?_
    rw [octets_eq h, show 256 = 2 ^ 8 from rfl, ← Nat.pow_mul]
    exact Nat.pow_le_pow_right (by decide) (by omega)

theorem octets_le {n : Nat} (h : n ≠ 0) : 256 ^ (octets n - 1) ≤ n := by
  refine Nat.le_trans ?_ (Nat.log2_self_le h)
  rw [octets_eq h, show 256 = 2 ^ 8 from rfl, ← Nat.pow_mul]
  exact Nat.pow_le_pow_right (by decide) (by omega)

theorem number_octets (n : Nat) : number (Sha256.bigEndian (octets n) n) = n := by
  rw [number_bigEndian, Nat.mod_eq_of_lt (lt_octets n)]

theorem isMinimal_octets {n : Nat} (h : n ≠ 0) : isMinimal (Sha256.bigEndian (octets n) n) = true := by
  have hsize : octets n = (octets n - 1) + 1 := by
    rw [octets_eq h]
    rfl
  have hlt := lt_octets n
  have hle := octets_le h
  rw [hsize] at hlt ⊢
  rw [bigEndian_succ, isMinimal, List.head?_cons, bne_iff_ne]
  rw [Nat.pow_succ] at hlt
  have hpos : 0 < n / 256 ^ (octets n - 1) := Nat.div_pos hle (Nat.pow_pos (by decide))
  have hsmall : n / 256 ^ (octets n - 1) < 256 := Nat.div_lt_of_lt_mul hlt
  intro hzero
  have htoNat := congrArg UInt8.toNat (Option.some.inj hzero)
  rw [Nat.toUInt8_eq, UInt8.toNat_ofNat', Nat.mod_eq_of_lt hsmall] at htoNat
  have : (0 : UInt8).toNat = 0 := rfl
  omega

theorem length_digest (message : Bytes) : (Sha256.digest message).length = 32 := by
  simp [Sha256.digest, Sha256.State.bytes, length_bigEndian]

theorem length_encoded {size : Nat} (h : 54 ≤ size) (message : Bytes) :
    (encoded size message).length = size := by
  have hmark : digestMark.length = 19 := rfl
  simp only [encoded, List.length_cons, List.length_append, List.length_replicate, hmark, length_digest]
  omega

theorem number_encoded_lt {size : Nat} (h : 54 ≤ size) (message : Bytes) :
    number (encoded size message) < 256 ^ (size - 1) := by
  obtain ⟨rest, hrest⟩ : ∃ rest, encoded size message = 0 :: 1 :: rest := ⟨_, rfl⟩
  have hlength := length_encoded h message
  rw [hrest, List.length_cons, List.length_cons] at hlength
  have hlt := number_lt rest
  have hsize : size - 1 = rest.length + 1 := by omega
  have hzero : (0 : UInt8).toNat = 0 := rfl
  have hone : (1 : UInt8).toNat = 1 := rfl
  rw [hrest, number_cons, number_cons, hzero, hone, hsize, Nat.pow_succ]
  omega

namespace PrivateKey

/-- A key that verifies what it signs. -/
def Sound (k : PrivateKey) : Prop := ∀ message, k.publicKey.verifies message (k.sign message) = true

/-- A key of a kind that can be configured, made from two primes. -/
structure Genuine (k : PrivateKey) (p q : Nat) : Prop where
  acceptable : Pem.isAcceptable k.modulus k.publicExponent p q = true
  left : p.Prime
  right : q.Prime
  distinct : p ≠ q
  inverse : k.publicExponent * k.privateExponent ≡ 1 [MOD (p - 1).lcm (q - 1)]
  positive : 0 < k.privateExponent

variable {k : PrivateKey} {p q : Nat}

theorem hasBitLength_iff {least most n : Nat} :
    hasBitLength least most n = true ↔ 2 ^ (least - 1) ≤ n ∧ n < 2 ^ most := by
  simp [hasBitLength]

theorem hasBitLength_mono {least most most' n : Nat} (hle : most ≤ most')
    (h : hasBitLength least most n = true) : hasBitLength least most' n = true := by
  rw [hasBitLength_iff] at h ⊢
  exact ⟨h.1, Nat.lt_of_lt_of_le h.2 (Nat.pow_le_pow_right (by decide) hle)⟩

theorem isAcceptable_iff {n e p q : Nat} : Pem.isAcceptable n e p q = true ↔
    hasBitLength 2048 4096 n = true ∧ e % 2 = 1 ∧ 65537 ≤ e ∧ e < 2 ^ 33 ∧ p * q = n ∧
      p.log2 = q.log2 := by
  simp only [Pem.isAcceptable, Bool.and_eq_true, decide_eq_true_eq, beq_iff_eq, and_assoc]

theorem Genuine.modulus_ne_zero (h : k.Genuine p q) : k.modulus ≠ 0 := by
  obtain ⟨-, -, -, -, hmodulus, -⟩ := isAcceptable_iff.1 h.acceptable
  rw [← hmodulus]
  exact Nat.mul_ne_zero h.left.ne_zero h.right.ne_zero

theorem Genuine.power_power (h : k.Genuine p q) {x : Nat} (hx : x < k.modulus) :
    power k.modulus (power k.modulus x k.privateExponent) k.publicExponent = x := by
  obtain ⟨-, -, he, -, hmodulus, -⟩ := isAcceptable_iff.1 h.acceptable
  have hpos : 0 < k.publicExponent * k.privateExponent := Nat.mul_pos (by omega) h.positive
  have hcoprime : p.Coprime q := (Nat.coprime_primes h.left h.right).2 h.distinct
  have hleft := pow_modEq h.left hpos (h.inverse.of_dvd (Nat.dvd_lcm_left _ _)) x
  have hright := pow_modEq h.right hpos (h.inverse.of_dvd (Nat.dvd_lcm_right _ _)) x
  have hboth : x ^ (k.publicExponent * k.privateExponent) ≡ x [MOD k.modulus] := by
    rw [← hmodulus]
    exact (Nat.modEq_and_modEq_iff_modEq_mul hcoprime).1 ⟨hleft, hright⟩
  rw [power_eq, power_eq, ← Nat.pow_mod, ← Nat.pow_mul, Nat.mul_comm]
  exact Eq.trans hboth (Nat.mod_eq_of_lt hx)

theorem Genuine.isUsable (h : k.Genuine p q) : k.publicKey.isUsable = true := by
  obtain ⟨hbits, hodd, hleast, hmost, -⟩ := isAcceptable_iff.1 h.acceptable
  have hlength : hasBitLength 2048 8192 k.modulus = true := hasBitLength_mono (by decide) hbits
  simp only [PublicKey.isUsable, publicKey, isMinimal_octets h.modulus_ne_zero,
    isMinimal_octets (n := k.publicExponent) (by omega), number_octets, hlength, hodd, Bool.true_and,
    Bool.and_eq_true, decide_eq_true_eq, beq_self_eq_true]
  exact ⟨by omega, hmost⟩

/-- Raising the padded digest to the private exponent is undone by whoever verifies. -/
theorem Genuine.sound (h : k.Genuine p q) : k.Sound := by
  intro message
  have hmodulus := h.modulus_ne_zero
  have hsize : 54 ≤ octets k.modulus := by
    have hlog : 2048 - 1 ≤ k.modulus.log2 :=
      (Nat.le_log2 hmodulus).2 (hasBitLength_iff.1 (isAcceptable_iff.1 h.acceptable).1).1
    rw [octets_eq hmodulus]
    omega
  have hdigest : number (encoded (octets k.modulus) message) < k.modulus :=
    Nat.lt_of_lt_of_le (number_encoded_lt hsize message) (octets_le hmodulus)
  have hlt : power k.modulus (number (encoded (octets k.modulus) message)) k.privateExponent <
      k.modulus := by
    rw [power_eq]
    exact Nat.mod_lt _ (Nat.pos_of_ne_zero hmodulus)
  have hsignature : number (k.sign message) =
      power k.modulus (number (encoded (octets k.modulus) message)) k.privateExponent := by
    rw [sign, number_bigEndian, Nat.mod_eq_of_lt (Nat.lt_trans hlt (lt_octets _))]
  have hlength : (k.sign message).length = k.publicKey.modulus.length := by
    rw [sign, publicKey, length_bigEndian, length_bigEndian]
  have hnumbers : number k.publicKey.modulus = k.modulus ∧
      number k.publicKey.exponent = k.publicExponent :=
    ⟨number_octets _, number_octets _⟩
  have hencoded : k.publicKey.modulus.length = octets k.modulus := length_bigEndian _ _
  simp only [PublicKey.verifies, h.isUsable, hlength, hnumbers, hsignature, hencoded, hlt,
    h.power_power hdigest, decide_true, beq_self_eq_true, Bool.and_self]

end PrivateKey
end BearerTrust.Rsa

namespace BearerTrust.Sample

open Rsa

def leftPrime : Nat := 3931 * 2 ^ 1012 + 1

def rightPrime : Nat := 7547 * 2 ^ 1011 + 1

def clientKey : PrivateKey where
  modulus := leftPrime * rightPrime
  publicExponent := 65537
  privateExponent := (33711 * (3931 * 7547 * 2 ^ 1012) + 1) / 65537

theorem leftPrime_prime : leftPrime.Prime := by
  unfold leftPrime
  exact prime_of_odd_factor (f := 3931) (m := 1012) (a := 3) (by norm_num) (by decide +kernel)
    (by decide +kernel) (by decide +kernel)

theorem rightPrime_prime : rightPrime.Prime := by
  unfold rightPrime
  exact prime_of_odd_factor (f := 7547) (m := 1011) (a := 3) (by norm_num) (by decide +kernel)
    (by decide +kernel) (by decide +kernel)

theorem clientKey_genuine : clientKey.Genuine leftPrime rightPrime where
  acceptable := by decide +kernel
  left := leftPrime_prime
  right := rightPrime_prime
  distinct := by decide +kernel
  inverse := by decide +kernel
  positive := by decide +kernel

end BearerTrust.Sample

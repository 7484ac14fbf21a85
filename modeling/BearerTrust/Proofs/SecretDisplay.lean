import BearerTrust.Client.Secret
import BearerTrust.Proofs.JsonLeaves
import Mathlib.Data.List.Basic

namespace BearerTrust

namespace Text

def octets : List Char → Nat
  | [] => 0
  | c :: cs => c.utf8Size + octets cs

@[simp] theorem octets_nil : octets [] = 0 := rfl

@[simp] theorem octets_cons (c : Char) (cs : List Char) : octets (c :: cs) = c.utf8Size + octets cs := rfl

theorem octets_append (cs ds : List Char) : octets (cs ++ ds) = octets cs + octets ds := by
  induction cs with
  | nil => simp
  | cons c cs ih => simp [ih, Nat.add_assoc]

theorem length_utf8 (s : String) : (utf8 s).length = octets s.toList := by
  have hs := utf8_ofList s.toList
  rw [String.ofList_toList] at hs
  rw [hs]
  induction s.toList with
  | nil => rfl
  | cons c cs ih => rw [List.flatMap_cons, List.length_append, String.length_utf8EncodeChar, ih, octets_cons]

theorem length_le_octets (cs : List Char) : cs.length ≤ octets cs := by
  induction cs with
  | nil => simp
  | cons c cs ih =>
    have hc := c.utf8Size_pos
    simp only [List.length_cons, octets_cons]
    omega

theorem octets_take_lt_iff {n : Nat} {cs : List Char} : octets (cs.take n) < octets cs ↔ n < cs.length := by
  induction cs generalizing n with
  | nil => simp
  | cons c cs ih =>
    cases n with
    | zero =>
      have hc := c.utf8Size_pos
      simp only [List.take_zero, octets_nil, octets_cons, List.length_cons]
      omega
    | succ n => simp [ih]

theorem charOffsets_getElem? (before i : Nat) (cs : List Char) :
    (charOffsets before cs)[i]? = cs[i]?.map fun c => (before + octets (cs.take i), c) := by
  induction cs generalizing before i with
  | nil => simp [charOffsets]
  | cons c cs ih =>
    cases i with
    | zero => simp [charOffsets]
    | succ i => simp [charOffsets, ih, Nat.add_assoc]

theorem utf8_append (s t : String) : utf8 (s ++ t) = utf8 s ++ utf8 t := by
  simp [utf8]

theorem ofUtf8?_eq_some_iff {bs : Bytes} {s : String} : ofUtf8? bs = some s ↔ bs = utf8 s := by
  constructor
  · intro h
    rw [ofUtf8?, String.fromUTF8?] at h
    split at h
    · obtain rfl := Option.some.inj h
      simp [utf8, String.fromUTF8]
    · cases h
  · rintro rfl
    exact ofUtf8?_utf8 s

theorem firstOctets?_eq_some_iff {count : Nat} {s start : String} :
    firstOctets? count s = some start ↔ (utf8 start).length = count ∧ ∃ rest, s = start ++ rest := by
  constructor
  · intro h
    rw [firstOctets?] at h
    split at h
    · next hcount =>
      have hstart := ofUtf8?_eq_some_iff.1 h
      have hextract : s.toByteArray.extract 0 count = start.toByteArray := by
        apply ByteArray.ext
        rw [ByteArray.data_extract, ← Array.toList_inj]
        simpa [utf8] using hstart
      have hvalid : String.Pos.Raw.IsValid s ⟨count⟩ := by
        rw [String.Pos.Raw.isValid_iff_isValidUTF8_extract_zero]
        refine ⟨hcount, ?_⟩
        change (s.toByteArray.extract 0 count).IsValidUTF8
        rw [hextract]
        exact start.isValidUTF8
      obtain ⟨front, rest, rfl, hend⟩ := String.Pos.Raw.isValid_iff_exists_append.1 hvalid
      have hlength : count = (utf8 front).length := congrArg String.Pos.Raw.byteIdx hend
      rw [utf8_append, hlength, List.take_left] at hstart
      rw [utf8_injective hstart] at hlength
      exact ⟨hlength.symm, rest, by rw [utf8_injective hstart]⟩
    · cases h
  · rintro ⟨rfl, rest, rfl⟩
    rw [firstOctets?, utf8_append, List.length_append, if_pos (Nat.le_add_right _ _), List.take_left,
      ofUtf8?_utf8]

end Text

def firstChars (n : Nat) (s : String) : String := String.ofList (s.toList.take n)

theorem length_firstChars (n : Nat) (s : String) : (firstChars n s).length = min n s.length := by
  rw [firstChars, String.length_ofList, List.length_take, String.length_toList]

theorem secretStart_eq_ok_iff {stop : Nat} {secret start : String} : secretStart stop secret = .ok start ↔
    (Text.utf8 start).length = stop ∧ ∃ rest, secret = start ++ rest := by
  rw [← Text.firstOctets?_eq_some_iff, secretStart]
  cases Text.firstOctets? stop secret <;> simp

theorem secretStart_take (n : Nat) (secret : String) :
    secretStart (Text.octets (secret.toList.take n)) secret = .ok (firstChars n secret) := by
  refine secretStart_eq_ok_iff.2 ⟨?_, String.ofList (secret.toList.drop n), ?_⟩
  · rw [Text.length_utf8, firstChars, String.toList_ofList]
  · rw [firstChars, ← String.ofList_append, List.take_append_drop, String.ofList_toList]

/-- What is written of a secret, by its characters. -/
theorem revealUpTo_eq (limit : Nat) (secret : String) : revealUpTo limit secret = .ok
    (if limit ≤ 1 then ["…"]
    else if secret.length < limit then [secret]
    else [firstChars (limit - 1) secret, "…"]) := by
  have hlength : secret.length = secret.toList.length := String.length_toList.symm
  have hoctets := Text.length_le_octets secret.toList
  simp only [revealUpTo, Text.length_utf8, Text.charOffsets_getElem?, Nat.zero_add]
  by_cases hlimit : limit ≤ 1
  · rw [if_pos hlimit, if_pos hlimit]
  rw [if_neg hlimit, if_neg hlimit]
  by_cases hfew : Text.octets secret.toList < limit
  · rw [if_pos hfew, if_pos (by omega)]
  rw [if_neg hfew]
  by_cases hat : limit - 2 < secret.toList.length
  · have hstop : Text.octets (secret.toList.take (limit - 2)) + secret.toList[limit - 2].utf8Size =
        Text.octets (secret.toList.take (limit - 1)) := by
      have hnext : limit - 1 = limit - 2 + 1 := by omega
      rw [hnext, List.take_succ_eq_append_getElem hat, Text.octets_append, Text.octets_cons, Text.octets_nil,
        Nat.add_zero]
    simp only [List.getElem?_eq_getElem hat, Option.map_some, hstop, Text.octets_take_lt_iff]
    by_cases hcut : limit - 1 < secret.toList.length
    · rw [if_pos hcut, if_neg (by omega), secretStart_take]
      rfl
    · rw [if_neg hcut, if_pos (by omega)]
  · simp only [List.getElem?_eq_none (Nat.le_of_not_lt hat), Option.map_none]
    rw [if_pos (by omega)]

theorem firstChars_ellipsis_eq_iff {n : Nat} {s : String} (h : n < s.length) :
    firstChars n s ++ "…" = s ↔ s.length = n + 1 ∧ s.toList.getLast? = some '…' := by
  have htext : (firstChars n s ++ "…").toList = s.toList.take n ++ ['…'] := by
    rw [String.toList_append, firstChars, String.toList_ofList]
    rfl
  rw [← String.toList_inj, htext]
  constructor
  · intro hs
    have hlength := congrArg List.length hs
    rw [List.length_append, List.length_take, String.length_toList, List.length_singleton] at hlength
    refine ⟨by omega, ?_⟩
    rw [← hs, List.getLast?_append]
    rfl
  · rintro ⟨hlength, hlast⟩
    have hinit : s.toList.dropLast = s.toList.take n := by
      rw [List.dropLast_eq_take, String.length_toList, hlength, Nat.add_sub_cancel]
    rw [← hinit]
    exact List.dropLast_append_getLast? _ hlast

/-- What may be written of a secret under a limit. What is written piece by piece tells a secret that is cut from
one that is whole; the text alone does not, where an ellipsis is all that is cut off. -/
structure Limited (limit : Nat) (secret : String) (written : List String) : Prop where
  either : written = [secret] ∨ String.join written = firstChars (limit - 1) secret ++ "…"
  length_le : (String.join written).length ≤ max limit 1
  least : limit ≤ 1 → written = ["…"]
  whole_iff : 2 ≤ limit → (written = [secret] ↔ secret.length < limit)
  looksWhole_iff : 2 ≤ limit → (String.join written = secret ↔
    secret.length < limit ∨ secret.length = limit ∧ secret.toList.getLast? = some '…')

theorem Limited.nothing {limit : Nat} (h : limit ≤ 1) (secret : String) : Limited limit secret ["…"] := by
  have hnone : firstChars (limit - 1) secret = "" := by
    rw [firstChars, Nat.sub_eq_zero_of_le h]
    rfl
  have hjoin : String.join ["…"] = "…" := rfl
  refine ⟨.inr ?_, ?_, fun _ => rfl, fun h' => absurd h (by omega), fun h' => absurd h (by omega)⟩
  · rw [hnone, hjoin]
    rfl
  · rw [hjoin]
    exact Nat.le_max_right _ _

theorem Limited.whole {limit : Nat} {secret : String} (hlimit : ¬limit ≤ 1) (h : secret.length < limit) :
    Limited limit secret [secret] := by
  have hjoin : String.join [secret] = secret := by simp [String.join]
  refine ⟨.inl rfl, ?_, fun h' => absurd h' hlimit, fun _ => iff_of_true rfl h,
    fun _ => iff_of_true hjoin (.inl h)⟩
  rw [hjoin]
  omega

theorem Limited.cut {limit : Nat} {secret : String} (hlimit : ¬limit ≤ 1) (h : ¬secret.length < limit) :
    Limited limit secret [firstChars (limit - 1) secret, "…"] := by
  have hjoin : String.join [firstChars (limit - 1) secret, "…"] = firstChars (limit - 1) secret ++ "…" := by
    simp [String.join]
  refine ⟨.inr hjoin, ?_, fun h' => absurd h' hlimit, fun _ => iff_of_false (by simp) h, fun _ => ?_⟩
  · have hellipsis : "…".length = 1 := by decide
    rw [hjoin, String.length_append, length_firstChars, hellipsis]
    omega
  · have hlooks := firstChars_ellipsis_eq_iff (n := limit - 1) (s := secret) (by omega)
    rw [Nat.sub_add_cancel (by omega)] at hlooks
    rw [hjoin, hlooks]
    exact (or_iff_right h).symm

theorem exists_limited (limit : Nat) (secret : String) :
    ∃ written, revealUpTo limit secret = .ok written ∧ Limited limit secret written := by
  refine ⟨_, revealUpTo_eq limit secret, ?_⟩
  split
  · next h => exact .nothing h secret
  · next hlimit =>
    split
    · next h => exact .whole hlimit h
    · next h => exact .cut hlimit h

theorem revealUpTo_congr {limit : Nat} {secret secret' : String} (h : limit ≤ secret.length)
    (h' : limit ≤ secret'.length) (hfirst : firstChars (limit - 1) secret = firstChars (limit - 1) secret') :
    revealUpTo limit secret = revealUpTo limit secret' := by
  rw [revealUpTo_eq, revealUpTo_eq, if_neg (Nat.not_lt.2 h), if_neg (Nat.not_lt.2 h'), hfirst]

/-- A secret that is revealed is always shown, as much of it as the width or else the form's own limit allows: no
place to cut it falls within a character. Of two secrets that are too long, only the first characters tell. A
secret that is hidden is not shown at all. -/
theorem SecretKind.show_limited (k : SecretKind) :
    (∀ style secret, style.isRevealing = true → ∃ written,
      revealUpTo (k.limit style) secret = .ok written ∧ Limited (k.limit style) secret written ∧
      k.show style secret = .ok (String.join (style.quote ++ written ++ style.quote))) ∧
    (∀ style secret secret', style.isRevealing = true →
      k.limit style ≤ secret.length → k.limit style ≤ secret'.length →
      firstChars (k.limit style - 1) secret = firstChars (k.limit style - 1) secret' →
      k.show style secret = k.show style secret') ∧
    ∀ style style' secret secret', style.isRevealing = false → style'.isRevealing = false →
      k.show style secret = .ok k.hiddenText ∧ k.show style secret = k.show style' secret' := by
  refine ⟨fun style secret hstyle => ?_, fun style secret secret' hstyle h h' hfirst => ?_,
    fun style style' secret secret' hstyle hstyle' => ?_⟩
  · obtain ⟨written, hwritten, hlimited⟩ := exists_limited (k.limit style) secret
    refine ⟨written, hwritten, hlimited, ?_⟩
    rw [SecretKind.show, if_pos hstyle, hwritten]
    rfl
  · rw [SecretKind.show, SecretKind.show, if_pos hstyle, if_pos hstyle, revealUpTo_congr h h' hfirst]
  · simp [SecretKind.show, hstyle, hstyle']

example : SecretKind.clientSecret.show ⟨true, true, some 3⟩ "é☃𝄞" = .ok "\"é☃…\"" := by rfl

end BearerTrust

import BearerTrust.Json.Printer
import BearerTrust.Json.Reader

namespace BearerTrust

namespace Text

theorem utf8_ofList (cs : List Char) : utf8 (String.ofList cs) = cs.flatMap String.utf8EncodeChar := by
  simp [utf8, List.utf8Encode]

theorem toNat_charOfNat {n : Nat} (h : n < 256) : (Char.ofNat n).toNat = n := by
  have hvalid : n.isValidChar := .inl (by omega)
  rw [Char.ofNat, dif_pos hvalid]
  rfl

theorem utf8EncodeChar_ascii {c : Char} (h : c.toNat < 128) :
    String.utf8EncodeChar c = [c.toNat.toUInt8] := by
  have hle : c.val.toNat ≤ 0x7f := Nat.le_of_lt_succ h
  simp only [String.utf8EncodeChar, if_pos hle]
  rfl

theorem utf8_ofList_ascii {cs : List Char} (h : ∀ c ∈ cs, c.toNat < 128) :
    utf8 (String.ofList cs) = cs.map fun c => c.toNat.toUInt8 := by
  rw [utf8_ofList]
  induction cs with
  | nil => rfl
  | cons c cs ih =>
    rw [List.flatMap_cons, utf8EncodeChar_ascii (h c List.mem_cons_self),
      ih fun d hd => h d (List.mem_cons_of_mem c hd)]
    rfl

end Text

namespace Json

inductive Escaped (b : UInt8) : Bytes → Prop
  | letter (e : UInt8) (hletter : Written.isEscapeLetter e = true) (hb : unescapeLetter e = b) :
      Escaped b [0x5c, e]
  | coded (h : b < 0x20) : Escaped b [0x5c, 0x75, 0x30, 0x30, hexDigit (b / 16), hexDigit (b % 16)]
  | plain (hquote : b ≠ 0x22) (hback : b ≠ 0x5c) (hcontrol : ¬b < 0x20) : Escaped b [b]

theorem escapeLetter?_eq_some {b e : UInt8} (h : escapeLetter? b = some e) :
    Written.isEscapeLetter e = true ∧ unescapeLetter e = b := by
  unfold escapeLetter? quoteByte backslash at h
  simp only [Bool.or_eq_true, decide_eq_true_eq] at h
  repeat' split at h
  all_goals grind [Written.isEscapeLetter, unescapeLetter]

theorem escapeLetter?_eq_none {b : UInt8} (h : escapeLetter? b = none) : b ≠ 0x22 ∧ b ≠ 0x5c := by
  constructor <;> rintro rfl <;> cases h

theorem escaped (b : UInt8) : Escaped b (escapeByte b) := by
  unfold escapeByte
  split
  · next e he =>
    obtain ⟨hletter, hb⟩ := escapeLetter?_eq_some he
    exact .letter e hletter hb
  · next hnone =>
    obtain ⟨hquote, hback⟩ := escapeLetter?_eq_none hnone
    split
    · next h => exact .coded h
    · next h => exact .plain hquote hback h

theorem hex_control : ∀ n < 32,
    Written.isHex (hexDigit (n.toUInt8 / 16)) ∧ Written.isHex (hexDigit (n.toUInt8 % 16)) ∧
      codeUnit 0x30 0x30 (hexDigit (n.toUInt8 / 16)) (hexDigit (n.toUInt8 % 16)) = n := by
  decide

theorem pushChar_ascii {n : Nat} (h : n < 128) (acc : Bytes) : pushChar n acc = n.toUInt8 :: acc := by
  have hn : (Char.ofNat n).toNat = n := Text.toNat_charOfNat (by omega)
  rw [pushChar, String.singleton_eq_ofList, Text.utf8_ofList_ascii, List.map_singleton, hn]
  · rfl
  · intro c hc
    rw [List.mem_singleton.1 hc, hn]
    exact h

section

variable {b : UInt8} {bs : Bytes}

theorem Escaped.scanString (h : Escaped b bs) (acc rest : Bytes) :
    Written.scanString acc .plain (bs ++ rest) = Written.scanString (bs.reverse ++ acc) .plain rest := by
  cases h with
  | letter e hletter hb =>
    have hu : e ≠ 0x75 := by
      rintro rfl
      cases hletter
    simp [Written.scanString, hletter, hu]
  | coded hcontrol =>
    obtain ⟨hhigh, hlow, -⟩ := hex_control b.toNat hcontrol
    rw [Nat.toUInt8_eq, UInt8.ofNat_toNat] at hhigh hlow
    have hzero : Written.isHex 0x30 = true := rfl
    simp [Written.scanString, hhigh, hlow, hzero]
  | plain hquote hback hcontrol => simp [Written.scanString, hquote, hback, hcontrol]

theorem Escaped.unescape (h : Escaped b bs) (acc rest : Bytes) :
    unescape acc (bs ++ rest) = Json.unescape (b :: acc) rest := by
  cases h with
  | letter e hletter hb =>
    have hu : e ≠ 0x75 := by
      rintro rfl
      cases hletter
    simp [Json.unescape, hu, hb]
  | coded hcontrol =>
    have hlt : b.toNat < 32 := hcontrol
    obtain ⟨-, -, hunit⟩ := hex_control b.toNat hlt
    rw [Nat.toUInt8_eq, UInt8.ofNat_toNat] at hunit
    have hlow : ¬0xdc00 ≤ b.toNat := by omega
    have hhigh : ¬0xd800 ≤ b.toNat := by omega
    simp [Json.unescape, hunit, hlow, hhigh, pushChar_ascii (Nat.lt_trans hlt (by decide))]
  | plain hquote hback hcontrol =>
    rw [List.singleton_append, Json.unescape.eq_def]
    exact if_pos hback

end

theorem escape_cons (b : UInt8) (bs : Bytes) : escape (b :: bs) = escapeByte b ++ escape bs :=
  List.flatMap_cons

theorem scanString_escape (acc bs rest : Bytes) :
    Written.scanString acc .plain (escape bs ++ quoteByte :: rest) =
      some (acc.reverse ++ escape bs, rest) := by
  induction bs generalizing acc with
  | nil => simp [escape, Written.scanString, quoteByte]
  | cons b bs ih =>
    rw [escape_cons, List.append_assoc, (escaped b).scanString, ih]
    simp

theorem unescape_escape (acc bs : Bytes) : unescape acc (escape bs) = some (acc.reverse ++ bs) := by
  induction bs generalizing acc with
  | nil => simp [escape, unescape]
  | cons b bs ih =>
    rw [escape_cons, (escaped b).unescape, ih]
    simp

theorem readString_escape (s : String) : readString (escape (Text.utf8 s)) = some s := by
  rw [readString, unescape_escape]
  exact Text.ofUtf8?_utf8 s

def Ends (rest : Bytes) : Prop := ∀ b r, rest = b :: r → b = 0x2c ∨ b = 0x5d ∨ b = 0x7d

theorem ends_nil : Ends [] := fun _ _ h => nomatch h

theorem ends_cons {b : UInt8} {r : Bytes} (h : b = 0x2c ∨ b = 0x5d ∨ b = 0x7d) : Ends (b :: r) := by
  rintro _ _ ⟨⟩
  exact h

def digits (n : Nat) : Bytes := (Nat.toDigits 10 n).map fun c => c.toNat.toUInt8

theorem toNat_of_isDigit {c : Char} (h : c.isDigit = true) : 48 ≤ c.toNat ∧ c.toNat ≤ 57 := by
  simp only [Char.isDigit, Bool.and_eq_true, decide_eq_true_eq] at h
  exact h

theorem isDigit_of_mem_toDigits {n : Nat} {c : Char} (h : c ∈ Nat.toDigits 10 n) :
    48 ≤ c.toNat ∧ c.toNat ≤ 57 :=
  toNat_of_isDigit (Nat.isDigit_of_mem_toDigits (by decide) (by decide) h)

theorem text_natural (n : UInt64) : Text.utf8 (Number.natural n).text = digits n.toNat := by
  rw [Number.text, Nat.repr_eq_ofList_toDigits, Text.utf8_ofList_ascii]
  · rfl
  · intro c hc
    have := isDigit_of_mem_toDigits hc
    omega

theorem digits_ne_nil (n : Nat) : digits n ≠ [] := by simp [digits]

theorem toNat_toUInt8_of_isDigit {c : Char} (h : 48 ≤ c.toNat ∧ c.toNat ≤ 57) :
    c.toNat.toUInt8.toNat = c.toNat := by
  rw [Nat.toUInt8_eq, UInt8.toNat_ofNat']
  omega

theorem isDigit_of_mem_digits {n : Nat} {b : UInt8} (h : b ∈ digits n) : Number.isDigit b = true := by
  obtain ⟨c, hc, rfl⟩ := List.mem_map.1 h
  have hdigit := isDigit_of_mem_toDigits hc
  have hn := toNat_toUInt8_of_isDigit hdigit
  simp only [Number.isDigit, Bool.and_eq_true, decide_eq_true_eq, UInt8.le_iff_toNat_le, hn]
  exact hdigit

theorem digit_of_isDigit {c : Char} (h : 48 ≤ c.toNat ∧ c.toNat ≤ 57) :
    Number.digit c.toNat.toUInt8 = c.toNat - 48 := by
  have hn := toNat_toUInt8_of_isDigit h
  rw [Number.digit, UInt8.toNat_sub_of_le, hn]
  · rfl
  · rw [UInt8.le_iff_toNat_le, hn]
    exact h.1

theorem ofDigits_digits (n : Nat) : Number.ofDigits (digits n) = n := by
  have hfold (cs : List Char) (hcs : ∀ c ∈ cs, 48 ≤ c.toNat ∧ c.toNat ≤ 57) (m : Nat) :
      (cs.map fun c => c.toNat.toUInt8).foldl (fun n b => n * 10 + Number.digit b) m =
        Nat.ofDigitChars 10 cs m := by
    induction cs generalizing m with
    | nil => rfl
    | cons c cs ih =>
      rw [List.map_cons, List.foldl_cons, digit_of_isDigit (hcs c List.mem_cons_self),
        ih fun d hd => hcs d (List.mem_cons_of_mem c hd), Nat.ofDigitChars_cons, Nat.mul_comm]
      rfl
  rw [Number.ofDigits, digits, hfold _ fun c hc => isDigit_of_mem_toDigits hc]
  exact Nat.ofDigitChars_ten_toDigits

theorem head?_digits {n : Nat} (h : 0 < n) : (digits n).head? ≠ some 0x30 := by
  induction n using Nat.strongRecOn with
  | ind n ih =>
    by_cases hn : n < 10
    · rw [digits, Nat.toDigits_of_lt_base hn]
      intro hhead
      have hzero : n.digitChar.toNat.toUInt8 = 0x30 := Option.some.inj hhead
      have := congrArg UInt8.toNat hzero
      rw [Nat.toNat_digitChar_of_lt_ten hn, Nat.toUInt8_eq, UInt8.toNat_ofNat'] at this
      have h48 : (0x30 : UInt8).toNat = 48 := rfl
      omega
    · obtain ⟨b, r, hb⟩ := List.exists_cons_of_ne_nil (digits_ne_nil (n / 10))
      have hshort : digits n = digits (n / 10) ++ [(n % 10).digitChar.toNat.toUInt8] := by
        rw [digits, Nat.toDigits_of_base_le (by decide) (Nat.not_lt.1 hn), List.map_append]
        rfl
      have hhead := ih (n / 10) (Nat.div_lt_self h (by decide)) (by omega)
      rw [hb] at hhead
      rw [hshort, hb]
      exact hhead

theorem takeWhile_digits {n : Nat} {rest : Bytes} (hrest : Ends rest) :
    (digits n ++ rest).takeWhile Number.isDigit = digits n ∧
      (digits n ++ rest).dropWhile Number.isDigit = rest := by
  have hend : rest.takeWhile Number.isDigit = [] ∧ rest.dropWhile Number.isDigit = rest := by
    cases rest with
    | nil => exact ⟨rfl, rfl⟩
    | cons b r => rcases hrest b r rfl with rfl | rfl | rfl <;> exact ⟨rfl, rfl⟩
  rw [List.takeWhile_append_of_pos fun b hb => isDigit_of_mem_digits hb,
    List.dropWhile_append_of_pos fun b hb => isDigit_of_mem_digits hb, hend.1, hend.2, List.append_nil]
  exact ⟨rfl, rfl⟩

theorem scanWhole_digits {n : Nat} {rest : Bytes} (hrest : Ends rest) :
    Written.scanWhole (digits n ++ rest) = some (digits n, rest) := by
  obtain ⟨htake, hdrop⟩ := takeWhile_digits (n := n) hrest
  have hscan : Written.scanDigits (digits n ++ rest) = some (digits n, rest) := by
    change (if ((digits n ++ rest).takeWhile Number.isDigit).isEmpty then none else
      some ((digits n ++ rest).takeWhile Number.isDigit, (digits n ++ rest).dropWhile Number.isDigit)) = _
    rw [htake, hdrop, if_neg]
    simpa using digits_ne_nil n
  unfold Written.scanWhole
  rw [hscan]
  split
  · next hzero =>
    -- A zero in front is the number zero, which has one digit.
    rcases Nat.eq_zero_or_pos n with rfl | hpos
    · cases hzero
    · have hhead := head?_digits hpos
      have hdigits : digits n = _ := congrArg Prod.fst (Option.some.inj hzero)
      rw [hdigits] at hhead
      exact absurd rfl hhead
  · rfl

theorem exists_digits (n : Nat) : ∃ b r, digits n = b :: r ∧ Number.isDigit b = true := by
  obtain ⟨b, r, h⟩ := List.exists_cons_of_ne_nil (digits_ne_nil n)
  exact ⟨b, r, h, isDigit_of_mem_digits (h ▸ List.mem_cons_self)⟩

theorem ne_of_isDigit {b c : UInt8} (h : Number.isDigit b = true) (hc : Number.isDigit c = false) :
    b ≠ c := by
  rintro rfl
  cases h.symm.trans hc

theorem scanNumber_digits {n : Nat} {rest : Bytes} (hrest : Ends rest) :
    Written.scanNumber (digits n ++ rest) = some (digits n, rest) := by
  have hsign : (digits n ++ rest).takeWhile (· == 0x2d) = [] := by
    obtain ⟨b, r, hdigits, hb⟩ := exists_digits n
    have hne : (b == 0x2d) = false := beq_eq_false_iff_ne.2 (ne_of_isDigit hb rfl)
    rw [hdigits, List.cons_append, List.takeWhile_cons, hne]
    rfl
  unfold Written.scanNumber
  rw [hsign]
  simp only [List.length_nil, List.drop_zero, scanWhole_digits hrest]
  cases rest with
  | nil => simp
  | cons b r =>
    rcases hrest b r rfl with rfl | rfl | rfl
    · cases r <;> simp
    · cases r <;> simp
    · cases r <;> simp

theorem ofBytes_digits (n : Nat) : Number.Literal.ofBytes (digits n) = ⟨false, digits n, [], none⟩ := by
  obtain ⟨htake, hdrop⟩ := takeWhile_digits (n := n) ends_nil
  rw [List.append_nil] at htake hdrop
  have hsigned : ((digits n).head? == some 0x2d) = false := by
    obtain ⟨b, r, hdigits, hb⟩ := exists_digits n
    rw [hdigits, List.head?_cons, beq_eq_false_iff_ne]
    exact fun h => ne_of_isDigit hb rfl (Option.some.inj h)
  simp [Number.Literal.ofBytes, hsigned, htake, hdrop]

theorem le_foldl_digit (ds : Bytes) (n : Nat) : n ≤ ds.foldl (fun n b => n * 10 + Number.digit b) n := by
  induction ds generalizing n with
  | nil => exact Nat.le_refl n
  | cons b ds ih => exact Nat.le_trans (by omega) (ih (n * 10 + Number.digit b))

theorem absorb_of_lt {ds : Bytes} {n : Nat}
    (h : ds.foldl (fun n b => n * 10 + Number.digit b) n < 2 ^ 64) : (Number.absorb n ds).2 = [] := by
  induction ds generalizing n with
  | nil => rfl
  | cons b ds ih =>
    rw [Number.absorb, if_pos (Nat.lt_of_le_of_lt (le_foldl_digit ds _) h)]
    exact ih h

theorem ofLiteral?_digits (n : UInt64) : Number.ofLiteral? (digits n.toNat) = some (.natural n) := by
  have hfits : (Number.absorb 0 (digits n.toNat)).2 = [] := by
    refine absorb_of_lt ?_
    change Number.ofDigits (digits n.toNat) < 2 ^ 64
    rw [ofDigits_digits]
    exact n.toNat_lt
  simp [Number.ofLiteral?, ofBytes_digits, hfits, Number.ofInteger, ofDigits_digits]

end Json
end BearerTrust

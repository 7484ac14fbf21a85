import BearerTrust.Client.Endpoint
import BearerTrust.Proofs.ClaimReading
import BearerTrust.Proofs.JsonLeaves
import BearerTrust.Proofs.TextPieces
import BearerTrust.Proofs.TokenRun

namespace BearerTrust

namespace Json.Record

variable {name : String} {names : List String} {ms : List (Bytes × Written)}
  {seen fields : List (String × Json)} {x y : Option Json}

/-- What a written object gives a field. The names of its members are texts, and the field has at most one
member, whose value means something. -/
inductive Field (name : String) : List (Bytes × Written) → Option Json → Prop
  | nil : Field name [] none
  | other {k : Bytes} {w : Written} {ms : List (Bytes × Written)} {n : String} {x : Option Json}
      (hk : readString k = some n) (hn : n ≠ name) (h : Field name ms x) : Field name ((k, w) :: ms) x
  | here {k : Bytes} {w : Written} {ms : List (Bytes × Written)} {v : Json}
      (hk : readString k = some name) (hv : Json.ofWritten? (deepest - 1) w = some v)
      (h : Field name ms none) : Field name ((k, w) :: ms) (some v)

section

variable {k : Bytes} {w : Written} {n : String}

theorem Field.of_other (h : Field name ((k, w) :: ms) x) (hk : readString k = some n) (hn : n ≠ name) :
    Field name ms x := by
  cases h with
  | other _ _ h => exact h
  | here hk' =>
    rw [hk, Option.some.injEq] at hk'
    exact absurd hk' hn

theorem Field.of_here (h : Field name ((k, w) :: ms) x) (hk : readString k = some name) :
    ∃ v, x = some v ∧ Json.ofWritten? (deepest - 1) w = some v ∧ Field name ms none := by
  cases h with
  | other hk' hn =>
    rw [hk, Option.some.injEq] at hk'
    exact absurd hk'.symm hn
  | here _ hv h => exact ⟨_, rfl, hv, h⟩

theorem Field.exists_name (h : Field name ((k, w) :: ms) x) : ∃ n, readString k = some n := by
  cases h with
  | other hk => exact ⟨_, hk⟩
  | here hk => exact ⟨_, hk⟩

end

theorem Field.unique (hx : Field name ms x) (hy : Field name ms y) : x = y := by
  induction hx generalizing y with
  | nil =>
    cases hy
    rfl
  | other hk hn _ ih => exact ih (hy.of_other hk hn)
  | here hk hv _ _ =>
    obtain ⟨v, rfl, hv', -⟩ := hy.of_here hk
    rw [← hv, ← hv']

theorem ofWrittenMembers?_cons {k : Bytes} {w : Written} {n : String} (hk : readString k = some n) :
    ofWrittenMembers? names seen ((k, w) :: ms) =
      if n ∈ names then
        if (seen.lookup n).isSome then none
        else (Json.ofWritten? (deepest - 1) w).bind fun v => ofWrittenMembers? names ((n, v) :: seen) ms
      else ofWrittenMembers? names seen ms := by
  simp only [ofWrittenMembers?, hk, Option.bind_eq_bind, Option.bind_some, List.contains_iff_mem]
  split
  · split <;> rfl
  · rfl

theorem field_of_members (h : ofWrittenMembers? names seen ms = some fields) (hname : name ∈ names) :
    ∃ x, Field name ms x ∧ ((seen.lookup name).isSome → x = none) ∧
      fields.lookup name = (x <|> seen.lookup name) := by
  induction ms generalizing seen with
  | nil =>
    rw [ofWrittenMembers?, Option.some.injEq] at h
    exact ⟨none, .nil, fun _ => rfl, by rw [← h]; rfl⟩
  | cons m ms ih =>
    obtain ⟨k, w⟩ := m
    cases hk : readString k with
    | none => simp [ofWrittenMembers?, hk] at h
    | some n =>
      rw [ofWrittenMembers?_cons hk] at h
      split at h
      · split at h
        · nomatch h
        · next hseen =>
          obtain ⟨v, hv, hrest⟩ := Option.bind_eq_some_iff.1 h
          obtain ⟨x, hx, hapart, hfound⟩ := ih hrest
          by_cases hn : n = name
          · subst hn
            have hnone : x = none := hapart (by simp)
            subst hnone
            exact ⟨some v, .here hk hv hx, fun hs => absurd hs hseen, by simpa using hfound⟩
          · have hlookup : List.lookup name ((n, v) :: seen) = seen.lookup name := by
              rw [List.lookup_cons, beq_eq_false_iff_ne.2 (Ne.symm hn)]
            rw [hlookup] at hapart hfound
            exact ⟨x, .other hk hn hx, hapart, hfound⟩
      · next hmem =>
        obtain ⟨x, hx, hrest⟩ := ih h
        exact ⟨x, .other hk (fun hn => hmem (hn ▸ hname)) hx, hrest⟩

theorem field_lookup (h : ofWrittenMembers? names [] ms = some fields) (hname : name ∈ names) :
    Field name ms (fields.lookup name) := by
  obtain ⟨x, hx, -, hfound⟩ := field_of_members h hname
  have hx' : fields.lookup name = x := by
    rw [hfound]
    cases x <;> rfl
  rwa [hx']

theorem exists_members (hnames : names ≠ [])
    (h : ∀ name ∈ names, ∃ x, Field name ms x ∧ ((seen.lookup name).isSome → x = none)) :
    ∃ fields, ofWrittenMembers? names seen ms = some fields := by
  induction ms generalizing seen with
  | nil => exact ⟨seen, rfl⟩
  | cons m ms ih =>
    obtain ⟨k, w⟩ := m
    obtain ⟨n, hk⟩ : ∃ n, readString k = some n := by
      obtain ⟨first, hfirst⟩ := List.exists_mem_of_ne_nil names hnames
      obtain ⟨x, hx, -⟩ := h first hfirst
      exact hx.exists_name
    -- What the object gives a field of another name, the other members give it.
    have hothers (name : String) (hname : name ∈ names) (hn : n ≠ name) :
        ∃ x, Field name ms x ∧ ((seen.lookup name).isSome → x = none) := by
      obtain ⟨x, hx, hapart⟩ := h name hname
      exact ⟨x, hx.of_other hk hn, hapart⟩
    rw [ofWrittenMembers?_cons hk]
    by_cases hmem : n ∈ names
    · obtain ⟨x, hx, hapart⟩ := h n hmem
      obtain ⟨v, rfl, hv, hx⟩ := hx.of_here hk
      have hseen : ¬(seen.lookup n).isSome := fun hs => nomatch hapart hs
      rw [if_pos hmem, if_neg hseen, hv, Option.bind_some]
      refine ih fun name hname => ?_
      by_cases hn : n = name
      · exact ⟨none, hn ▸ hx, fun _ => rfl⟩
      · rw [List.lookup_cons, beq_eq_false_iff_ne.2 (Ne.symm hn)]
        exact hothers name hname hn
    · rw [if_neg hmem]
      exact ih fun name hname => hothers name hname fun hn => hmem (hn ▸ hname)

theorem members_of_parse {bs : Bytes} {r : Record} (h : parse? names bs = some r) (hnamed : r.isNamed = true) :
    ∃ ms, Written.parse? bs = some (.object ms) ∧ ofWrittenMembers? names [] ms = some r.fields := by
  rw [parse?, Option.bind_eq_bind, Option.bind_eq_some_iff] at h
  obtain ⟨w, hw, h⟩ := h
  cases w with
  | object ms =>
    obtain ⟨fields, hfields, rfl⟩ := Option.map_eq_some_iff.1 h
    exact ⟨ms, hw, hfields⟩
  | array xs =>
    simp only [ofWritten?, Option.bind_eq_bind] at h
    split at h
    · cases h
    · obtain ⟨ys, -, h⟩ := Option.bind_eq_some_iff.1 h
      cases h
      cases hnamed
  | null | bool | number | string => cases h

end Json.Record

structure Decimal (ds : String) (n : Nat) : Prop where
  ne_empty : ds ≠ ""
  digits : ∀ c ∈ ds.toList, c.isDigit = true
  value : Nat.ofDigitChars 10 ds.toList 0 = n

/-- What a member of an object says as seconds; null says nothing. -/
inductive SecondsOf : Option Json → Option LenientSeconds → Prop
  | absent : SecondsOf none none
  | null : SecondsOf (some .null) none
  | number (n : Seconds) : SecondsOf (some (.number (.natural n))) (some (.number n))
  | text (s : String) : SecondsOf (some (.string s)) (some (.text s))

namespace LenientSeconds

/-- The number of seconds that is meant. A text means one if it is its digits between blanks, after a plus sign
or not. -/
inductive Denotes : LenientSeconds → Seconds → Prop
  | number (n : Seconds) : Denotes (.number n) n
  | text {s ds : String} {n : Seconds} (hs : Text.TrimsTo s ds ∨ Text.TrimsTo s ("+" ++ ds))
      (hds : Decimal ds n.toNat) : Denotes (.text s) n

variable {cs : List Char} {n : Nat} {l : LenientSeconds} {t : Seconds}

theorem foldlM_digits (m : Nat) :
    cs.foldlM (fun n c => if c.isDigit then some (n * 10 + (c.toNat - 48)) else none) m = some n ↔
      (∀ c ∈ cs, c.isDigit = true) ∧ Nat.ofDigitChars 10 cs m = n := by
  induction cs generalizing m with
  | nil => simp [Nat.ofDigitChars]
  | cons c cs ih =>
    rw [List.foldlM_cons, List.forall_mem_cons, Nat.ofDigitChars_cons, Nat.mul_comm 10 m]
    split
    · next hc => simpa [hc] using ih (m * 10 + (c.toNat - 48))
    · next hc => simp [hc]

theorem digits?_eq_some_iff : digits? cs = some n ↔ Decimal (String.ofList cs) n := by
  have hempty : cs.isEmpty = true ↔ String.ofList cs = "" := by
    rw [List.isEmpty_iff, ← String.toList_eq_nil_iff, String.toList_ofList]
  unfold digits?
  split
  · next h => exact iff_of_false (fun hn => nomatch hn) fun hd => hd.ne_empty (hempty.1 h)
  · next h =>
    rw [foldlM_digits]
    constructor
    · rintro ⟨hdigits, hvalue⟩
      exact ⟨fun he => h (hempty.2 he), by rwa [String.toList_ofList], by rwa [String.toList_ofList]⟩
    · rintro ⟨-, hdigits, hvalue⟩
      rw [String.toList_ofList] at hdigits hvalue
      exact ⟨hdigits, hvalue⟩

theorem ite_lt_eq_some_iff : (if n < 2 ^ 64 then some n.toUInt64 else none) = some t ↔ n = t.toNat := by
  split
  · next h =>
    rw [Option.some.injEq, ← UInt64.toNat_inj, Nat.toUInt64_eq, UInt64.toNat_ofNat', Nat.mod_eq_of_lt h]
  · next h => exact iff_of_false (fun hn => nomatch hn) fun hn => h (hn ▸ t.toNat_lt)

theorem readDigits?_eq_some_iff :
    readDigits? cs = some t ↔
      ∃ ds : String, (cs = ds.toList ∨ cs = ("+" ++ ds).toList) ∧ Decimal ds t.toNat := by
  have hread : readDigits? cs = some t ↔
      Decimal (String.ofList (if cs.head? = some '+' then cs.tail else cs)) t.toNat := by
    simp only [readDigits?, Option.bind_eq_bind, Option.bind_eq_some_iff, ite_lt_eq_some_iff, exists_eq_right,
      digits?_eq_some_iff]
  rw [hread]
  constructor
  · intro h
    refine ⟨_, ?_, h⟩
    split
    · next hplus =>
      obtain ⟨rest, rfl⟩ := List.head?_eq_some_iff.1 hplus
      exact .inr (by simp)
    · exact .inl String.toList_ofList.symm
  · rintro ⟨ds, rfl | rfl, hds⟩
    · have hplus : ds.toList.head? ≠ some '+' := by
        intro h
        have := hds.digits '+' (List.mem_of_head? h)
        revert this
        decide
      rwa [if_neg hplus, String.ofList_toList]
    · simpa using hds

theorem seconds_eq_ok_iff : l.seconds = .ok t ↔ l.Denotes t := by
  cases l with
  | number n =>
    rw [seconds, Except.ok.injEq]
    constructor
    · rintro rfl
      exact .number n
    · rintro ⟨⟩
      rfl
  | text s =>
    have hread : (LenientSeconds.text s).seconds = .ok t ↔ readDigits? (Text.trim s.toList) = some t := by
      rw [seconds]
      split <;> simp_all
    rw [hread, readDigits?_eq_some_iff]
    simp only [← Text.trimsTo_iff]
    constructor
    · rintro ⟨ds, hs, hds⟩
      exact .text hs hds
    · rintro ⟨⟩
      exact ⟨_, ‹_›, ‹_›⟩

theorem decimal_repr (n : Nat) : Decimal (Nat.repr n) n where
  ne_empty := by
    rw [ne_eq, ← String.toList_eq_nil_iff, Nat.toList_repr]
    exact Nat.toDigits_ne_nil
  digits c hc := by
    rw [Nat.toList_repr] at hc
    exact Nat.isDigit_of_mem_toDigits (by decide) (by decide) hc
  value := by
    rw [Nat.toList_repr]
    exact Nat.ofDigitChars_ten_toDigits

theorem trimmed_of_decimal {ds : String} {n : Nat} (h : Decimal ds n) : Text.Trimmed ds.toList := by
  have hblank : ∀ c ∈ ds.toList, Text.isBlank c = false := by
    intro c hc
    have hdigit := Json.toNat_of_isDigit (h.digits c hc)
    simp only [Text.isBlank, Bool.or_eq_false_iff, Bool.and_eq_false_iff, decide_eq_false_iff_not,
      beq_eq_false_iff_ne]
    omega
  exact ⟨fun c hc => hblank c (List.mem_of_head? hc), fun c hc => hblank c (List.mem_of_getLast? hc)⟩

theorem denotes_repr_iff (n : Seconds) : Denotes (.text (Nat.repr n.toNat)) t ↔ Denotes (.number n) t := by
  have htext : Denotes (.text (Nat.repr n.toNat)) n :=
    .text (.inl (.self (trimmed_of_decimal (decimal_repr n.toNat)))) (decimal_repr n.toNat)
  rw [← seconds_eq_ok_iff, ← seconds_eq_ok_iff, seconds_eq_ok_iff.2 htext, seconds]

end LenientSeconds

structure AnswerTimes where
  expiresIn : Option LenientSeconds
  extExpiresIn : Option LenientSeconds
  expiresAt : Option LenientSeconds

namespace AnswerTimes

structure Given (g : AnswerTimes) (ms : List (Bytes × Json.Written)) : Prop where
  expiresIn : ∃ x, Json.Record.Field "expires_in" ms x ∧ SecondsOf x g.expiresIn
  extExpiresIn : ∃ x, Json.Record.Field "ext_expires_in" ms x ∧ SecondsOf x g.extExpiresIn
  expiresAt : ∃ x, Json.Record.Field "expires_at" ms x ∧ SecondsOf x g.expiresAt

def Lifetime (g : AnswerTimes) (l : LenientSeconds) : Prop :=
  g.expiresIn = some l ∨ g.expiresIn = none ∧ g.extExpiresIn = some l

end AnswerTimes

/-- Objects that hold a token. A lifetime that does not count may be any text. -/
structure HoldsToken (ms : List (Bytes × Json.Written)) : Prop where
  accessToken : ∃ s, Json.Record.Field "access_token" ms (some (.string s))
  tokenType : ∃ x y, Json.Record.Field "token_type" ms x ∧ TextOf x y
  times : ∃ g : AnswerTimes, g.Given ms ∧ (∃ l n, g.Lifetime l ∧ l.Denotes n) ∧
    ∀ l, g.expiresAt = some l → ∃ n, l.Denotes n

inductive Expires (now lifetime : Seconds) : Option LenientSeconds → Seconds → Prop
  | supplied {l : LenientSeconds} {t : Seconds} (h : l.Denotes t) : Expires now lifetime (some l) t
  | computed {t : Seconds} (h : t.toNat = min (now.toNat + lifetime.toNat) (2 ^ 64 - 1)) :
      Expires now lifetime none t

structure IssuedToken.Tells (t : IssuedToken) (ms : List (Bytes × Json.Written)) (now : Seconds) : Prop where
  accessToken : Json.Record.Field "access_token" ms (some (.string t.accessToken))
  tokenType : ∃ x, Json.Record.Field "token_type" ms x ∧ TextOf x t.tokenType
  times : ∃ g : AnswerTimes, g.Given ms ∧ (∃ l, g.Lifetime l ∧ l.Denotes t.expiresIn) ∧
    Expires now t.expiresIn g.expiresAt t.expiresAt

variable {ms : List (Bytes × Json.Written)} {now : Seconds} {t : IssuedToken}

theorem Expires.exists (now lifetime : Seconds) {x : Option LenientSeconds}
    (h : ∀ l, x = some l → ∃ n, l.Denotes n) : ∃ t, Expires now lifetime x t := by
  cases x with
  | none => exact ⟨now.saturatingAdd lifetime, .computed (Seconds.toNat_saturatingAdd now lifetime)⟩
  | some l =>
    obtain ⟨n, hn⟩ := h l rfl
    exact ⟨n, .supplied hn⟩

theorem holdsToken_iff (now : Seconds) : HoldsToken ms ↔ ∃ t : IssuedToken, t.Tells ms now := by
  constructor
  · rintro ⟨⟨accessToken, haccess⟩, ⟨x, tokenType, htype⟩, g, hg, ⟨l, expiresIn, hl⟩, hat⟩
    obtain ⟨expiresAt, hexpires⟩ := Expires.exists now expiresIn hat
    exact ⟨⟨accessToken, tokenType, expiresIn, expiresAt⟩, haccess, ⟨x, htype⟩, g, hg, ⟨l, hl⟩, hexpires⟩
  · rintro ⟨t, haccess, ⟨x, htype⟩, g, hg, ⟨l, hl⟩, hexpires⟩
    refine ⟨⟨_, haccess⟩, ⟨x, _, htype⟩, g, hg, ⟨l, _, hl⟩, fun m hm => ?_⟩
    rw [hm] at hexpires
    cases hexpires with
    | supplied h => exact ⟨_, h⟩

namespace TokenAnswer

variable {r : Json.Record} {a : TokenAnswer} {name : String}

theorem required_text_iff {s : String} :
    r.required name Json.asString? = some s ↔ r.get? name = some (.string s) := by
  unfold Json.Record.required
  rcases r.get? name with _ | (_ | _ | _ | _ | _ | _) <;> simp [Json.asString?]

theorem withDefault_text_iff {y : Option String} :
    r.withDefault name none (Json.nullable Json.asString?) = some y ↔ TextOf (r.get? name) y := by
  unfold Json.Record.withDefault
  generalize r.get? name = x
  constructor
  · intro h
    rcases x with _ | (_ | _ | _ | s | _ | _)
    · cases h; exact .absent
    · cases h; exact .null
    · cases h
    · cases h
    · cases h; exact .text s
    · cases h
    · cases h
  · intro h
    cases h <;> rfl

theorem withDefault_seconds_iff {y : Option LenientSeconds} :
    r.withDefault name none (Json.nullable LenientSeconds.ofJson?) = some y ↔
      SecondsOf (r.get? name) y := by
  unfold Json.Record.withDefault
  generalize r.get? name = x
  constructor
  · intro h
    rcases x with _ | (_ | _ | (n | _ | _) | s | _ | _)
    · cases h; exact .absent
    · cases h; exact .null
    · cases h
    · cases h; exact .number n
    · cases h
    · cases h
    · cases h; exact .text s
    · cases h
    · cases h
  · intro h
    cases h <;> rfl

theorem times_eq_ok_iff {g : AnswerTimes} {n : Seconds} {m : Option Seconds} :
    times g.expiresIn g.extExpiresIn g.expiresAt = .ok (n, m) ↔
      (∃ l, g.Lifetime l ∧ l.Denotes n) ∧ Option.Rel LenientSeconds.Denotes g.expiresAt m := by
  have hchosen (l : LenientSeconds) : (g.expiresIn <|> g.extExpiresIn) = some l ↔ g.Lifetime l :=
    (congrArg (· = some l) Option.orElse_eq_or).to_iff.trans Option.or_eq_some_iff
  unfold times
  split
  · next hnone =>
    refine iff_of_false (fun h => nomatch h) ?_
    rintro ⟨⟨l, hl, -⟩, -⟩
    exact nomatch hnone.symm.trans ((hchosen l).2 hl)
  · next l hsome =>
    rw [bind_eq_ok_iff]
    constructor
    · rintro ⟨k, hk, h⟩
      have hlifetime := (hchosen l).1 hsome
      rw [LenientSeconds.seconds_eq_ok_iff] at hk
      split at h
      · next hat =>
        cases h
        exact ⟨⟨l, hlifetime, hk⟩, hat ▸ .none⟩
      · next d hat =>
        obtain ⟨t, ht, ⟨⟩⟩ := map_eq_ok_iff.1 h
        exact ⟨⟨l, hlifetime, hk⟩, hat ▸ .some (LenientSeconds.seconds_eq_ok_iff.1 ht)⟩
    · rintro ⟨⟨k, hk, hn⟩, hm⟩
      rw [← hchosen, hsome, Option.some.injEq] at hk
      refine ⟨n, LenientSeconds.seconds_eq_ok_iff.2 (hk ▸ hn), ?_⟩
      generalize g.expiresAt = x at hm ⊢
      cases hm with
      | none => rfl
      | some h => exact map_eq_ok_iff.2 ⟨_, LenientSeconds.seconds_eq_ok_iff.2 h, rfl⟩

theorem ofRecord_eq_ok_iff :
    ofRecord r = .ok a ↔
      r.get? "access_token" = some (.string a.accessToken) ∧ TextOf (r.get? "token_type") a.tokenType ∧
        ∃ g : AnswerTimes, (SecondsOf (r.get? "expires_in") g.expiresIn ∧
          SecondsOf (r.get? "ext_expires_in") g.extExpiresIn ∧ SecondsOf (r.get? "expires_at") g.expiresAt) ∧
          (∃ l, g.Lifetime l ∧ l.Denotes a.expiresIn) ∧
          Option.Rel LenientSeconds.Denotes g.expiresAt a.expiresAt := by
  simp only [← times_eq_ok_iff, ← required_text_iff, ← withDefault_text_iff, ← withDefault_seconds_iff]
  constructor
  · intro h
    unfold ofRecord at h
    dsimp only at h
    split at h
    · cases h
    · next hfields =>
      simp only [Option.bind_eq_bind, Option.bind_eq_some_iff, Option.some.injEq] at hfields
      obtain ⟨_, haccess, _, htype, _, he, _, hx, _, hd, ⟨⟩⟩ := hfields
      obtain ⟨⟨n, m⟩, htimes, ⟨⟩⟩ := bind_eq_ok_iff.1 h
      exact ⟨haccess, htype, ⟨_, _, _⟩, ⟨he, hx, hd⟩, htimes⟩
  · rintro ⟨haccess, htype, g, ⟨he, hx, hd⟩, htimes⟩
    simp [ofRecord, haccess, htype, he, hx, hd, htimes, bind_eq_ok_iff]

structure Says (a : TokenAnswer) (ms : List (Bytes × Json.Written)) : Prop where
  accessToken : Json.Record.Field "access_token" ms (some (.string a.accessToken))
  tokenType : ∃ x, Json.Record.Field "token_type" ms x ∧ TextOf x a.tokenType
  times : ∃ g : AnswerTimes, g.Given ms ∧ (∃ l, g.Lifetime l ∧ l.Denotes a.expiresIn) ∧
    Option.Rel LenientSeconds.Denotes g.expiresAt a.expiresAt

theorem parse_object {bs : Bytes} (hbs : Json.Written.parse? bs = some (.object ms)) :
    parse bs = .ok a ↔
      ∃ fields, Json.Record.ofWrittenMembers? fieldNames [] ms = some fields ∧
        ofRecord ⟨fields, true⟩ = .ok a := by
  simp only [Json.Written.parse?, Option.bind_eq_bind, Option.bind_eq_some_iff] at hbs
  obtain ⟨⟨w, rest⟩, hscan, hbs⟩ := hbs
  obtain ⟨hblank, ⟨⟩⟩ := Option.ite_none_right_eq_some.1 hbs
  simp only [parse, hscan, Json.Record.ofWritten?]
  cases Json.Record.ofWrittenMembers? fieldNames [] ms with
  | none => simp
  | some fields => simp [bind_eq_ok_iff, hblank]

theorem parse_eq_ok_iff {bs : Bytes} (hbs : Json.Written.parse? bs = some (.object ms)) :
    parse bs = .ok a ↔ a.Says ms := by
  rw [parse_object hbs]
  have hfield {fields : List (String × Json)}
      (hfields : Json.Record.ofWrittenMembers? fieldNames [] ms = some fields) (name : String)
      (hname : name ∈ fieldNames) : Json.Record.Field name ms (Json.Record.get? ⟨fields, true⟩ name) :=
    Json.Record.field_lookup hfields hname
  constructor
  · rintro ⟨fields, hfields, h⟩
    obtain ⟨haccess, htype, g, ⟨he, hx, hd⟩, htimes⟩ := ofRecord_eq_ok_iff.1 h
    refine ⟨haccess ▸ hfield hfields "access_token" (by decide), ⟨_, ?_, htype⟩, g,
      ⟨⟨_, ?_, he⟩, ⟨_, ?_, hx⟩, ⟨_, ?_, hd⟩⟩, htimes⟩
    · exact hfield hfields "token_type" (by decide)
    · exact hfield hfields "expires_in" (by decide)
    · exact hfield hfields "ext_expires_in" (by decide)
    · exact hfield hfields "expires_at" (by decide)
  · rintro ⟨haccess, ⟨_, htype, ht⟩, g, ⟨⟨_, hein, he⟩, ⟨_, hext, hx⟩, ⟨_, hat, hd⟩⟩, htimes⟩
    obtain ⟨fields, hfields⟩ : ∃ fields, Json.Record.ofWrittenMembers? fieldNames [] ms = some fields := by
      refine Json.Record.exists_members (List.cons_ne_nil _ _) fun name hname => ?_
      have hgiven : ∃ x, Json.Record.Field name ms x := by
        simp only [fieldNames, List.mem_cons, List.not_mem_nil, or_false] at hname
        rcases hname with rfl | rfl | rfl | rfl | rfl
        · exact ⟨_, haccess⟩
        · exact ⟨_, htype⟩
        · exact ⟨_, hein⟩
        · exact ⟨_, hext⟩
        · exact ⟨_, hat⟩
      obtain ⟨x, hx⟩ := hgiven
      exact ⟨x, hx, fun hs => nomatch hs⟩
    refine ⟨fields, hfields, ofRecord_eq_ok_iff.2 ⟨?_, ?_, g, ⟨?_, ?_, ?_⟩, htimes⟩⟩
    · exact (hfield hfields "access_token" (by decide)).unique haccess
    · exact (hfield hfields "token_type" (by decide)).unique htype ▸ ht
    · exact (hfield hfields "expires_in" (by decide)).unique hein ▸ he
    · exact (hfield hfields "ext_expires_in" (by decide)).unique hext ▸ hx
    · exact (hfield hfields "expires_at" (by decide)).unique hat ▸ hd

end TokenAnswer

theorem IssuedToken.tells_iff : t.Tells ms now ↔ ∃ a : TokenAnswer, a.Says ms ∧ a.receivedAt now = t := by
  constructor
  · rintro ⟨haccess, htype, g, hg, hl, hexpires⟩
    generalize hx : g.expiresAt = x at hexpires
    cases hexpires with
    | supplied h => exact ⟨⟨_, _, _, some _⟩, ⟨haccess, htype, g, hg, hl, hx ▸ .some h⟩, rfl⟩
    | computed h =>
      refine ⟨⟨_, _, _, none⟩, ⟨haccess, htype, g, hg, hl, hx ▸ .none⟩, ?_⟩
      have hcapped : now.saturatingAdd t.expiresIn = t.expiresAt := by
        rw [← UInt64.toNat_inj, Seconds.toNat_saturatingAdd, h]
      rw [TokenAnswer.receivedAt, Option.getD_none, hcapped]
  · rintro ⟨a, ⟨haccess, htype, g, hg, hl, hat⟩, rfl⟩
    refine ⟨haccess, htype, g, hg, hl, ?_⟩
    rw [TokenAnswer.receivedAt]
    generalize g.expiresAt = x at hat ⊢
    generalize a.expiresAt = y at hat ⊢
    cases hat with
    | none => exact .computed (Seconds.toNat_saturatingAdd now a.expiresIn)
    | some h => exact .supplied h

namespace EndpointAnswer

variable {a : EndpointAnswer}

theorem token_of_failure (h : ¬(200 ≤ a.status ∧ a.status ≤ 299)) (now : Seconds) :
    a.token now = .error (.errorResponse a.status (Text.ofUtf8Lossy a.body)) := by
  have hfailed : a.isSuccess = false := by
    rw [isSuccess, Bool.and_eq_false_iff, decide_eq_false_iff_not, decide_eq_false_iff_not]
    omega
  rw [token, hfailed, if_neg Bool.false_ne_true]

theorem token_of_success (h : 200 ≤ a.status ∧ a.status ≤ 299) (now : Seconds) :
    a.token now = ((TokenAnswer.parse a.body).mapError .malformedResponse).map (·.receivedAt now) := by
  have hdone : a.isSuccess = true := by
    rw [isSuccess, Bool.and_eq_true, decide_eq_true_eq, decide_eq_true_eq]
    omega
  rw [token, if_pos hdone]
  cases TokenAnswer.parse a.body <;> rfl

theorem token_eq_ok_iff (h : 200 ≤ a.status ∧ a.status ≤ 299)
    (hbody : Json.Written.parse? a.body = some (.object ms)) : a.token now = .ok t ↔ t.Tells ms now := by
  have hread (answer : TokenAnswer) : TokenAnswer.parse a.body = .ok answer ↔ answer.Says ms :=
    TokenAnswer.parse_eq_ok_iff hbody
  rw [token_of_success h, IssuedToken.tells_iff]
  simp only [← hread]
  cases TokenAnswer.parse a.body with
  | ok answer => simp [Except.mapError, Except.map]
  | error fault => simp [Except.mapError, Except.map]

end EndpointAnswer

/-- One request is posted, and its answer is taken for the token that it holds or reported. A number of
seconds may also be written as a text. -/
theorem GrantRequest.send_exact {τ : Type} (endpoint : TokenEndpoint τ) (q : GrantRequest) (a : ClientAuth)
    (now : Seconds) (nonce : Bytes) (s s' : τ) (log : Posts) (answer : EndpointAnswer)
    (hpost : endpoint.post (q.tokenRequest a now nonce) s = (.ok answer, s')) :
    q.send endpoint.recording a now nonce (s, log) =
        (answer.token now, (s', log ++ [(q.tokenRequest a now nonce, .ok answer)])) ∧
      (¬(200 ≤ answer.status ∧ answer.status ≤ 299) →
        answer.token now = .error (.errorResponse answer.status (Text.ofUtf8Lossy answer.body))) ∧
      (200 ≤ answer.status ∧ answer.status ≤ 299 →
        ∀ ms, Json.Written.parse? answer.body = some (.object ms) →
          ((∃ t, answer.token now = .ok t) ↔ HoldsToken ms) ∧
          (∀ t, answer.token now = .ok t ↔ t.Tells ms now) ∧
          (¬HoldsToken ms → ∃ fault, answer.token now = .error (.malformedResponse fault))) ∧
      ∀ n t : Seconds, LenientSeconds.Denotes (.text (Nat.repr n.toNat)) t ↔
        LenientSeconds.Denotes (.number n) t := by
  refine ⟨?_, fun h => EndpointAnswer.token_of_failure h now, ?_, fun n t => LenientSeconds.denotes_repr_iff n⟩
  · rw [GrantRequest.send_eq]
    simp only [TokenEndpoint.recording, hpost]
    rfl
  · intro hstatus ms hbody
    have htoken (t : IssuedToken) : answer.token now = .ok t ↔ t.Tells ms now :=
      EndpointAnswer.token_eq_ok_iff hstatus hbody
    have hholds : (∃ t, answer.token now = .ok t) ↔ HoldsToken ms := by
      rw [holdsToken_iff now]
      exact exists_congr htoken
    refine ⟨hholds, htoken, fun hnone => ?_⟩
    rw [EndpointAnswer.token_of_success hstatus] at hholds ⊢
    cases hread : TokenAnswer.parse answer.body with
    | ok said =>
      rw [hread] at hholds
      exact absurd (hholds.1 ⟨_, rfl⟩) hnone
    | error fault => exact ⟨fault, rfl⟩

namespace Sample

def plainAuth : ClientAuth := .secretPost "id" "secret"

def plainRequest : GrantRequest where
  tokenUrl := { scheme := "https", path := .segments ["token"] }
  credential := plainAuth.credential
  scope := []
  grant := .clientCredentials

def lenientBody : Bytes :=
  Text.utf8 <| "\x7b\"ext_expires_in\":\"soon\",\"more\":1e999," ++
    "\"expires_in\":\" +0120\\n\",\"access_token\":\"t\"\x7d"

def lenientEndpoint : TokenEndpoint Unit := ⟨fun _ _ => (.ok ⟨200, lenientBody⟩, ())⟩

def lenientToken : IssuedToken := ⟨"t", none, 120, 125⟩

theorem send_exact_lenient :
    lenientEndpoint.post (plainRequest.tokenRequest plainAuth 5 []) () = (.ok ⟨200, lenientBody⟩, ()) ∧
    (∃ ms, Json.Written.parse? lenientBody = some (.object ms) ∧ HoldsToken ms ∧ lenientToken.Tells ms 5) ∧
    plainRequest.send lenientEndpoint.recording plainAuth 5 [] ((), []) =
      (.ok lenientToken, ((), [(plainRequest.tokenRequest plainAuth 5 [], .ok ⟨200, lenientBody⟩)])) := by
  have hpost : lenientEndpoint.post (plainRequest.tokenRequest plainAuth 5 []) () =
      (.ok ⟨200, lenientBody⟩, ()) := rfl
  have hrecord : (Json.Record.parse? TokenAnswer.fieldNames lenientBody).map (fun r => (r.fields, r.isNamed)) =
      some ([("access_token", .string "t"), ("expires_in", .string " +0120\n"),
        ("ext_expires_in", .string "soon")], true) := by
    decide +kernel
  obtain ⟨r, hr, hfields⟩ := Option.map_eq_some_iff.1 hrecord
  obtain ⟨hfields, hnamed⟩ := Prod.mk.inj hfields
  obtain ⟨ms, hbody, hms⟩ := Json.Record.members_of_parse hr hnamed
  have hfield (name : String) (hname : name ∈ TokenAnswer.fieldNames) :=
    Json.Record.field_lookup (hfields ▸ hms) hname
  have hlifetime : LenientSeconds.Denotes (.text " +0120\n") 120 :=
    @LenientSeconds.Denotes.text _ "0120" _ (.inr (Text.trimsTo_iff.2 (by decide +kernel)))
      ⟨by decide, List.all_eq_true.1 (by decide +kernel), by decide +kernel⟩
  have htells : lenientToken.Tells ms 5 := by
    refine ⟨hfield "access_token" (by decide), ⟨none, hfield "token_type" (by decide), .absent⟩,
      ⟨some (.text " +0120\n"), some (.text "soon"), none⟩,
      ⟨⟨_, ?_, .text _⟩, ⟨_, ?_, .text _⟩, ⟨none, ?_, .absent⟩⟩, ⟨_, .inl rfl, hlifetime⟩, .computed (by decide)⟩
    · exact hfield "expires_in" (by decide)
    · exact hfield "ext_expires_in" (by decide)
    · exact hfield "expires_at" (by decide)
  obtain ⟨hsend, -, hobject, -⟩ :=
    GrantRequest.send_exact lenientEndpoint plainRequest plainAuth 5 [] () () [] _ hpost
  obtain ⟨hholds, htoken, -⟩ := hobject (by decide) ms hbody
  have hok := (htoken lenientToken).2 htells
  exact ⟨hpost, ⟨ms, hbody, hholds.1 ⟨_, hok⟩, htells⟩, hsend.trans (by rw [hok]; rfl)⟩

end Sample
end BearerTrust

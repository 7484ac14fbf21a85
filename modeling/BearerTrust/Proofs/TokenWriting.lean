import BearerTrust.Proofs.JsonReading
import BearerTrust.Proofs.TextPieces
import BearerTrust.Proofs.TokenReading

namespace BearerTrust

namespace Text.Base64

theorem value?_char : ∀ n < 64, urlSafe.value? (urlSafe.char n) = some n := by decide

theorem value?_char_standard : ∀ n < 64, standard.value? (standard.char n) = some n := by decide

def sextets : Bytes → List Nat
  | [] => []
  | [x] => [x.toNat / 4, x.toNat % 4 * 16]
  | [x, y] => [x.toNat / 4, x.toNat % 4 * 16 + y.toNat / 16, y.toNat % 16 * 4]
  | x :: y :: z :: r =>
    x.toNat / 4 :: (x.toNat % 4 * 16 + y.toNat / 16) :: (y.toNat % 16 * 4 + z.toNat / 64) ::
      z.toNat % 64 :: sextets r

theorem encode_eq_map (a : Alphabet) (bs : Bytes) : encode a bs = (sextets bs).map a.char := by
  fun_induction sextets bs with
  | case1 | case2 | case3 => rfl
  | case4 x y z r ih => rw [encode, ih]; rfl

theorem lt_of_mem_sextets {bs : Bytes} {n : Nat} (h : n ∈ sextets bs) : n < 64 := by
  fun_induction sextets bs with
  | case1 => cases h
  | case2 x =>
    have hx := x.toNat_lt
    simp only [List.mem_cons, List.not_mem_nil, or_false] at h
    omega
  | case3 x y =>
    have hx := x.toNat_lt
    have hy := y.toNat_lt
    simp only [List.mem_cons, List.not_mem_nil, or_false] at h
    omega
  | case4 x y z r ih =>
    have hx := x.toNat_lt
    have hy := y.toNat_lt
    have hz := z.toNat_lt
    simp only [List.mem_cons] at h
    rcases h with h | h | h | h | h
    · omega
    · omega
    · omega
    · omega
    · exact ih h

theorem join_sextets (bs : Bytes) : join (sextets bs) = some bs := by
  have hfirst (x : UInt8) (n : Nat) (hn : n < 16) :
      (x.toNat / 4 * 4 + (x.toNat % 4 * 16 + n) / 16).toUInt8 = x := by
    have : x.toNat / 4 * 4 + (x.toNat % 4 * 16 + n) / 16 = x.toNat := by omega
    rw [this]
    exact UInt8.ofNat_toNat
  have hsecond (x : Nat) (y : UInt8) (n : Nat) (hn : n < 4) :
      ((x * 16 + y.toNat / 16) % 16 * 16 + (y.toNat % 16 * 4 + n) / 4).toUInt8 = y := by
    have hy := y.toNat_lt
    have : (x * 16 + y.toNat / 16) % 16 * 16 + (y.toNat % 16 * 4 + n) / 4 = y.toNat := by omega
    rw [this]
    exact UInt8.ofNat_toNat
  have hthird (y : Nat) (z : UInt8) : ((y * 4 + z.toNat / 64) % 4 * 64 + z.toNat % 64).toUInt8 = z := by
    have hz := z.toNat_lt
    have : (y * 4 + z.toNat / 64) % 4 * 64 + z.toNat % 64 = z.toNat := by omega
    rw [this]
    exact UInt8.ofNat_toNat
  fun_induction sextets bs with
  | case1 => rfl
  | case2 x =>
    have hx := hfirst x 0 (by decide)
    rw [join, if_pos (by omega)]
    rw [Nat.add_zero] at hx
    rw [hx]
  | case3 x y =>
    have hy := y.toNat_lt
    have hy' := hsecond (x.toNat % 4) y 0 (by decide)
    rw [join, if_pos (by omega), hfirst x _ (by omega)]
    rw [Nat.add_zero] at hy'
    rw [hy']
  | case4 x y z r ih =>
    have hy := y.toNat_lt
    have hz := z.toNat_lt
    rw [join, ih, hfirst x _ (by omega), hsecond (x.toNat % 4) y _ (by omega), hthird]
    rfl

theorem decode?_encode_of {a : Alphabet} (ha : ∀ n < 64, a.value? (a.char n) = some n) (bs : Bytes) :
    decode? a (encode a bs) = some bs := by
  have hvalues (ns : List Nat) (hns : ∀ n ∈ ns, n < 64) : (ns.map a.char).mapM a.value? = some ns := by
    induction ns with
    | nil => rfl
    | cons n ns ih =>
      rw [List.map_cons, List.mapM_cons, ha n (hns n List.mem_cons_self),
        ih fun m hm => hns m (List.mem_cons_of_mem n hm)]
      rfl
  rw [decode?, encode_eq_map, hvalues _ fun n hn => lt_of_mem_sextets hn]
  exact join_sextets bs

theorem decode?_encode (bs : Bytes) : decode? urlSafe (encode urlSafe bs) = some bs :=
  decode?_encode_of value?_char bs

theorem dot_not_mem_encode (bs : Bytes) : '.' ∉ encode urlSafe bs :=
  not_mem_of_decode? (by decide) (decode?_encode bs)

end Text.Base64

theorem Header.parse?_render (h : Header) : Header.parse? h.toJson.render = some h := by
  obtain ⟨algorithm, keyId⟩ := h
  have halg := algorithm.ofName?_name
  have hread : Json.Record.parse? ["alg", "kid"] (toJson ⟨algorithm, keyId⟩).render =
      some ⟨(("alg", .string algorithm.name) :: keyId.toList.map fun k => ("kid", Json.string k)).reverse,
        true⟩ := by
    refine (Json.Record.parse?_render ?_ ?_ ?_).trans ?_
    · cases keyId <;> simp [Json.Legible.string]
    · cases keyId <;> simp
    · cases keyId <;> simp
    · cases keyId <;> rfl
  rw [parse?, hread]
  cases keyId with
  | none =>
    simp [Json.Record.required, Json.Record.optional, Json.Record.get?, List.lookup_cons, halg,
      Json.asString?]
  | some k =>
    simp [Json.Record.required, Json.Record.optional, Json.Record.get?, List.lookup_cons, halg,
      Json.asString?]

theorem splitLastDot_append {before after : List Char} (h : '.' ∉ after) :
    splitLastDot (before ++ '.' :: after) = some (before, after) := by
  have hall : ∀ c ∈ after.reverse, (c != '.') = true :=
    Text.bne_of_not_mem fun hmem => h (List.mem_reverse.1 hmem)
  have hreverse : (before ++ '.' :: after).reverse = after.reverse ++ '.' :: before.reverse := by simp
  have hdrop : (before ++ '.' :: after).reverse.dropWhile (· != '.') = '.' :: before.reverse := by
    rw [hreverse, List.dropWhile_append_of_pos hall]
    rfl
  have htake : (before ++ '.' :: after).reverse.takeWhile (· != '.') = after.reverse := by
    rw [hreverse, List.takeWhile_append_of_pos hall, List.takeWhile_cons_of_neg (by decide),
      List.append_nil]
  rw [splitLastDot, hdrop, htake]
  simp

namespace Compact

def ofParts (header : Header) (payload : Json) (sign : Bytes → Bytes) : Compact where
  header
  signed := part header.toJson ++ '.' :: part payload
  payload := part payload
  signature := sign (Text.utf8 (String.ofList (part header.toJson ++ '.' :: part payload)))

variable {header : Header} {payload : Json} {sign : Bytes → Bytes}

/-- A token is taken apart into what it was written from. -/
theorem parse_write (header : Header) (payload : Json) (sign : Bytes → Bytes) :
    parse (write header payload sign) = .ok (ofParts header payload sign) := by
  have hdot (bs : Bytes) : '.' ∉ Text.Base64.encode Text.Base64.urlSafe bs :=
    Text.Base64.dot_not_mem_encode bs
  simp only [parse, write, String.toList_ofList, splitLastDot_append (hdot _)]
  simp only [part, splitLastDot_append (hdot _), Text.Base64.decode?_encode, Header.parse?_render]
  rfl

theorem signature_ofParts : (ofParts header payload sign).signature =
    sign (ofParts header payload sign).message :=
  rfl

theorem claims_ofParts {ms : Json.Members} {claims : Claims} (h : Json.Legible Json.deepest payload)
    (hread : payload.ordered = .object ms) (hclaims : Claims.ofMembers ms = .ok claims) :
    (ofParts header payload sign).claims = .ok claims := by
  refine claims_eq_ok.2 ⟨ms, ?_, hclaims⟩
  change Text.Base64.decode? Text.Base64.urlSafe
    (Text.Base64.encode Text.Base64.urlSafe payload.render) >>= Json.parse? = _
  rw [Text.Base64.decode?_encode, ← hread]
  exact Json.parse?_render h

end Compact
end BearerTrust

import BearerTrust.Proofs.RequestRouting
import BearerTrust.Proofs.TokenWriting

namespace BearerTrust

namespace Url.Percent

inductive FormOctet : UInt8 → List Char → Prop
  | space : FormOctet 0x20 ['+']
  | plain {b : UInt8} (h : isFormByte b = true) : FormOctet b [Char.ofNat b.toNat]
  | digits {m n : Nat} (hm : m < 16) (hn : n < 16) :
      FormOctet (m * 16 + n).toUInt8 ['%', upperHex m, upperHex n]

theorem formOctet_encodeFormByte (b : UInt8) : FormOctet b (encodeFormByte b) := by
  unfold encodeFormByte
  split
  · next h =>
    rw [h]
    exact .space
  · unfold encodeByte
    split
    · have hb := b.toNat_lt
      have hdigits : (b.toNat / 16 * 16 + b.toNat % 16).toUInt8 = b := by
        rw [Nat.div_add_mod']
        exact UInt8.ofNat_toNat
      have h : FormOctet _ ['%', upperHex (b.toNat / 16), upperHex (b.toNat % 16)] :=
        .digits (by omega) (Nat.mod_lt _ (by decide))
      rwa [hdigits] at h
    · next h => exact .plain (by simpa using h)

theorem upperHex_inj : ∀ m < 16, ∀ n < 16, upperHex m = upperHex n → m = n := by decide

theorem upperHex_ne_mark : ∀ n < 16, upperHex n ≠ '&' ∧ upperHex n ≠ '=' := by decide

theorem ofNat_ne_mark {b : UInt8} (h : isFormByte b = true) :
    ∀ c ∈ ['+', '%', '&', '='], Char.ofNat b.toNat ≠ c := by
  have hmarks : ['+', '%', '&', '='].all (fun c => !isFormByte c.toNat.toUInt8) = true := by decide
  have hoctet : b.toNat.toUInt8 = b := UInt8.ofNat_toNat
  intro c hc hchar
  have hmark := List.all_eq_true.1 hmarks c hc
  rw [← hchar, Text.toNat_charOfNat b.toNat_lt, hoctet, h] at hmark
  cases hmark

theorem ofNat_toNat_inj {b c : UInt8} (h : Char.ofNat b.toNat = Char.ofNat c.toNat) : b = c := by
  rw [← UInt8.toNat_inj, ← Text.toNat_charOfNat b.toNat_lt, h, Text.toNat_charOfNat c.toNat_lt]

theorem FormOctet.append_inj {b c : UInt8} {xs ys r s : List Char} (h : FormOctet b xs) (h' : FormOctet c ys)
    (happend : xs ++ r = ys ++ s) : b = c ∧ r = s := by
  cases h with
  | space =>
    cases h' with
    | space => exact ⟨rfl, (List.cons.inj happend).2⟩
    | plain h' => exact absurd (List.cons.inj happend).1.symm (ofNat_ne_mark h' '+' (by decide))
    | digits => exact absurd (List.cons.inj happend).1 (by decide)
  | plain h =>
    cases h' with
    | space => exact absurd (List.cons.inj happend).1 (ofNat_ne_mark h '+' (by decide))
    | plain h' =>
      obtain ⟨hchar, hrest⟩ := List.cons.inj happend
      exact ⟨ofNat_toNat_inj hchar, hrest⟩
    | digits => exact absurd (List.cons.inj happend).1 (ofNat_ne_mark h '%' (by decide))
  | digits hm hn =>
    cases h' with
    | space => exact absurd (List.cons.inj happend).1 (by decide)
    | plain h' => exact absurd (List.cons.inj happend).1.symm (ofNat_ne_mark h' '%' (by decide))
    | digits hm' hn' =>
      simp only [List.cons_append, List.nil_append, List.cons.injEq, true_and] at happend
      obtain ⟨hfirst, hsecond, hrest⟩ := happend
      rw [upperHex_inj _ hm _ hm' hfirst, upperHex_inj _ hn _ hn' hsecond]
      exact ⟨rfl, hrest⟩

theorem FormOctet.mark_not_mem {b : UInt8} {xs : List Char} (h : FormOctet b xs) : '&' ∉ xs ∧ '=' ∉ xs := by
  cases h with
  | space => decide
  | plain h =>
    have hne := ofNat_ne_mark h
    simp only [List.mem_singleton]
    exact ⟨(hne '&' (by decide)).symm, (hne '=' (by decide)).symm⟩
  | digits hm hn =>
    have hfirst := upperHex_ne_mark _ hm
    have hsecond := upperHex_ne_mark _ hn
    simp [hfirst.1.symm, hfirst.2.symm, hsecond.1.symm, hsecond.2.symm]

theorem FormOctet.ne_nil {b : UInt8} {xs : List Char} (h : FormOctet b xs) : xs ≠ [] := by
  cases h <;> exact List.cons_ne_nil _ _

theorem flatMap_encodeFormByte_inj {bs cs : Bytes}
    (h : bs.flatMap encodeFormByte = cs.flatMap encodeFormByte) : bs = cs := by
  induction bs generalizing cs with
  | nil =>
    cases cs with
    | nil => rfl
    | cons c cs =>
      rw [List.flatMap_nil, List.flatMap_cons] at h
      exact absurd (List.append_eq_nil_iff.1 h.symm).1 (formOctet_encodeFormByte c).ne_nil
  | cons b bs ih =>
    cases cs with
    | nil =>
      rw [List.flatMap_nil, List.flatMap_cons] at h
      exact absurd (List.append_eq_nil_iff.1 h).1 (formOctet_encodeFormByte b).ne_nil
    | cons c cs =>
      rw [List.flatMap_cons, List.flatMap_cons] at h
      obtain ⟨rfl, hrest⟩ := (formOctet_encodeFormByte b).append_inj (formOctet_encodeFormByte c) h
      rw [ih hrest]

theorem encodeFormText_injective {s t : String} (h : encodeFormText s = encodeFormText t) : s = t :=
  Text.utf8_injective (flatMap_encodeFormByte_inj h)

theorem mark_not_mem_encodeFormText (s : String) : '&' ∉ encodeFormText s ∧ '=' ∉ encodeFormText s := by
  have hmark (b : UInt8) := (formOctet_encodeFormByte b).mark_not_mem
  simp only [encodeFormText, List.mem_flatMap, not_exists, not_and]
  exact ⟨fun b _ => (hmark b).1, fun b _ => (hmark b).2⟩

def fieldText (f : String × String) : List Char := encodeFormText f.1 ++ '=' :: encodeFormText f.2

theorem fieldText_ne_nil (f : String × String) : fieldText f ≠ [] :=
  List.append_ne_nil_of_right_ne_nil _ (List.cons_ne_nil _ _)

theorem amp_not_mem_fieldText (f : String × String) : '&' ∉ fieldText f := by
  simp [fieldText, mark_not_mem_encodeFormText]

theorem fieldText_injective : fieldText.Injective := by
  intro f g h
  obtain ⟨hname, hrest⟩ := Text.append_inj_of_mark (mark_not_mem_encodeFormText f.1).2
    (mark_not_mem_encodeFormText g.1).2 (.inr rfl) (.inr rfl) h
  have hvalue := (List.cons.inj hrest).2
  exact Prod.ext (encodeFormText_injective hname) (encodeFormText_injective hvalue)

theorem encodeForm_injective : encodeForm.Injective := by
  intro form form' h
  have hpieces (form : List (String × String)) : ∀ x ∈ form.map fieldText, x ≠ [] ∧ '&' ∉ x := by
    intro x hx
    obtain ⟨f, -, rfl⟩ := List.mem_map.1 hx
    exact ⟨fieldText_ne_nil f, amp_not_mem_fieldText f⟩
  have htext : ['&'].intercalate (form.map fieldText) = ['&'].intercalate (form'.map fieldText) :=
    String.ofList_injective h
  exact List.map_injective_iff.2 fieldText_injective
    (Text.intercalate_inj (hpieces form) (hpieces form') htext)

end Url.Percent

namespace Text.Base64

theorem padded_inj {cs ds : List Char} (hcs : '=' ∉ cs) (hds : '=' ∉ ds) (h : padded cs = padded ds) :
    cs = ds := by
  have hfilter {cs : List Char} (hcs : '=' ∉ cs) : (padded cs).filter (· != '=') = cs := by
    have hkeep : cs.filter (· != '=') = cs := List.filter_eq_self.2 (Text.bne_of_not_mem hcs)
    simp [padded, hkeep]
  rw [← hfilter hcs, h, hfilter hds]

theorem encodeStandard_injective : encodeStandard.Injective := by
  intro bs cs h
  have hread := decode?_encode_of value?_char_standard
  have hplain (bs : Bytes) : '=' ∉ encode standard bs := not_mem_of_decode? (by decide) (hread bs)
  have hencode := padded_inj (hplain bs) (hplain cs) (String.ofList_injective h)
  have hoctets := hread bs
  rw [hencode, hread cs] at hoctets
  exact (Option.some.inj hoctets).symm

end Text.Base64

namespace Http

/-- Two clients with their secrets look the same in a header: they are the same, or one client goes on after a
colon with what the other one's secret begins with. -/
inductive Blends : String × String → String × String → Prop
  | same (credentials : String × String) : Blends credentials credentials
  | longer (client more secret : String) : Blends (client ++ ":" ++ more, secret) (client, more ++ ":" ++ secret)
  | shorter (client more secret : String) : Blends (client, more ++ ":" ++ secret) (client ++ ":" ++ more, secret)

section

variable {b c : String × String}

theorem Blends.joined_eq (h : Blends b c) : b.1 ++ ":" ++ b.2 = c.1 ++ ":" ++ c.2 := by
  cases h with
  | same => rfl
  | longer | shorter => simp only [String.append_assoc]

theorem Blends.symm (h : Blends b c) : Blends c b := by
  cases h with
  | same => exact .same _
  | longer client more secret => exact .shorter client more secret
  | shorter client more secret => exact .longer client more secret

theorem blends_of_between {client secret client' secret' : String} {between : List Char}
    (hclient : client'.toList = client.toList ++ between)
    (hsecret : ':' :: secret.toList = between ++ ':' :: secret'.toList) :
    Blends (client, secret) (client', secret') := by
  cases between with
  | nil =>
    simp only [List.append_nil, List.nil_append, List.cons.injEq, true_and, String.toList_inj] at hclient hsecret
    rw [hclient, hsecret]
    exact .same _
  | cons colon more =>
    simp only [List.cons_append, List.cons.injEq] at hsecret
    obtain ⟨rfl, hsecret⟩ := hsecret
    have hcolon : ":".toList = [':'] := rfl
    have hlonger : client' = client ++ ":" ++ String.ofList more := by
      rw [← String.toList_inj, hclient]
      simp [hcolon]
    have hmore : secret = String.ofList more ++ ":" ++ secret' := by
      rw [← String.toList_inj, hsecret]
      simp [hcolon]
    rw [hlonger, hmore]
    exact .shorter client (String.ofList more) secret'

theorem blends_of_joined_eq (h : b.1 ++ ":" ++ b.2 = c.1 ++ ":" ++ c.2) : Blends b c := by
  have hcolon : ":".toList = [':'] := rfl
  have htexts : b.1.toList ++ ':' :: b.2.toList = c.1.toList ++ ':' :: c.2.toList := by
    simpa [hcolon] using congrArg String.toList h
  -- One of the clients begins with the other one.
  rcases List.append_eq_append_iff.1 htexts with ⟨between, hclient, hsecret⟩ | ⟨between, hclient, hsecret⟩
  · exact blends_of_between hclient hsecret
  · exact (blends_of_between hclient hsecret).symm

theorem Blends.eq (h : Blends b c) (hb : ':' ∉ b.1.toList) (hc : ':' ∉ c.1.toList) : b = c := by
  cases h with
  | same => rfl
  | longer client more secret => simp at hb
  | shorter client more secret => simp at hc

end

def Request.header? (p : Request) (name : String) : Option String := p.headers.lookup name

/-- The client that a header is for, if there is one, has no colon, so the first colon ends it. -/
def ColonFree (basic : Option (String × String)) : Prop := ∀ b ∈ basic, ':' ∉ b.1.toList

theorem blends_iff_eq {basic basic' : Option (String × String)} (h : ColonFree basic) (h' : ColonFree basic') :
    Option.Rel Blends basic basic' ↔ basic = basic' := by
  constructor
  · intro hrel
    cases hrel with
    | none => rfl
    | some hblends => rw [hblends.eq (h _ rfl) (h' _ rfl)]
  · rintro rfl
    cases basic with
    | none => exact .none
    | some b => exact .some (.same b)

namespace Client

variable {ω : Type} {c c' : Client} {q q' : TokenRequest}

theorem body_postRequest_eq_iff : (c.postRequest q).body = (c'.postRequest q').body ↔ q.form = q'.form := by
  constructor
  · intro h
    exact Url.Percent.encodeForm_injective (Text.utf8_injective h)
  · intro h
    rw [postRequest, postRequest, h]

theorem basicHeader_eq_iff {b b' : String × String} : (basicHeader b).2 = (basicHeader b').2 ↔ Blends b b' := by
  constructor
  · intro h
    have htext := Text.Base64.encodeStandard_injective ((String.append_right_inj _).1 h)
    exact blends_of_joined_eq (Text.utf8_injective htext)
  · intro h
    rw [basicHeader, basicHeader, h.joined_eq]

theorem authorization_postRequest (c : Client) (q : TokenRequest) :
    (c.postRequest q).header? "authorization" = q.basic.map fun b => (basicHeader b).2 := by
  cases hbasic : q.basic with
  | none => simp [Request.header?, postRequest, hbasic, List.lookup_cons]
  | some b => simp [Request.header?, postRequest, hbasic, List.lookup_cons, basicHeader]

theorem authorization_postRequest_eq_iff :
    (c.postRequest q).header? "authorization" = (c'.postRequest q').header? "authorization" ↔
      Option.Rel Blends q.basic q'.basic := by
  rw [authorization_postRequest, authorization_postRequest]
  cases q.basic with
  | none =>
    cases q'.basic with
    | none => exact iff_of_true rfl .none
    | some b' => exact iff_of_false nofun nofun
  | some b =>
    cases q'.basic with
    | none => exact iff_of_false nofun nofun
    | some b' =>
      rw [Option.map_some, Option.map_some, Option.some.injEq, basicHeader_eq_iff]
      exact ⟨.some, fun | .some h => h⟩

/-- For a token request one request is posted. Its body tells the form, names, values and their order, and its
`Authorization` header tells the client and the secret but for the place where one ends and the other begins. So
the client and the secret are told as well where no client has a colon. -/
theorem post_determines (c c' : Client) (t t' : Transport ω) (q q' : TokenRequest) (w w' : ω)
    (sent sent' : List Request) :
    ∃ p p' : Request,
      ((c.tokenEndpoint t.recording).post q (w, sent)).2.2 = sent ++ [p] ∧
      ((c'.tokenEndpoint t'.recording).post q' (w', sent')).2.2 = sent' ++ [p'] ∧
      (p.body = p'.body ∧ p.header? "authorization" = p'.header? "authorization" ↔
        q.form = q'.form ∧ Option.Rel Blends q.basic q'.basic) ∧
      (ColonFree q.basic → ColonFree q'.basic →
        (p.body = p'.body ∧ p.header? "authorization" = p'.header? "authorization" ↔
          q.form = q'.form ∧ q.basic = q'.basic)) := by
  have htold : (c.postRequest q).body = (c'.postRequest q').body ∧
      (c.postRequest q).header? "authorization" = (c'.postRequest q').header? "authorization" ↔
      q.form = q'.form ∧ Option.Rel Blends q.basic q'.basic :=
    and_congr body_postRequest_eq_iff authorization_postRequest_eq_iff
  refine ⟨c.postRequest q, c'.postRequest q', rfl, rfl, htold, fun h h' => htold.trans ?_⟩
  exact and_congr_right fun _ => blends_iff_eq h h'

end Client

namespace Sample

def anyClient : Client := ⟨"tokens", {}, 0⟩

def authenticatedBy (a : ClientAuth) : TokenRequest :=
  a.apply tokenPlace 0 [] { url := tokenPlace, form := [("grant_type", "client_credentials")] }

def postedBy (a : ClientAuth) : List Request :=
  ((anyClient.tokenEndpoint Transport.unreachable.recording).post (authenticatedBy a) ((), [])).2.2

/-- Two clients with their secrets make the same request where they stand in the header; in the form they are told
apart. -/
theorem clients_blended :
    (authenticatedBy (.secretBasic "a:b" "c")).url = (authenticatedBy (.secretBasic "a" "b:c")).url ∧
    postedBy (.secretBasic "a:b" "c") = postedBy (.secretBasic "a" "b:c") ∧
    (postedBy (.secretBasic "a:b" "c")).map (·.header? "authorization") = [some "Basic YTpiOmM="] ∧
    (authenticatedBy (.secretBasic "a:b" "c")).basic ≠ (authenticatedBy (.secretBasic "a" "b:c")).basic ∧
    postedBy (.secretPost "a:b" "c") ≠ postedBy (.secretPost "a" "b:c") := by
  refine ⟨rfl, by decide +kernel, by decide +kernel, by decide, by decide +kernel⟩

end Sample
end Http
end BearerTrust

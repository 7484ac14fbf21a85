import BearerTrust.Proofs.Completeness
import BearerTrust.Proofs.Delegation

namespace BearerTrust

variable {σ υ τ : Type}

namespace Context

theorem first?_eq (c : Context) : c.first? = c.issuers.head?.bind c.token? := by
  obtain ⟨tokens⟩ := c
  cases tokens with
  | nil => rfl
  | cons e es => simp [first?, issuers, token?, Table.get?]

theorem first?_ofKept (es : List (String × Token)) :
    (ofKept es).first? =
      es.head?.bind fun e => ((es.filter fun f => f.1 = e.1).getLast?).map Prod.snd := by
  rw [first?_eq, issuers_ofKept]
  cases es with
  | nil => rfl
  | cons e es =>
    rw [List.map_cons, List.eraseDups_cons, List.head?_cons, List.head?_cons, Option.bind_some,
      Option.bind_some, token?_ofKept]

end Context

namespace Registry

variable {web : Retriever σ} {r : Registry} {now : Seconds} {instant : Instant} {st after : TrustState σ}

theorem accepted?_of_validateCandidate {c : Candidate} {t : Token}
    (h : r.validateCandidate web now instant c st = .ok (some (.ok t), after)) :
    r.accepted? web now instant st c = some t := by
  rw [accepted?, h]

theorem passing_append (cs ds : List Candidate) :
    r.passing web now instant st (cs ++ ds) =
      r.passing web now instant st cs ++ r.passing web now instant st ds :=
  List.filterMap_append

theorem passing_eq_nil_iff {cs : List Candidate} :
    r.passing web now instant st cs = [] ↔ ∀ c ∈ cs, r.accepted? web now instant st c = none := by
  simp [passing, List.filterMap_eq_nil_iff]

theorem passing_cons {c : Candidate} {t : Token} (hc : r.accepted? web now instant st c = some t)
    (cs : List Candidate) :
    r.passing web now instant st (c :: cs) = (c.shortName, t) :: r.passing web now instant st cs := by
  simp [passing, hc]

theorem map_snd_passing (cs : List Candidate) (n : String) :
    ((r.passing web now instant st cs).filter fun e => e.1 = n).map Prod.snd =
      (cs.filter fun c => c.shortName = n).filterMap (r.accepted? web now instant st) := by
  induction cs with
  | nil => rfl
  | cons c cs ih =>
    cases hc : r.accepted? web now instant st c with
    | none =>
      have hpassing : r.passing web now instant st (c :: cs) = r.passing web now instant st cs := by
        simp [passing, hc]
      rw [hpassing, ih]
      by_cases hn : c.shortName = n <;> simp [hn, hc]
    | some t =>
      rw [passing_cons hc]
      by_cases hn : c.shortName = n <;> simp [hn, hc, ih]

end Registry

namespace Arrival

variable {a : Arrival σ} {answers : Url → Except RetrievalError Bytes} {ctx : Context}
  {after : TrustState σ} {c : Candidate} {t : Token}

def candidates (a : Arrival σ) : List Candidate := a.registry.candidates a.request

def accepted? (a : Arrival σ) (c : Candidate) : Option Token :=
  a.registry.accepted? a.web a.now a.instant a.trust c

structure Leads (a : Arrival σ) (before : List Candidate) (c : Candidate) (t : Token)
    (later : List Candidate) : Prop where
  order : a.candidates = before ++ c :: later
  before : ∀ d ∈ before, a.accepted? d = none
  accepted : a.accepted? c = some t

theorem exists_leads {d : Candidate} (hd : d ∈ a.candidates) (haccepted : a.accepted? d ≠ none) :
    ∃ before c t later, a.Leads before c t later := by
  cases hfirst : a.candidates.find? fun c => (a.accepted? c).isSome with
  | none =>
    have hnone := List.find?_eq_none.1 hfirst d hd
    rw [Option.not_isSome_iff_eq_none] at hnone
    exact absurd hnone haccepted
  | some c =>
    obtain ⟨hc, before, later, horder, hbefore⟩ := List.find?_eq_some_iff_append.1 hfirst
    obtain ⟨t, ht⟩ := Option.isSome_iff_exists.1 hc
    exact ⟨before, c, t, later, horder, fun d hd => by simpa using hbefore d hd, ht⟩

theorem context_eq (h : Stable a.web answers a.registry a.trust) (hr : a.validate = .ok (ctx, after)) :
    ctx = .ofKept (a.registry.passing a.web a.now a.instant a.trust a.candidates) :=
  Registry.validateAll_eq_ok (h.settled a.instant) hr

theorem first?_of_refused (h : Stable a.web answers a.registry a.trust) (hr : a.validate = .ok (ctx, after))
    (hrefused : ∀ c ∈ a.candidates, a.accepted? c = none) : ctx.first? = none := by
  rw [context_eq h hr, Registry.passing_eq_nil_iff.2 hrefused]
  rfl

theorem Leads.first?_eq {before later : List Candidate} (hlead : a.Leads before c t later)
    (h : Stable a.web answers a.registry a.trust) (hr : a.validate = .ok (ctx, after)) :
    ctx.first? =
      (((c :: later).filter fun d => d.shortName = c.shortName).filterMap a.accepted?).getLast? := by
  -- Nothing before the candidate passes, so its entry is the first one that is kept.
  have hhead := Registry.passing_cons hlead.accepted later
  rw [context_eq h hr, hlead.order, Registry.passing_append,
    Registry.passing_eq_nil_iff.2 hlead.before, List.nil_append, Context.first?_ofKept, hhead,
    List.head?_cons, Option.bind_some, ← hhead, ← List.getLast?_map, Registry.map_snd_passing]
  rfl

theorem Leads.first?_eq_some {before later : List Candidate} (hlead : a.Leads before c t later)
    (h : Stable a.web answers a.registry a.trust) (hr : a.validate = .ok (ctx, after))
    (hlater : ∀ d ∈ later, d.shortName = c.shortName → ∀ u, a.accepted? d = some u → u = t) :
    ctx.first? = some t := by
  have hlast := hlead.first?_eq h hr
  cases hu : ctx.first? with
  | none =>
    rw [hu, eq_comm, List.getLast?_eq_none_iff, List.filterMap_eq_nil_iff] at hlast
    have hnone := hlast c (List.mem_filter.2 ⟨List.mem_cons_self, decide_eq_true rfl⟩)
    rw [hlead.accepted] at hnone
    cases hnone
  | some u =>
    rw [hu] at hlast
    obtain ⟨d, hd, hdu⟩ := List.mem_filterMap.1 (List.mem_of_getLast? hlast.symm)
    obtain ⟨hmem, hname⟩ := List.mem_filter.1 hd
    rcases List.mem_cons.1 hmem with rfl | hmem
    · exact hdu.symm.trans hlead.accepted
    · rw [hlater d hmem (of_decide_eq_true hname) u hdu]

theorem subject_of_ordered (hr : a.validate = .ok (ctx, after)) {js : List (Job σ)} {o : Order σ}
    (ho : .ordered o ∈ Job.log js) (haround : o.around = .request a) :
    o.site.subject = ctx.first?.map Token.encoded := by
  obtain ⟨installed, hinstalled, hsubject⟩ := Job.log_sound js _ ho
  rw [haround] at hinstalled
  cases hinstalled with
  | request hr' =>
    cases hr.symm.trans hr'
    exact hsubject

/-- Over stable keys a request is validated to a context, unless a set would have to be stored past the
clock's range. The context has no first token only if no candidate passes. Otherwise that is the last
token that passes of the issuer of the first candidate that does: the token of that candidate itself,
unless another one of its issuer passes later. And while the request is served, it is the token that calls
send for the caller. -/
theorem subject_exact (a : Arrival σ) (h : Stable a.web answers a.registry a.trust) :
    (a.validate = .error .instantOverflow ∧
      ∃ c ∈ a.candidates, a.registry.Overruns a.web a.instant a.trust c) ∨
    ∃ ctx after, a.validate = .ok (ctx, after) ∧
      ((∀ c ∈ a.candidates, a.accepted? c = none) ∧ ctx.first? = none ∨
        ∃ before c t later, a.Leads before c t later ∧
          ctx.first? =
            (((c :: later).filter fun d => d.shortName = c.shortName).filterMap a.accepted?).getLast? ∧
          ((∀ d ∈ later, d.shortName = c.shortName → ∀ u, a.accepted? d = some u → u = t) →
            ctx.first? = some t)) ∧
      ∀ (js : List (Job σ)) (o : Order σ), .ordered o ∈ Job.log js → o.around = .request a →
        o.site.subject = ctx.first?.map Token.encoded ∧
        ∀ (s : TokenService υ τ) (st : ServiceState υ τ), o.settings.grantType ≠ .clientCredentials →
          ∀ p ∈ (s.record o.settings o.site st).posts,
            ∃ t, ctx.first? = some t ∧ p.1.Carries t.encoded o.settings.grantType := by
  cases hr : a.validate with
  | error e =>
    obtain ⟨rfl, ho⟩ := (Registry.validateAll_settled_error (h.settled a.instant)).1 hr
    exact .inl ⟨rfl, ho⟩
  | ok x =>
    obtain ⟨ctx, after⟩ := x
    refine .inr ⟨ctx, after, rfl, ?_, fun js o ho haround => ?_⟩
    · by_cases hrefused : ∀ c ∈ a.candidates, a.accepted? c = none
      · exact .inl ⟨hrefused, first?_of_refused h hr hrefused⟩
      · obtain ⟨d, hd⟩ := not_forall.1 hrefused
        obtain ⟨hd, haccepted⟩ := Classical.not_imp.1 hd
        obtain ⟨before, c, t, later, hlead⟩ := exists_leads hd haccepted
        exact .inr ⟨before, c, t, later, hlead, hlead.first?_eq h hr, hlead.first?_eq_some h hr⟩
    · have hsubject := subject_of_ordered hr ho haround
      refine ⟨hsubject, fun s st hgrant p hp => ?_⟩
      obtain ⟨text, htext, hcarries⟩ := TokenService.posts_carry hp hgrant
      rw [hsubject] at htext
      obtain ⟨t, ht, rfl⟩ := Option.map_eq_some_iff.1 htext
      exact ⟨t, ht, hcarries⟩

end Arrival

namespace Sample

-- Made like the one in `key`, for what is signed in `renewedCompact`; the signature is the same.
def renewedModulus : Bytes :=
  0xd7 :: 0xfe :: (List.replicate 202 0 ++
    [255, 207, 206, 207, 242, 249, 246, 159, 121, 183, 254, 154, 252, 251, 253, 254, 250, 255, 251,
      223, 122, 109, 141, 125, 101, 232, 116, 208, 65, 163, 84, 109, 141, 226, 27, 173, 165, 56, 159,
      164, 65, 46, 214, 193, 63, 146, 91, 9, 239, 246, 105, 83])

def renewedKey : Jwk := { id := some "2", key := ⟨renewedModulus, [3]⟩ }

def renewedModulusLetters : List Char :=
  "1_4".toList ++ List.replicate 269 'A' ++
    "_8_Oz_L59p95t_6a_Pv9_vr_-996bY19Zeh00EGjVG2N4hutpTifpEEu1sE_klsJ7_ZpUw".toList

def renewedDocument : Bytes :=
  octets "[[\x7b\"kty\":\"RSA\",\"e\":\"Aw\",\"n\":\"".toList ++ octets modulusLetters ++
    octets "\"\x7d,\x7b\"kid\":\"2\",\"kty\":\"RSA\",\"e\":\"Aw\",\"n\":\"".toList ++
      octets renewedModulusLetters ++ octets "\"\x7d]]".toList

def renewedCompact : Compact where
  header := ⟨.rs256, some "2"⟩
  signed := "eyJhbGciOiJSUzI1NiIsImtpZCI6IjIifQ.eyJpc3MiOiJhIiwic3ViIjoiYiJ9".toList
  payload := "eyJpc3MiOiJhIiwic3ViIjoiYiJ9".toList
  signature := compact.signature

def renewedLetters : List Char :=
  renewedCompact.signed ++ '.' :: Text.Base64.encode Text.Base64.urlSafe renewedCompact.signature

def renewedToken : Token :=
  ⟨String.ofList renewedLetters,
    ⟨some "a", some "b", [], none, none, none, [("iss", .string "a"), ("sub", .string "b")]⟩⟩

def renewedRequest : Request :=
  ⟨request.headers ++ [("cookie", octets ('t' :: '=' :: renewedLetters))]⟩

set_option maxRecDepth 10000 in
theorem renewedToken_parse : Validator.parse renewedToken.encoded = .ok renewedCompact := by
  have hhead : Text.Base64.decode? Text.Base64.urlSafe "eyJhbGciOiJSUzI1NiIsImtpZCI6IjIifQ".toList =
      some (octets "\x7b\"alg\":\"RS256\",\"kid\":\"2\"\x7d".toList) := by
    decide +kernel
  have hread : Header.parse? (octets "\x7b\"alg\":\"RS256\",\"kid\":\"2\"\x7d".toList) =
      some renewedCompact.header := by
    decide +kernel
  have hlast : splitLastDot renewedLetters =
      some (renewedCompact.signed,
        Text.Base64.encode Text.Base64.urlSafe renewedCompact.signature) := by
    decide +kernel
  have hfirst : splitLastDot renewedCompact.signed =
      some ("eyJhbGciOiJSUzI1NiIsImtpZCI6IjIifQ".toList, renewedCompact.payload) := by
    decide +kernel
  exact parse_ofList hlast hfirst hhead signature_decode hread rfl

set_option maxRecDepth 10000 in
theorem renewedToken_accepted :
    issuer.validator.conclude 0 renewedToken.encoded renewedCompact (.ok (some renewedKey)) =
      .ok renewedToken :=
  conclude_eq_ok (by decide +kernel) (by decide +kernel) (by decide +kernel)

set_option maxRecDepth 10000 in
theorem renewedDocument_keys : KeySet.parse? renewedDocument = some [key, renewedKey] := by
  have hshape : Json.Written.parse? renewedDocument =
      some (.array [.array [entry none modulusLetters, entry (some ['2']) renewedModulusLetters]]) := by
    cbv
  have hid : ∀ k, some ['2'] = some k → Json.readString (octets k) = some (String.ofList k) := by
    rintro _ ⟨⟩
    decide +kernel
  have hrenewed (depth : Nat) : Jwk.ofEntry? depth (entry (some ['2']) renewedModulusLetters) =
      some (some renewedKey) :=
    ofEntry?_entry hid (readString_octets (by decide +kernel)) (by decide +kernel) (by decide +kernel)
  exact parse?_of_shape hshape (by simp [ofEntry?_key, hrenewed])

theorem key_chosen_first :
    KeySet.choose [key, renewedKey] compact.header.keyId compact.header.algorithm = some key := by
  -- As for `key_chosen`: the octets are not looked at.
  have h (k k' : Rsa.PublicKey) :
      KeySet.choose [{ key := k }, { id := some "2", key := k' }] none .rs256 = some { key := k } := rfl
  exact h key.key renewedKey.key

theorem renewedKey_chosen :
    KeySet.choose [key, renewedKey] renewedCompact.header.keyId renewedCompact.header.algorithm =
      some renewedKey := by
  have h (k k' : Rsa.PublicKey) :
      KeySet.choose [{ key := k }, { id := some "2", key := k' }] (some "2") .rs256 =
        some { id := some "2", key := k' } := by
    rfl
  exact h key.key renewedKey.key

theorem cookies_append (hs hs' : List (String × Bytes)) :
    Request.cookies ⟨hs ++ hs'⟩ = Request.cookies ⟨hs⟩ ++ Request.cookies ⟨hs'⟩ := by
  simp only [Request.cookies, Request.values, List.filter_append, List.map_append,
    List.filterMap_append, List.flatMap_append]

set_option maxRecDepth 10000 in
theorem renewedRequest_cookies :
    renewedRequest.cookies = [⟨"t", token.encoded⟩, ⟨"t", renewedToken.encoded⟩] := by
  have hcookies : Request.cookies ⟨[("cookie", octets ('t' :: '=' :: renewedLetters))]⟩ =
      [⟨"t", renewedToken.encoded⟩] :=
    cookies_singleton (by decide +kernel) (by decide +kernel) (by decide +kernel) (by decide +kernel)
  have hfirst : Request.cookies ⟨request.headers⟩ = [⟨"t", token.encoded⟩] := request_cookies
  rw [renewedRequest, cookies_append, hfirst, hcookies, List.singleton_append]

theorem renewedRequest_candidates :
    registry.candidates renewedRequest = [⟨"a", token.encoded⟩, ⟨"a", renewedToken.encoded⟩] := by
  have hheader : renewedRequest.header? "authorization" = none := by decide +kernel
  have hfull (cs ds : List Char) : String.ofList (cs ++ '.' :: ds) ≠ "" := fun h =>
    List.append_ne_nil_of_right_ne_nil _ (List.cons_ne_nil _ _) (String.ofList_eq_empty_iff.1 h)
  have hcookies (s s' : String) (hs : s ≠ "") (hs' : s' ≠ "") :
      Registry.ofCookies [⟨"t", s⟩, ⟨"t", s'⟩] issuer = [⟨"a", s⟩, ⟨"a", s'⟩] := by
    simp [Registry.ofCookies, TrustedIssuer.cookieName, issuer, Text.sameUpToCase, hs, hs']
  rw [Registry.candidates, hheader, registry, List.flatMap_singleton, renewedRequest_cookies,
    hcookies token.encoded renewedToken.encoded (hfull _ _) (hfull _ _)]
  rfl

def renewal : Arrival Unit :=
  ⟨registry, .constant (.ok renewedDocument), 0, 0, renewedRequest, ⟨[], ()⟩⟩

theorem renewal_first :
    registry.validateCandidate (.constant (.ok renewedDocument)) 0 0 ⟨"a", token.encoded⟩ ⟨[], ()⟩ =
      .ok (some (.ok token), ⟨[], ()⟩) :=
  validateCandidate_accepted rfl rfl token_parse (readAnswer_ok renewedDocument_keys) key_chosen_first
    token_accepted

theorem renewal_second :
    registry.validateCandidate (.constant (.ok renewedDocument)) 0 0 ⟨"a", renewedToken.encoded⟩
      ⟨[], ()⟩ = .ok (some (.ok renewedToken), ⟨[], ()⟩) :=
  validateCandidate_accepted rfl rfl renewedToken_parse (readAnswer_ok renewedDocument_keys)
    renewedKey_chosen renewedToken_accepted

theorem validateAll_pair {r : Registry} {web : Retriever Unit} {s s' : String} {t t' : Token}
    {st : TrustState Unit} (h : r.validateCandidate web 0 0 ⟨"a", s⟩ st = .ok (some (.ok t), st))
    (h' : r.validateCandidate web 0 0 ⟨"a", s'⟩ st = .ok (some (.ok t'), st)) :
    r.validateAll web 0 0 [⟨"a", s⟩, ⟨"a", s'⟩] {} st = .ok (⟨[("a", t')]⟩, st) := by
  have hsecond : r.validateAll web 0 0 [⟨"a", s'⟩] ⟨[("a", t)]⟩ st = .ok (⟨[("a", t')]⟩, st) := by
    rw [Registry.validateAll_cons, h']
    rfl
  rw [Registry.validateAll_cons, h]
  exact hsecond

theorem renewal_validate : renewal.validate = .ok (⟨[("a", renewedToken)]⟩, ⟨[], ()⟩) := by
  unfold renewal Arrival.validate Registry.validate
  rw [renewedRequest_candidates]
  exact validateAll_pair renewal_first renewal_second

theorem renewal_stable :
    Stable renewal.web (fun _ => .ok renewedDocument) renewal.registry renewal.trust :=
  ⟨fun _ _ => rfl, fun _ _ => nofun⟩

def forRenewed : Order Unit :=
  ⟨.request renewal, delegate, { alone with subject := some renewedToken.encoded }⟩

theorem renewal_log : Job.log (errands renewal) = [.ordered forRenewed, .ordered forNobody] :=
  errands_log renewal_validate

theorem forRenewed_posts : ∃ p, (generous.record delegate forRenewed.site fresh).posts = [p] :=
  ⟨_, rfl⟩

/-- The first token passes, and the context does not have it. -/
theorem first_token_replaced :
    renewal.Leads [] ⟨"a", token.encoded⟩ token [⟨"a", renewedToken.encoded⟩] ∧
      ∃ ctx after, renewal.validate = .ok (ctx, after) ∧ ctx.first? ≠ some token := by
  have haccepted : renewal.accepted? ⟨"a", token.encoded⟩ = some token :=
    Registry.accepted?_of_validateCandidate renewal_first
  refine ⟨⟨renewedRequest_candidates, List.forall_mem_nil _, haccepted⟩, _, _, renewal_validate, ?_⟩
  intro hsame
  have hsubject : renewedToken.claims.subject = token.claims.subject :=
    congrArg (fun t : Token => t.claims.subject) (Option.some.inj hsame)
  cases hsubject

theorem subject_exact_renewed :
    .ordered forRenewed ∈ Job.log (errands renewal) ∧
      ∃ p, (generous.record delegate forRenewed.site fresh).posts = [p] ∧
        p.1.Carries renewedToken.encoded .jwtBearer := by
  have hordered : .ordered forRenewed ∈ Job.log (errands renewal) := by
    rw [renewal_log]
    exact List.mem_cons_self
  obtain ⟨p, hp⟩ := forRenewed_posts
  refine ⟨hordered, p, hp, ?_⟩
  rcases Arrival.subject_exact renewal renewal_stable with ⟨herror, -⟩ | ⟨ctx, after, hr, -, hcalls⟩
  · cases herror.symm.trans renewal_validate
  · have hctx : ctx = ⟨[("a", renewedToken)]⟩ :=
      congrArg Prod.fst (Except.ok.inj (hr.symm.trans renewal_validate))
    have hmem : p ∈ (generous.record delegate forRenewed.site fresh).posts := by
      rw [hp]
      exact List.mem_singleton_self p
    obtain ⟨-, hposts⟩ := hcalls (errands renewal) forRenewed hordered rfl
    obtain ⟨t, ht, hcarries⟩ := hposts generous fresh nofun p hmem
    rw [hctx] at ht
    obtain rfl : renewedToken = t := Option.some.inj ht
    exact hcarries

end Sample
end BearerTrust

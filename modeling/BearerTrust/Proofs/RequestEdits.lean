import BearerTrust.Candidates
import Mathlib.Data.List.Basic
import Mathlib.Logic.Relation

namespace BearerTrust

inductive PutIn (sep : UInt8) (s : Bytes) : Bytes → Bytes → Prop
  | front (v : Bytes) : PutIn sep s v (s ++ sep :: v)
  | back (v : Bytes) : PutIn sep s v (v ++ sep :: s)
  | between (a b : Bytes) : PutIn sep s (a ++ sep :: b) (a ++ sep :: (s ++ sep :: b))

def commaByte : UInt8 := 0x2c
def semicolonByte : UInt8 := 0x3b

namespace Registry

/-- The second request carries one more piece, in which no token counts: in the list of an
`Authorization` header, in the list of a `Cookie` header, or in a new header. -/
inductive Adds (r : Registry) (counts : Candidate → Bool) : Request → Request → Prop
  | credential {before after : List (String × Bytes)} {name text : String} {s v v' : Bytes} :
      Text.sameUpToCase name "authorization" = true → Request.valueText? s = some text →
      (∀ c ∈ r.ofHeader text, counts c = false) → PutIn commaByte s v v' →
      Adds r counts ⟨before ++ (name, v) :: after⟩ ⟨before ++ (name, v') :: after⟩
  | authorization {before after : List (String × Bytes)} {name text : String} {s : Bytes} :
      Text.sameUpToCase name "authorization" = true → Request.valueText? s = some text →
      (∀ c ∈ r.ofHeader text, counts c = false) →
      (⟨before ++ after⟩ : Request).values "authorization" = [] →
      Adds r counts ⟨before ++ after⟩ ⟨before ++ (name, s) :: after⟩
  | cookie {before after : List (String × Bytes)} {name text : String} {s v v' : Bytes} :
      Text.sameUpToCase name "cookie" = true → Request.valueText? s = some text →
      (∀ i ∈ r.issuers, ∀ c ∈ ofCookies (Request.cookiesOf text) i, counts c = false) →
      PutIn semicolonByte s v v' →
      Adds r counts ⟨before ++ (name, v) :: after⟩ ⟨before ++ (name, v') :: after⟩
  | cookieHeader {before after : List (String × Bytes)} {name text : String} {s : Bytes} :
      Text.sameUpToCase name "cookie" = true → Request.valueText? s = some text →
      (∀ i ∈ r.issuers, ∀ c ∈ ofCookies (Request.cookiesOf text) i, counts c = false) →
      Adds r counts ⟨before ++ after⟩ ⟨before ++ (name, s) :: after⟩

end Registry

namespace Request

variable {α : Type} {n : String} {s v v' : Bytes}

theorem values_append (hs ks : List (String × Bytes)) (n : String) :
    (⟨hs ++ ks⟩ : Request).values n = (⟨hs⟩ : Request).values n ++ (⟨ks⟩ : Request).values n := by
  simp only [values, List.filter_append, List.map_append]

theorem values_cons_of_same {name : String} {v : Bytes} {hs : List (String × Bytes)}
    (hn : Text.sameUpToCase name n = true) :
    (⟨(name, v) :: hs⟩ : Request).values n = v :: (⟨hs⟩ : Request).values n := by
  simp [values, hn]

theorem values_cons_of_other {name : String} {v : Bytes} {hs : List (String × Bytes)}
    (hn : Text.sameUpToCase name n = false) :
    (⟨(name, v) :: hs⟩ : Request).values n = (⟨hs⟩ : Request).values n := by
  simp [values, hn]

theorem not_cookie {name : String} (h : Text.sameUpToCase name "authorization" = true) :
    Text.sameUpToCase name "cookie" = false := by
  rw [Text.sameUpToCase, beq_iff_eq] at h
  rw [Text.sameUpToCase, h]
  decide

theorem not_authorization {name : String} (h : Text.sameUpToCase name "cookie" = true) :
    Text.sameUpToCase name "authorization" = false := by
  rw [Text.sameUpToCase, beq_iff_eq] at h
  rw [Text.sameUpToCase, h]
  decide

def items (sep : UInt8) (read : List Char → Option α) (v : Bytes) : List α :=
  (valueText? v).elim [] fun text => (text.toList.splitOn (Char.ofNat sep.toNat)).filterMap read

theorem items_of_text {sep : UInt8} {read : List Char → Option α} (h : v.all isTextByte = true) :
    items sep read v =
      ((v.map fun b => Char.ofNat b.toNat).splitOn (Char.ofNat sep.toNat)).filterMap read := by
  rw [items, valueText?, if_pos h, Option.elim, String.toList_ofList]

theorem items_of_not_text {sep : UInt8} {read : List Char → Option α} (h : ¬v.all isTextByte = true) :
    items sep read v = [] := by
  rw [items, valueText?, if_neg h, Option.elim]

theorem items_cut {sep : UInt8} {read : List Char → Option α} {a b : Bytes}
    (h : (a ++ sep :: b).all isTextByte = true) :
    items sep read (a ++ sep :: b) = items sep read a ++ items sep read b := by
  have hab : a.all isTextByte = true ∧ b.all isTextByte = true := by
    simp only [List.all_append, List.all_cons, Bool.and_eq_true] at h
    exact ⟨h.1, h.2.2⟩
  rw [items_of_text h, items_of_text hab.1, items_of_text hab.2, List.map_append, List.map_cons,
    List.splitOn_append_cons_self, List.filterMap_append]

theorem PutIn.all_isTextByte {sep : UInt8} (h : PutIn sep s v v') (hs : s.all isTextByte = true)
    (hsep : isTextByte sep = true) : v'.all isTextByte = v.all isTextByte := by
  cases h with
  | front v => simp [hs, hsep]
  | back v => simp [hs, hsep]
  | between a b => simp [hs, hsep]

theorem items_putIn {sep : UInt8} (read : List Char → Option α) (h : PutIn sep s v v')
    (hs : s.all isTextByte = true) (hsep : isTextByte sep = true) :
    ∃ xs ms ys, items sep read v = xs ++ ys ∧ items sep read v' = xs ++ (ms ++ ys) ∧
      ms ⊆ items sep read s := by
  have hall := PutIn.all_isTextByte h hs hsep
  by_cases hv : v.all isTextByte = true
  · rw [hv] at hall
    cases h with
    | front v => exact ⟨[], _, _, rfl, items_cut hall, List.Subset.refl _⟩
    | back v =>
      refine ⟨_, _, [], (List.append_nil _).symm, ?_, List.Subset.refl _⟩
      rw [items_cut hall, List.append_nil]
    | between a b =>
      refine ⟨_, _, _, items_cut hv, ?_, List.Subset.refl _⟩
      rw [items_cut hall, items_cut]
      simp only [List.all_append, List.all_cons, Bool.and_eq_true] at hall ⊢
      exact hall.2.2
  · have hv' : ¬v'.all isTextByte = true := by rw [hall]; exact hv
    refine ⟨[], [], [], items_of_not_text hv, items_of_not_text hv', List.nil_subset _⟩

theorem isTextByte_of_valueText? {text : String} (h : valueText? s = some text) :
    s.all isTextByte = true := by
  unfold valueText? at h
  split at h
  · next hs => exact hs
  · cases h

end Request

namespace Registry

variable {r : Registry} {counts : Candidate → Bool} {s v v' : Bytes} {text : String}

def inHeader (r : Registry) : Bytes → List Candidate := Request.items commaByte r.ofCredential?

def inCookies (r : Registry) (vs : List Bytes) : List Candidate :=
  r.issuers.flatMap (ofCookies (vs.flatMap (Request.items semicolonByte Request.cookie?)))

theorem inHeader_of_text (h : Request.valueText? s = some text) : r.inHeader s = r.ofHeader text := by
  rw [inHeader, Request.items, h]
  rfl

theorem items_of_cookies (h : Request.valueText? s = some text) :
    Request.items semicolonByte Request.cookie? s = Request.cookiesOf text := by
  rw [Request.items, h]
  rfl

theorem cookies_eq (q : Request) :
    q.cookies = (q.values "cookie").flatMap (Request.items semicolonByte Request.cookie?) := by
  unfold Request.cookies
  induction q.values "cookie" with
  | nil => rfl
  | cons v vs ih =>
    rw [List.flatMap_cons, ← ih]
    cases h : Request.valueText? v with
    | none => simp [h, Request.items]
    | some text => simp [h, items_of_cookies h]

theorem candidates_eq (q : Request) :
    r.candidates q = (q.values "authorization").head?.elim [] r.inHeader ++
      r.inCookies (q.values "cookie") := by
  rw [candidates, cookies_eq, inCookies, Request.header?]
  congr 1
  cases (q.values "authorization").head? with
  | none => rfl
  | some v => rfl

theorem ofCookies_append (ks ls : List Cookie) (i : TrustedIssuer) :
    ofCookies (ks ++ ls) i = ofCookies ks i ++ ofCookies ls i := by
  unfold ofCookies
  cases i.cookieName with
  | none => rfl
  | some name => simp only [List.filter_append, List.map_append]

theorem ofCookies_subset {ks ls : List Cookie} (h : ks ⊆ ls) (i : TrustedIssuer) :
    ofCookies ks i ⊆ ofCookies ls i := by
  unfold ofCookies
  cases i.cookieName with
  | none => exact List.Subset.refl _
  | some name => exact List.map_subset _ (List.filter_subset _ h)

theorem filter_between {xs ms ys : List Candidate} (h : ∀ c ∈ ms, counts c = false) :
    (xs ++ (ms ++ ys)).filter counts = (xs ++ ys).filter counts := by
  have hms : ms.filter counts = [] := by
    rw [List.filter_eq_nil_iff]
    intro c hc
    simp [h c hc]
  rw [List.filter_append, List.filter_append, hms, List.nil_append, List.filter_append]

theorem inHeader_filter (hs : Request.valueText? s = some text)
    (hidle : ∀ c ∈ r.ofHeader text, counts c = false) (h : PutIn commaByte s v v') :
    (r.inHeader v').filter counts = (r.inHeader v).filter counts := by
  have htext := Request.isTextByte_of_valueText? hs
  obtain ⟨xs, ms, ys, hv, hv', hms⟩ := Request.items_putIn r.ofCredential? h htext (by decide)
  rw [inHeader, hv, hv']
  refine filter_between fun c hc => hidle c ?_
  rw [← inHeader_of_text hs]
  exact hms hc

theorem inCookies_filter_between {ms : List Cookie} (xs ys : List Cookie)
    (h : ∀ i ∈ r.issuers, ∀ c ∈ ofCookies ms i, counts c = false) :
    (r.issuers.flatMap (ofCookies (xs ++ (ms ++ ys)))).filter counts =
      (r.issuers.flatMap (ofCookies (xs ++ ys))).filter counts := by
  rw [List.filter_flatMap, List.filter_flatMap]
  refine List.flatMap_congr fun i hi => ?_
  simp only [ofCookies_append]
  exact filter_between (h i hi)

theorem inCookies_filter (hs : Request.valueText? s = some text)
    (hidle : ∀ i ∈ r.issuers, ∀ c ∈ ofCookies (Request.cookiesOf text) i, counts c = false)
    (h : PutIn semicolonByte s v v') (vs ws : List Bytes) :
    (r.inCookies (vs ++ v' :: ws)).filter counts = (r.inCookies (vs ++ v :: ws)).filter counts := by
  have htext := Request.isTextByte_of_valueText? hs
  obtain ⟨xs, ms, ys, hv, hv', hms⟩ := Request.items_putIn Request.cookie? h htext (by decide)
  rw [items_of_cookies hs] at hms
  simp only [inCookies, List.flatMap_append, List.flatMap_cons, hv, hv']
  have hms' : ∀ i ∈ r.issuers, ∀ c ∈ ofCookies ms i, counts c = false :=
    fun i hi c hc => hidle i hi c (ofCookies_subset hms i hc)
  have hbetween := inCookies_filter_between
    (vs.flatMap (Request.items semicolonByte Request.cookie?) ++ xs)
    (ys ++ ws.flatMap (Request.items semicolonByte Request.cookie?)) hms'
  simpa only [List.append_assoc] using hbetween

theorem candidates_filter_of_adds {q q' : Request} (h : r.Adds counts q q') :
    (r.candidates q').filter counts = (r.candidates q).filter counts := by
  rw [candidates_eq, candidates_eq, List.filter_append, List.filter_append]
  cases h with
  | @credential before after name text s v v' hname hs hidle hput =>
    have hc := Request.not_cookie hname
    simp only [Request.values_append, Request.values_cons_of_same hname,
      Request.values_cons_of_other hc]
    congr 1
    cases (⟨before⟩ : Request).values "authorization" with
    | nil => exact inHeader_filter hs hidle hput
    | cons u us => rfl
  | @authorization before after name text s hname hs hidle hnone =>
    have hc := Request.not_cookie hname
    rw [Request.values_append, List.append_eq_nil_iff] at hnone
    simp only [Request.values_append, Request.values_cons_of_same hname,
      Request.values_cons_of_other hc, hnone.1, hnone.2]
    congr 1
    rw [List.filter_eq_nil_iff.2]
    · rfl
    · intro c hc'
      rw [List.nil_append, List.head?_cons, Option.elim, inHeader_of_text hs] at hc'
      simp [hidle c hc']
  | @cookie before after name text s v v' hname hs hidle hput =>
    have ha := Request.not_authorization hname
    simp only [Request.values_append, Request.values_cons_of_same hname,
      Request.values_cons_of_other ha]
    rw [inCookies_filter hs hidle hput]
  | @cookieHeader before after name text s hname hs hidle =>
    have ha := Request.not_authorization hname
    simp only [Request.values_append, Request.values_cons_of_same hname,
      Request.values_cons_of_other ha]
    congr 1
    simp only [inCookies, List.flatMap_append, List.flatMap_cons, items_of_cookies hs]
    exact inCookies_filter_between _ _ hidle

/-- Adding and taking away pieces in which no token counts, any number of times. -/
theorem candidates_filter {q q' : Request} (h : Relation.EqvGen (r.Adds counts) q q') :
    (r.candidates q).filter counts = (r.candidates q').filter counts := by
  induction h with
  | rel q q' h => exact (candidates_filter_of_adds h).symm
  | refl q => rfl
  | symm q q' _ ih => exact ih.symm
  | trans q q' q'' _ _ ih ih' => exact ih.trans ih'

end Registry
end BearerTrust

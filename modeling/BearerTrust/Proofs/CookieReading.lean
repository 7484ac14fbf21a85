import BearerTrust.Proofs.HeaderPieces
import BearerTrust.Proofs.JsonLeaves
import BearerTrust.Proofs.RequestEdits

namespace BearerTrust

namespace Text

/-- Made of the characters that a header can carry as text: the visible ones of ASCII, the space and the tab. -/
def Visible (s : String) : Prop := ∀ c ∈ s.toList, c = '\t' ∨ (0x20 ≤ c.toNat ∧ c.toNat < 0x7f)

def Spaces (s : String) : Prop := ∀ c ∈ s.toList, c = ' ' ∨ c = '\t'

instance (s : String) : Decidable (Visible s) :=
  List.decidableBAll (fun c => c = '\t' ∨ (0x20 ≤ c.toNat ∧ c.toNat < 0x7f)) s.toList

instance (s : String) : Decidable (Spaces s) := List.decidableBAll (fun c => c = ' ' ∨ c = '\t') s.toList

theorem Visible.append {s t : String} (hs : Visible s) (ht : Visible t) : Visible (s ++ t) := by
  intro c hc
  rw [String.toList_append, List.mem_append] at hc
  exact hc.elim (hs c) (ht c)

theorem Spaces.blank {s : String} (h : Spaces s) : Blank s := by
  intro c hc
  rcases h c hc with rfl | rfl <;> decide

theorem Spaces.visible {s : String} (h : Spaces s) : Visible s := by
  intro c hc
  rcases h c hc with rfl | rfl <;> decide

theorem Spaces.apart {s : String} (h : Spaces s) {mark : Char} (hmark : isBlank mark = false) :
    mark ∉ s.toList := by
  intro hmem
  rw [h.blank mark hmem] at hmark
  cases hmark

theorem Visible.toNat_lt {s : String} (h : Visible s) : ∀ c ∈ s.toList, c.toNat < 127 := by
  intro c hc
  rcases h c hc with rfl | ⟨-, hlt⟩
  · decide
  · exact hlt

end Text

namespace Request

theorem isTextByte_of_visible {c : Char} (h : c = '\t' ∨ (0x20 ≤ c.toNat ∧ c.toNat < 0x7f)) :
    isTextByte c.toNat.toUInt8 = true ∧ Char.ofNat c.toNat.toUInt8.toNat = c := by
  rcases h with rfl | ⟨hleast, hmost⟩
  · decide
  · have hoctet : c.toNat.toUInt8.toNat = c.toNat := by
      rw [Nat.toUInt8_eq, UInt8.toNat_ofNat']
      omega
    constructor
    · simp only [isTextByte, Bool.or_eq_true, Bool.and_eq_true, decide_eq_true_eq, UInt8.le_iff_toNat_le,
        UInt8.lt_iff_toNat_lt, hoctet]
      exact .inr ⟨hleast, hmost⟩
    · rw [hoctet, Char.ofNat_toNat]

theorem valueText?_utf8 {s : String} (h : Text.Visible s) : valueText? (Text.utf8 s) = some s := by
  have hbytes : Text.utf8 s = s.toList.map fun c => c.toNat.toUInt8 := by
    rw [← Text.utf8_ofList_ascii fun c hc => Nat.lt_succ_of_lt (h.toNat_lt c hc), String.ofList_toList]
  have htext : (Text.utf8 s).all isTextByte = true := by
    rw [hbytes, List.all_map, List.all_eq_true]
    exact fun c hc => (isTextByte_of_visible (h c hc)).1
  have hback : (Text.utf8 s).map (fun b => Char.ofNat b.toNat) = s.toList := by
    rw [hbytes, List.map_map]
    exact (List.map_congr_left fun c hc => (isTextByte_of_visible (h c hc)).2).trans (List.map_id _)
  rw [valueText?, if_pos htext, hback, String.ofList_toList]

theorem visible_of_isTextByte {b : UInt8} (h : isTextByte b = true) :
    Char.ofNat b.toNat = '\t' ∨ (0x20 ≤ (Char.ofNat b.toNat).toNat ∧ (Char.ofNat b.toNat).toNat < 0x7f) := by
  simp only [isTextByte, Bool.or_eq_true, Bool.and_eq_true, decide_eq_true_eq, UInt8.le_iff_toNat_le,
    UInt8.lt_iff_toNat_lt] at h
  rcases h with rfl | h
  · exact .inl rfl
  · rw [Text.toNat_charOfNat b.toNat_lt]
    exact .inr h

theorem valueText?_eq_some_iff {v : Bytes} {s : String} :
    valueText? v = some s ↔ Text.Visible s ∧ v = Text.utf8 s := by
  constructor
  · intro h
    unfold valueText? at h
    split at h
    · next hall =>
      obtain rfl := Option.some.inj h
      have hvisible : Text.Visible (String.ofList (v.map fun b => Char.ofNat b.toNat)) := by
        intro c hc
        rw [String.toList_ofList] at hc
        obtain ⟨b, hb, rfl⟩ := List.mem_map.1 hc
        exact visible_of_isTextByte (List.all_eq_true.1 hall b hb)
      refine ⟨hvisible, ?_⟩
      have hascii : ∀ c ∈ v.map fun b => Char.ofNat b.toNat, c.toNat < 128 := by
        intro c hc
        exact Nat.lt_succ_of_lt (hvisible.toNat_lt c (by rwa [String.toList_ofList]))
      rw [Text.utf8_ofList_ascii hascii, List.map_map]
      refine (List.map_id v).symm.trans (List.map_congr_left fun b _ => ?_)
      simp [Text.toNat_charOfNat b.toNat_lt]
    · cases h
  · rintro ⟨hvisible, rfl⟩
    exact valueText?_utf8 hvisible

/-- The first header of a name is read, in whatever case the name is sent, if it is text. -/
theorem header?_eq_some_iff {q : Request} {name text : String} : q.header? name = some text ↔
    ∃ before n after, q.headers = before ++ (n, Text.utf8 text) :: after ∧
      (∀ h ∈ before, Text.sameUpToCase h.1 name = false) ∧ Text.sameUpToCase n name = true ∧
      Text.Visible text := by
  rw [header?, values, List.head?_map, List.head?_filter, Option.bind_eq_bind, Option.bind_eq_some_iff]
  simp only [Option.map_eq_some_iff, List.find?_eq_some_iff_append, valueText?_eq_some_iff]
  constructor
  · rintro ⟨_, ⟨⟨n, v⟩, ⟨hsame, before, after, hq, hbefore⟩, rfl⟩, hvisible, rfl⟩
    exact ⟨before, n, after, hq, fun h hh => by simpa using hbefore h hh, hsame, hvisible⟩
  · rintro ⟨before, n, after, hq, hbefore, hsame, hvisible⟩
    exact ⟨_, ⟨(n, _), ⟨hsame, before, after, hq, fun h hh => by simpa using hbefore h hh⟩, rfl⟩,
      hvisible, rfl⟩

end Request

namespace Cookie

structure Sendable (c : Cookie) : Prop where
  name_visible : Text.Visible c.name
  name_ne : c.name ≠ ""
  name_trimmed : Text.Trimmed c.name.toList
  name_unmarked : '=' ∉ c.name.toList
  name_whole : ';' ∉ c.name.toList
  value_visible : Text.Visible c.value
  value_whole : ';' ∉ c.value.toList

instance (c : Cookie) : Decidable c.Sendable :=
  decidable_of_iff (Text.Visible c.name ∧ c.name ≠ "" ∧ Text.Trimmed c.name.toList ∧ '=' ∉ c.name.toList ∧
      ';' ∉ c.name.toList ∧ Text.Visible c.value ∧ ';' ∉ c.value.toList)
    ⟨fun ⟨hname, hne, htrimmed, hmark, hwhole, hvalue, hvalueWhole⟩ =>
      ⟨hname, hne, htrimmed, hmark, hwhole, hvalue, hvalueWhole⟩,
    fun ⟨hname, hne, htrimmed, hmark, hwhole, hvalue, hvalueWhole⟩ =>
      ⟨hname, hne, htrimmed, hmark, hwhole, hvalue, hvalueWhole⟩⟩

/-- The ways to write a value: in quotes, and as it is unless it would be taken for one in quotes or lose
blanks. -/
inductive WrittenValue (v : String) : String → Prop
  | quoted : WrittenValue v ("\"" ++ v ++ "\"")
  | bare (htrimmed : Text.Trimmed v.toList) (hquotes : ∀ inner, v.toList ≠ '"' :: (inner ++ ['"'])) :
    WrittenValue v v

inductive Written (c : Cookie) : String → Prop
  | mk {before gap gap' after v : String} (hbefore : Text.Spaces before) (hgap : Text.Spaces gap)
      (hgap' : Text.Spaces gap') (hafter : Text.Spaces after) (hv : WrittenValue c.value v) :
    Written c (before ++ c.name ++ gap ++ "=" ++ (gap' ++ v ++ after))

variable {c : Cookie} {v text : String}

theorem WrittenValue.trimmed (h : WrittenValue v text) : Text.Trimmed text.toList := by
  cases h with
  | bare htrimmed => exact htrimmed
  | quoted =>
    have htext : ("\"" ++ v ++ "\"").toList = '"' :: (v.toList ++ ['"']) := by simp
    rw [htext]
    refine ⟨?_, ?_⟩
    · rintro _ ⟨⟩
      decide
    · intro c hc
      rw [← List.cons_append, List.getLast?_concat] at hc
      cases hc
      decide

theorem WrittenValue.unquote (h : WrittenValue v text) : Request.unquote text.toList = v.toList := by
  cases h with
  | quoted =>
    have htext : ("\"" ++ v ++ "\"").toList = '"' :: (v.toList ++ ['"']) := by simp
    rw [htext, Request.unquote, List.getLast?_concat, if_pos rfl, List.dropLast_concat]
  | bare _ hquotes =>
    unfold Request.unquote
    split
    · next cs hcs =>
      -- with a last quote besides the first, the value would be one in quotes
      have hlast : cs.getLast? ≠ some '"' := by
        intro hlast
        obtain ⟨inner, rfl⟩ := List.getLast?_eq_some_iff.1 hlast
        exact hquotes inner hcs
      rw [if_neg hlast, hcs]
    · rfl

theorem WrittenValue.visible (h : WrittenValue v text) (hv : Text.Visible v) : Text.Visible text := by
  have hquote : Text.Visible "\"" := by
    intro c hc
    rw [List.mem_singleton.1 hc]
    decide
  cases h with
  | quoted => exact (hquote.append hv).append hquote
  | bare => exact hv

theorem WrittenValue.whole (h : WrittenValue v text) (hv : ';' ∉ v.toList) : ';' ∉ text.toList := by
  cases h with
  | quoted => simp [hv]
  | bare => exact hv

theorem cookie?_written {before after : List Char} (hbefore : '=' ∉ before)
    (hname : Text.trim before = c.name.toList) (hne : c.name ≠ "")
    (hvalue : Request.unquote (Text.trim after) = c.value.toList) :
    Request.cookie? (before ++ '=' :: after) = some c := by
  have hfull : c.name.toList.isEmpty = false := by
    rw [List.isEmpty_eq_false_iff]
    exact mt String.toList_eq_nil_iff.1 hne
  simp only [Request.cookie?, ClaimRequirement.cut?_append hbefore, Option.bind_eq_bind, Option.bind_some,
    hname, hvalue, hfull, String.ofList_toList, Bool.false_eq_true, if_false]

theorem Written.reads (h : c.Written text) (hc : c.Sendable) :
    Request.cookie? text.toList = some c ∧ ';' ∉ text.toList ∧ Text.Visible text := by
  obtain @⟨before, gap, gap', after, v, hbefore, hgap, hgap', hafter, hv⟩ := h
  have htext : (before ++ c.name ++ gap ++ "=" ++ (gap' ++ v ++ after)).toList =
      before.toList ++ c.name.toList ++ gap.toList ++ '=' :: (gap'.toList ++ v.toList ++ after.toList) := by
    simp
  have hname : Text.trim (before.toList ++ c.name.toList ++ gap.toList) = c.name.toList :=
    Text.trim_pad hbefore.blank hgap.blank hc.name_trimmed
  have hvalue : Text.trim (gap'.toList ++ v.toList ++ after.toList) = v.toList :=
    Text.trim_pad hgap'.blank hafter.blank hv.trimmed
  refine ⟨?_, ?_, ?_⟩
  · rw [htext]
    have hspaces {s : String} (hs : Text.Spaces s) : '=' ∉ s.toList := hs.apart (by decide)
    refine cookie?_written ?_ hname hc.name_ne (by rw [hvalue, hv.unquote])
    simp [hspaces hbefore, hspaces hgap, hc.name_unmarked]
  · have hspaces {s : String} (hs : Text.Spaces s) : ';' ∉ s.toList := hs.apart (by decide)
    simp [htext, hspaces hbefore, hspaces hgap, hspaces hgap', hspaces hafter, hc.name_whole,
      hv.whole hc.value_whole]
  · have hmark : Text.Visible "=" := by
      intro c hc
      rw [List.mem_singleton.1 hc]
      decide
    exact (((hbefore.visible.append hc.name_visible).append hgap.visible).append hmark).append
      ((hgap'.visible.append (hv.visible hc.value_visible)).append hafter.visible)

end Cookie

theorem Text.Visible.intercalate {s : String} {texts : List String} (hs : Visible s)
    (h : ∀ t ∈ texts, Visible t) : Visible (s.intercalate texts) := by
  induction texts with
  | nil => exact nofun
  | cons t texts ih =>
    obtain ⟨ht, htexts⟩ := List.forall_mem_cons.1 h
    cases texts with
    | nil => simpa using ht
    | cons u texts =>
      rw [String.intercalate_cons_cons]
      exact (ht.append hs).append (ih htexts)

namespace Request

/-- The cookies that a header carries: those that are written in it, if it is a header for cookies and its value
is text, and none otherwise. -/
inductive Carries : String × Bytes → List Cookie → Prop
  | cookies {name : String} {written : List (Cookie × String)} (hname : Text.sameUpToCase name "cookie" = true)
      (h : ∀ w ∈ written, w.1.Sendable ∧ w.1.Written w.2) :
    Carries (name, Text.utf8 (";".intercalate (written.map Prod.snd))) (written.map Prod.fst)
  | unreadable {name : String} {v : Bytes} (h : ¬v.all isTextByte = true) : Carries (name, v) []
  | other {name : String} {v : Bytes} (h : Text.sameUpToCase name "cookie" = false) : Carries (name, v) []

theorem cookiesOf_intercalate {written : List (Cookie × String)}
    (h : ∀ w ∈ written, w.1.Sendable ∧ w.1.Written w.2) :
    cookiesOf (";".intercalate (written.map Prod.snd)) = written.map Prod.fst := by
  have hfound : written.map Prod.fst = written.filterMap fun w => some w.1 :=
    (congrFun List.filterMap_eq_map written).symm
  have hreads : ∀ w ∈ written, cookie? w.2.toList = some w.1 ∧ ';' ∉ w.2.toList := by
    intro w hw
    obtain ⟨hread, hwhole, -⟩ := (h w hw).2.reads (h w hw).1
    exact ⟨hread, hwhole⟩
  rw [hfound]
  exact Text.filterMap_splitOn_intercalate rfl rfl hreads

theorem visible_intercalate {written : List (Cookie × String)}
    (h : ∀ w ∈ written, w.1.Sendable ∧ w.1.Written w.2) :
    Text.Visible (";".intercalate (written.map Prod.snd)) := by
  refine Text.Visible.intercalate ?_ ?_
  · intro c hc
    rw [List.mem_singleton.1 hc]
    decide
  · rintro _ ht
    obtain ⟨w, hw, rfl⟩ := List.mem_map.1 ht
    exact ((h w hw).2.reads (h w hw).1).2.2

theorem cookies_cons {h : String × Bytes} {cs : List Cookie} (hcarries : Carries h cs)
    (hs : List (String × Bytes)) : cookies ⟨h :: hs⟩ = cs ++ cookies ⟨hs⟩ := by
  simp only [Registry.cookies_eq]
  cases hcarries with
  | cookies hname h =>
    rw [values_cons_of_same hname, List.flatMap_cons,
      Registry.items_of_cookies (valueText?_utf8 (visible_intercalate h)), cookiesOf_intercalate h]
  | @unreadable name v h =>
    cases hname : Text.sameUpToCase name "cookie" with
    | true => rw [values_cons_of_same hname, List.flatMap_cons, items_of_not_text h]
    | false => rw [values_cons_of_other hname, List.nil_append]
  | other h => rw [values_cons_of_other h, List.nil_append]

theorem cookies_of_carries {sent : List ((String × Bytes) × List Cookie)} (h : ∀ p ∈ sent, Carries p.1 p.2) :
    cookies ⟨sent.map Prod.fst⟩ = sent.flatMap Prod.snd := by
  induction sent with
  | nil => rfl
  | cons p sent ih =>
    obtain ⟨hp, hsent⟩ := List.forall_mem_cons.1 h
    rw [List.map_cons, cookies_cons hp, ih hsent, List.flatMap_cons]

end Request

namespace Registry

/-- The tokens that cookies carry for an issuer, cookie by cookie: the value of each that has the name of the
issuer's cookie, in whatever case, unless it is empty. What the value says does not matter. -/
inductive Routes (i : TrustedIssuer) : List Cookie → List Candidate → Prop
  | nil : Routes i [] []
  | token {c : Cookie} {cs : List Cookie} {ts : List Candidate} {name : String} (hi : i.cookieName = some name)
      (hname : Text.sameUpToCase c.name name = true) (hvalue : c.value ≠ "") (h : Routes i cs ts) :
    Routes i (c :: cs) (⟨i.shortName, c.value⟩ :: ts)
  | passed {c : Cookie} {cs : List Cookie} {ts : List Candidate}
      (hother : ∀ name, i.cookieName = some name → Text.sameUpToCase c.name name = true → c.value = "")
      (h : Routes i cs ts) : Routes i (c :: cs) ts

theorem ofCookies_cons {i : TrustedIssuer} {name : String} (hi : i.cookieName = some name) (c : Cookie)
    (cs : List Cookie) : ofCookies (c :: cs) i =
      if Text.sameUpToCase c.name name = true ∧ c.value ≠ "" then ⟨i.shortName, c.value⟩ :: ofCookies cs i
      else ofCookies cs i := by
  simp only [ofCookies, hi, List.filter_cons, Bool.and_eq_true, Bool.not_eq_true', ne_eq,
    String.isEmpty_eq_false_iff]
  split <;> rfl

theorem routes_ofCookies (i : TrustedIssuer) (cs : List Cookie) : Routes i cs (ofCookies cs i) := by
  induction cs with
  | nil =>
    unfold ofCookies
    cases i.cookieName <;> exact .nil
  | cons c cs ih =>
    cases hi : i.cookieName with
    | none =>
      -- without a name all cookies are passed, whatever remains of them
      have hnone (ks : List Cookie) : ofCookies ks i = [] := by rw [ofCookies, hi]
      rw [hnone] at ih ⊢
      have hother (name : String) : i.cookieName ≠ some name := fun hname =>
        Option.some_ne_none name (hname.symm.trans hi)
      exact .passed (fun name hname => absurd hname (hother name)) ih
    | some name =>
      rw [ofCookies_cons hi]
      split
      · next h => exact .token hi h.1 h.2 ih
      · next h =>
        refine .passed (fun name' hname' hsame => ?_) ih
        obtain rfl : name = name' := Option.some.inj (hi.symm.trans hname')
        by_contra hvalue
        exact h ⟨hsame, hvalue⟩

/-- Cookies that are sent in any number of headers are read back, in order. A header whose value is no text
brings none and takes none away, and neither do other headers. A request carries the tokens of its
`Authorization` header and then, issuer by issuer in the order of registration, those in the cookies of the
issuer's name; of its headers of one name, in whatever case, the first is read, if it is text. -/
theorem candidates_routed (r : Registry) :
    (∀ sent : List ((String × Bytes) × List Cookie), (∀ p ∈ sent, Request.Carries p.1 p.2) →
      Request.cookies ⟨sent.map Prod.fst⟩ = sent.flatMap Prod.snd) ∧
    (∀ (before after : List (String × Bytes)) (name : String) (v : Bytes), ¬v.all Request.isTextByte = true →
      Request.cookies ⟨before ++ (name, v) :: after⟩ = Request.cookies ⟨before ++ after⟩) ∧
    (∀ q : Request, ∃ blocks, List.Forall₂ (fun i ts => Routes i q.cookies ts) r.issuers blocks ∧
      r.candidates q = (q.header? "authorization").elim [] r.ofHeader ++ blocks.flatten) ∧
    ∀ (q : Request) (name text : String), q.header? name = some text ↔
      ∃ before n after, q.headers = before ++ (n, Text.utf8 text) :: after ∧
        (∀ h ∈ before, Text.sameUpToCase h.1 name = false) ∧ Text.sameUpToCase n name = true ∧
        Text.Visible text := by
  refine ⟨fun sent => Request.cookies_of_carries, ?_,
    fun q => ⟨r.issuers.map (ofCookies q.cookies), ?_, ?_⟩, fun _ _ _ => Request.header?_eq_some_iff⟩
  · intro before after name v hv
    have hcarries : Request.Carries (name, v) [] := .unreadable hv
    have hempty := Request.cookies_cons hcarries after
    simp only [cookies_eq, Request.values_append, List.flatMap_append] at hempty ⊢
    rw [hempty, List.nil_append]
  · rw [List.forall₂_map_right_iff, List.forall₂_same]
    exact fun i _ => routes_ofCookies i q.cookies
  · rw [candidates, List.flatMap_def]

end Registry

namespace Sample

def quoted : List (Cookie × String) :=
  [(⟨"T", " x "⟩, "" ++ "T" ++ "" ++ "=" ++ ("" ++ ("\"" ++ " x " ++ "\"") ++ "")),
    (⟨"u", "\""⟩, " " ++ "u" ++ "" ++ "=" ++ ("" ++ "\"" ++ ""))]

def marked : List (Cookie × String) :=
  [(⟨"t", "a=b"⟩, "" ++ "t" ++ " " ++ "=" ++ ("\t" ++ "a=b" ++ ""))]

def carried : List ((String × Bytes) × List Cookie) :=
  [(("Cookie", Text.utf8 (";".intercalate (quoted.map Prod.snd))), quoted.map Prod.fst),
    (("cookie", [0xff]), []),
    (("COOKIE", Text.utf8 (";".intercalate (marked.map Prod.snd))), marked.map Prod.fst)]

theorem carried_carries : ∀ p ∈ carried, Request.Carries p.1 p.2 := by
  have hnone : Text.Spaces "" := by decide
  have hquoted : ∀ w ∈ quoted, w.1.Sendable ∧ w.1.Written w.2 := by
    simp only [quoted, List.forall_mem_cons]
    have hquote : Cookie.WrittenValue "\"" "\"" := by
      refine .bare (by decide) fun inner h => ?_
      have hlength := congrArg List.length h
      simp at hlength
    exact ⟨⟨by decide +kernel, .mk hnone hnone hnone hnone .quoted⟩,
      ⟨by decide +kernel, .mk (by decide) hnone hnone hnone hquote⟩, List.forall_mem_nil _⟩
  have hmarked : ∀ w ∈ marked, w.1.Sendable ∧ w.1.Written w.2 := by
    simp only [marked, List.forall_mem_cons]
    have hplain : Cookie.WrittenValue "a=b" "a=b" :=
      .bare (by decide) fun inner h => absurd (List.cons.inj h).1 (by decide)
    exact ⟨⟨by decide +kernel, .mk hnone (by decide) (by decide) hnone hplain⟩, List.forall_mem_nil _⟩
  simp only [carried, List.forall_mem_cons]
  exact ⟨.cookies (by decide) hquoted, .unreadable (by decide), .cookies (by decide) hmarked,
    List.forall_mem_nil _⟩

theorem candidates_routed_carried : (∀ p ∈ carried, Request.Carries p.1 p.2) ∧
    Request.cookies ⟨carried.map Prod.fst⟩ = [⟨"T", " x "⟩, ⟨"u", "\""⟩, ⟨"t", "a=b"⟩] ∧
    ¬([0xff] : Bytes).all Request.isTextByte = true ∧
    Request.cookies ⟨[] ++ ("cookie", [0xff]) :: request.headers⟩ = Request.cookies ⟨[] ++ request.headers⟩ ∧
    ∃ blocks, List.Forall₂ (fun i ts => Registry.Routes i request.cookies ts) registry.issuers blocks ∧
      registry.candidates request =
        (request.header? "authorization").elim [] registry.ofHeader ++ blocks.flatten := by
  obtain ⟨hback, hunread, hroutes, -⟩ := Registry.candidates_routed registry
  have htext : ¬([0xff] : Bytes).all Request.isTextByte = true := by decide
  exact ⟨carried_carries, hback carried carried_carries, htext, hunread [] _ "cookie" _ htext, hroutes request⟩

end Sample
end BearerTrust

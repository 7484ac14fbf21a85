import BearerTrust.Proofs.RegistryBuild
import BearerTrust.Proofs.TextPieces
import BearerTrust.Proofs.TokenReading

namespace BearerTrust

namespace Text

theorem toLower_of_isBlank {c : Char} (h : isBlank c = true ∨ c = ',') : c.toLower = c := by
  refine dif_neg ?_
  rintro ⟨hleast, hmost⟩
  have hleast : 65 ≤ c.toNat := hleast
  have hmost : c.toNat ≤ 90 := hmost
  rcases h with h | rfl
  · simp [isBlank] at h
    omega
  · exact absurd hleast (by decide)

end Text

namespace Registry

/-- What is between two commas: a token under the scheme for bearers, which an issuer is named in, or something
that no token is found in, since it is blank, has no space in it, is under another scheme, or holds a token that
cannot be read or names no issuer of the registry. -/
inductive Piece (r : Registry) : String → Option Candidate → Prop
  | credential {before scheme gap token after i claims} (hbefore : Text.Blank before)
      (hscheme : Text.sameUpToCase scheme "bearer" = true) (hgap : Text.Blank gap)
      (hafter : Text.Blank after) (hcomma : ',' ∉ token.toList) (htrimmed : Text.Trimmed token.toList)
      (hpeek : Claims.peek token = .ok claims) (hissuer : claims.issuer = some i.identifier)
      (hi : i ∈ r.issuers) :
      Piece r (before ++ scheme ++ " " ++ gap ++ token ++ after) (some ⟨i.shortName, token⟩)
  | blank {text} (h : Text.Blank text) : Piece r text none
  | unspaced {text} (hcomma : ',' ∉ text.toList) (h : ' ' ∉ Text.trim text.toList) : Piece r text none
  | otherScheme {text scheme rest} (hcomma : ',' ∉ text.toList)
      (htext : Text.trim text.toList = scheme ++ ' ' :: rest) (hspace : ' ' ∉ scheme)
      (hscheme : Text.sameUpToCase (String.ofList scheme) "bearer" = false) : Piece r text none
  | unrouted {text scheme rest} (hcomma : ',' ∉ text.toList)
      (htext : Text.trim text.toList = scheme ++ ' ' :: rest) (hspace : ' ' ∉ scheme)
      (h : ∀ claims n, Claims.peek (String.ofList (Text.trim rest)) = .ok claims →
        claims.issuer = some n → ∀ i ∈ r.issuers, i.identifier ≠ n) : Piece r text none

variable {r : Registry} {text token scheme : String} {c : Candidate} {found : Option Candidate}

theorem route?_eq_some_iff : r.route? token = some c ↔ ∃ i ∈ r.issuers, ∃ claims,
    Claims.peek token = .ok claims ∧ claims.issuer = some i.identifier ∧ c = ⟨i.shortName, token⟩ := by
  simp only [route?, Option.bind_eq_bind, Option.bind_eq_some_iff, Option.some.injEq]
  constructor
  · rintro ⟨claims, hpeek, n, hissuer, i, hi, rfl⟩
    obtain ⟨hmem, rfl⟩ := (find?_eq_some_iff r.nodup_identifier).1 hi
    cases hp : Claims.peek token with
    | error e =>
      rw [hp] at hpeek
      cases hpeek
    | ok claims' =>
      rw [hp] at hpeek
      cases hpeek
      exact ⟨i, hmem, claims, rfl, hissuer, rfl⟩
  · rintro ⟨i, hi, claims, hpeek, hissuer, rfl⟩
    rw [hpeek]
    have hfound := (find?_eq_some_iff r.nodup_identifier).2 ⟨hi, rfl⟩
    exact ⟨claims, rfl, i.identifier, hissuer, i, hfound, rfl⟩

theorem solid_of_bearer (h : Text.sameUpToCase scheme "bearer" = true) {c : Char} (hc : c ∈ scheme.toList) :
    Text.isBlank c = false ∧ c ≠ ',' := by
  have hlower : c.toLower ∈ "bearer".toList.map Char.toLower := by
    rw [← eq_of_beq h]
    exact List.mem_map_of_mem hc
  have hletters : ("bearer".toList.map Char.toLower).all (fun d => !Text.isBlank d && d != ',') = true := by
    decide +kernel
  have hsolid := List.all_eq_true.1 hletters _ hlower
  rw [Bool.and_eq_true, Bool.not_eq_true', bne_iff_ne] at hsolid
  constructor
  · by_contra hblank
    rw [Text.toLower_of_isBlank (.inl (by simpa using hblank))] at hsolid
    exact hblank hsolid.1
  · intro hcomma
    rw [Text.toLower_of_isBlank (.inr hcomma)] at hsolid
    exact hsolid.2 hcomma

theorem ne_empty_of_bearer (h : Text.sameUpToCase scheme "bearer" = true) : scheme.toList ≠ [] := by
  intro hempty
  rw [Text.sameUpToCase, hempty] at h
  cases h

theorem ofCredential?_of_cut {cs scheme rest : List Char} (hcs : Text.trim cs = scheme ++ ' ' :: rest)
    (hspace : ' ' ∉ scheme) (hscheme : Text.sameUpToCase (String.ofList scheme) "bearer" = true) :
    r.ofCredential? cs = r.route? (String.ofList (Text.trim rest)) := by
  simp only [ofCredential?, bearer?, hcs, ClaimRequirement.cut?_append hspace, hscheme,
    Option.bind_eq_bind, Option.bind_some, if_true]

theorem ofCredential?_of_otherScheme {cs scheme rest : List Char}
    (hcs : Text.trim cs = scheme ++ ' ' :: rest) (hspace : ' ' ∉ scheme)
    (hscheme : Text.sameUpToCase (String.ofList scheme) "bearer" = false) : r.ofCredential? cs = none := by
  simp [ofCredential?, bearer?, hcs, ClaimRequirement.cut?_append hspace, hscheme]

theorem ofCredential?_of_unspaced {cs : List Char} (h : ' ' ∉ Text.trim cs) : r.ofCredential? cs = none := by
  simp only [ofCredential?, bearer?, ClaimRequirement.cut?_eq_none_iff.2 h, Option.bind_eq_bind,
    Option.bind_none]

theorem comma_not_mem_of_blank (h : Text.Blank text) : ',' ∉ text.toList := by
  intro hcomma
  have hblank : Text.isBlank ',' = true := h ',' hcomma
  exact absurd hblank (by decide)

theorem Piece.reads (h : Piece r text found) : r.ofCredential? text.toList = found ∧ ',' ∉ text.toList := by
  cases h with
  | @credential before scheme gap token after i claims hbefore hscheme hgap hafter hcomma htrimmed hpeek
      hissuer hi =>
    have htoken : token.toList ≠ [] := by
      intro hempty
      rw [String.toList_eq_nil_iff.1 hempty] at hpeek
      cases hpeek
    have htext : (before ++ scheme ++ " " ++ gap ++ token ++ after).toList =
        before.toList ++ (scheme.toList ++ ' ' :: (gap.toList ++ token.toList)) ++ after.toList := by
      simp
    have hends : Text.Trimmed (scheme.toList ++ ' ' :: (gap.toList ++ token.toList)) := by
      constructor
      · intro c hc
        rw [List.head?_append_of_ne_nil _ (ne_empty_of_bearer hscheme)] at hc
        exact (solid_of_bearer hscheme (List.mem_of_head? hc)).1
      · intro c hc
        rw [← List.cons_append, ← List.append_assoc, List.getLast?_append_of_ne_nil _ htoken] at hc
        exact htrimmed.2 c hc
    have htrim := Text.trim_pad hbefore hafter hends
    have hrest : Text.trim (gap.toList ++ token.toList) = token.toList := by
      rw [← List.append_nil (gap.toList ++ token.toList)]
      exact Text.trim_pad hgap (List.forall_mem_nil _) htrimmed
    have hspace : ' ' ∉ scheme.toList := fun h => absurd (solid_of_bearer hscheme h).1 (by decide)
    rw [htext]
    constructor
    · rw [ofCredential?_of_cut htrim hspace (by rwa [String.ofList_toList]), hrest, String.ofList_toList]
      exact route?_eq_some_iff.2 ⟨i, hi, claims, hpeek, hissuer, rfl⟩
    · have hsolid : ',' ∉ scheme.toList := fun h => (solid_of_bearer hscheme h).2 rfl
      simp [comma_not_mem_of_blank hbefore, comma_not_mem_of_blank hgap, comma_not_mem_of_blank hafter,
        hsolid, hcomma]
  | blank h =>
    have htrim : Text.trim (text.toList ++ [] ++ []) = [] :=
      Text.trim_pad h (List.forall_mem_nil _) ⟨nofun, nofun⟩
    rw [List.append_nil, List.append_nil] at htrim
    exact ⟨ofCredential?_of_unspaced (by rw [htrim]; exact List.not_mem_nil), comma_not_mem_of_blank h⟩
  | unspaced hcomma h => exact ⟨ofCredential?_of_unspaced h, hcomma⟩
  | otherScheme hcomma htext hspace hscheme =>
    exact ⟨ofCredential?_of_otherScheme htext hspace hscheme, hcomma⟩
  | @unrouted _ scheme rest hcomma htext hspace h =>
    refine ⟨?_, hcomma⟩
    cases hscheme : Text.sameUpToCase (String.ofList scheme) "bearer" with
    | false => exact ofCredential?_of_otherScheme htext hspace hscheme
    | true =>
      rw [ofCredential?_of_cut htext hspace hscheme, Option.eq_none_iff_forall_ne_some]
      intro c hc
      obtain ⟨i, hi, claims, hpeek, hissuer, -⟩ := route?_eq_some_iff.1 hc
      exact h claims _ hpeek hissuer i hi rfl

theorem exists_piece (r : Registry) (hcomma : ',' ∉ text.toList) : ∃ found, Piece r text found := by
  by_cases hspace : ' ' ∈ Text.trim text.toList
  · obtain ⟨scheme, rest, htext, hscheme⟩ := List.eq_append_cons_of_mem hspace
    cases hbearer : Text.sameUpToCase (String.ofList scheme) "bearer" with
    | false => exact ⟨none, .otherScheme hcomma htext hscheme hbearer⟩
    | true =>
      cases hroute : r.route? (String.ofList (Text.trim rest)) with
      | none =>
        refine ⟨none, .unrouted hcomma htext hscheme fun claims n hpeek hissuer i hi hn => ?_⟩
        have hsome := route?_eq_some_iff.2 ⟨i, hi, claims, hpeek, hn ▸ hissuer, rfl⟩
        cases hroute.symm.trans hsome
      | some c =>
        obtain ⟨i, hi, claims, hpeek, hissuer, -⟩ := route?_eq_some_iff.1 hroute
        obtain ⟨before, after, hpad, hbefore, hafter⟩ := Text.exists_pad text.toList
        obtain ⟨gap, after', hpad', hgap, hafter'⟩ := Text.exists_pad rest
        have hpieces : text = String.ofList before ++ String.ofList scheme ++ " " ++ String.ofList gap ++
            String.ofList (Text.trim rest) ++ String.ofList (after' ++ after) := by
          rw [← String.toList_inj, hpad, htext]
          nth_rewrite 1 [hpad']
          simp
        have hafters : ∀ c ∈ after' ++ after, Text.isBlank c = true :=
          List.forall_mem_append.2 ⟨hafter', hafter⟩
        have htoken : ',' ∉ Text.trim rest := by
          intro h
          refine hcomma ?_
          rw [hpieces]
          simp [h]
        rw [hpieces]
        exact ⟨_, .credential (by simpa [Text.Blank] using hbefore) hbearer (by simpa [Text.Blank] using hgap)
          (by simpa [Text.Blank] using hafters) (by simpa using htoken)
          (by rw [String.toList_ofList]; exact Text.trimmed_trim rest) hpeek hissuer hi⟩
  · exact ⟨none, .unspaced hcomma hspace⟩

theorem ofHeader_append (r : Registry) (a b : String) :
    r.ofHeader (a ++ "," ++ b) = r.ofHeader a ++ r.ofHeader b := by
  have htext : (a ++ "," ++ b).toList = a.toList ++ ',' :: b.toList := by simp
  rw [ofHeader, htext, List.splitOn_append_cons_self, List.filterMap_append]
  rfl

theorem ofHeader_intercalate {pieces : List (String × Option Candidate)}
    (h : ∀ p ∈ pieces, r.Piece p.1 p.2) :
    r.ofHeader (",".intercalate (pieces.map Prod.fst)) = pieces.filterMap Prod.snd :=
  Text.filterMap_splitOn_intercalate rfl rfl fun p hp => (h p hp).reads

/-- The tokens of a header are those of its pieces. They are found piece by piece, in order and as often as they
are sent, each with the short name of the issuer that it names; nothing is found in the other pieces, and a text
without a comma is always a piece of one kind. -/
theorem ofHeader_pieces (r : Registry) :
    (∀ a b, r.ofHeader (a ++ "," ++ b) = r.ofHeader a ++ r.ofHeader b) ∧
    (∀ text, ∀ c ∈ r.ofHeader text, ∃ i ∈ r.issuers, i.shortName = c.shortName ∧
      ∃ claims, Claims.peek c.token = .ok claims ∧ claims.issuer = some i.identifier) ∧
    (∀ pieces : List (String × Option Candidate), (∀ p ∈ pieces, r.Piece p.1 p.2) →
      r.ofHeader (",".intercalate (pieces.map Prod.fst)) = pieces.filterMap Prod.snd) ∧
    ∀ text : String, ',' ∉ text.toList → ∃ found, r.Piece text found := by
  refine ⟨r.ofHeader_append, ?_, fun pieces h => ofHeader_intercalate h, fun text h => r.exists_piece h⟩
  intro text c hc
  obtain ⟨i, claims, hi, hpeek, hissuer⟩ := mem_ofHeader hc
  obtain ⟨hmem, hname⟩ := mem_of_byShortName? hi
  exact ⟨i, hmem, hname, claims, hpeek, hissuer⟩

end Registry

namespace Sample

def padded : String × Option Candidate :=
  (" " ++ "bEaReR" ++ " " ++ "\t" ++ token.encoded ++ " ", some ⟨"a", token.encoded⟩)

def mixed : List (String × Option Candidate) :=
  [padded, ("  ", none), ("garbage", none), ("Basic dXNlcg", none), ("Bearer not-a-jwt", none), padded]

set_option maxRecDepth 10000 in
theorem padded_piece : registry.Piece padded.1 padded.2 := by
  have hletters : token.encoded.toList = letters := String.toList_ofList
  have hcomma : ',' ∉ letters := by decide +kernel
  have htrimmed : Text.trim letters = letters := by decide +kernel
  rw [← hletters] at hcomma htrimmed
  exact .credential (i := issuer) (by decide +kernel) (by decide) (by decide +kernel) (by decide +kernel)
    hcomma (htrimmed ▸ Text.trimmed_trim _) token_peek rfl (List.mem_singleton_self _)

theorem mixed_pieces : ∀ p ∈ mixed, registry.Piece p.1 p.2 := by
  have hblank : registry.Piece "  " none := .blank (by decide +kernel)
  have hunspaced : registry.Piece "garbage" none := .unspaced (by decide) (by decide +kernel)
  have hother : registry.Piece "Basic dXNlcg" none := by
    have htext : Text.trim "Basic dXNlcg".toList = "Basic".toList ++ ' ' :: "dXNlcg".toList := by
      decide +kernel
    exact .otherScheme (by decide) htext (by decide) (by decide)
  have hunrouted : registry.Piece "Bearer not-a-jwt" none := by
    have htext : Text.trim "Bearer not-a-jwt".toList = "Bearer".toList ++ ' ' :: "not-a-jwt".toList := by
      decide +kernel
    refine .unrouted (by decide) htext (by decide) fun claims n hpeek => ?_
    cases hpeek
  simp only [mixed, List.forall_mem_cons]
  exact ⟨padded_piece, hblank, hunspaced, hother, hunrouted, padded_piece, List.forall_mem_nil _⟩

theorem ofHeader_pieces_mixed :
    (∀ p ∈ mixed, registry.Piece p.1 p.2) ∧
      registry.ofHeader (",".intercalate (mixed.map Prod.fst)) =
        [⟨"a", token.encoded⟩, ⟨"a", token.encoded⟩] ∧
      (∃ i ∈ registry.issuers, i.shortName = "a" ∧
        ∃ claims, Claims.peek token.encoded = .ok claims ∧ claims.issuer = some i.identifier) ∧
      ',' ∉ "garbage".toList ∧ ∃ found, registry.Piece "garbage" found := by
  obtain ⟨-, hsound, hpieces, hkinds⟩ := Registry.ofHeader_pieces registry
  have hfound : registry.ofHeader (",".intercalate (mixed.map Prod.fst)) =
      [⟨"a", token.encoded⟩, ⟨"a", token.encoded⟩] := hpieces mixed mixed_pieces
  have hmem : (⟨"a", token.encoded⟩ : Candidate) ∈
      registry.ofHeader (",".intercalate (mixed.map Prod.fst)) := by
    rw [hfound]
    exact List.mem_cons_self
  have hcomma : ',' ∉ "garbage".toList := by decide
  exact ⟨mixed_pieces, hfound, hsound _ _ hmem, hcomma, hkinds _ hcomma⟩

end Sample
end BearerTrust

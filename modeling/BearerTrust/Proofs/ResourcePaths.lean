import BearerTrust.Client.Settings
import BearerTrust.Proofs.JsonReading
import BearerTrust.Proofs.NameOrder
import BearerTrust.Proofs.TextPieces
import Mathlib.Data.List.DropRight

namespace BearerTrust

namespace ClientSettings

def pathOf (names : List (List Char)) : List Char := names.flatMap ('/' :: ·)

variable {ts us : List (List Char)}

theorem pathOf_append (ts us : List (List Char)) : pathOf (ts ++ us) = pathOf ts ++ pathOf us :=
  List.flatMap_append

theorem pathOf_starts (ts : List (List Char)) : pathOf ts = [] ∨ (pathOf ts).head? = some '/' := by
  cases ts with
  | nil => exact .inl rfl
  | cons t ts => exact .inr rfl

theorem pathOf_eq_intercalate (hts : ts ≠ []) : pathOf ts = '/' :: ['/'].intercalate ts := by
  obtain ⟨t, ts, rfl⟩ := List.exists_cons_of_ne_nil hts
  induction ts generalizing t with
  | nil => simp [pathOf]
  | cons u ts ih =>
    rw [List.intercalate_cons_cons, List.append_assoc, List.singleton_append,
      ← ih u (List.cons_ne_nil u ts)]
    rfl

theorem pathOf_splitOn (cs : List Char) : pathOf (cs.splitOn '/') = '/' :: cs := by
  rw [pathOf_eq_intercalate (List.splitOn_ne_nil '/' cs), List.intercalate_splitOn]

theorem pathOf_prefix_iff (hts : ∀ t ∈ ts, '/' ∉ t) (hus : ∀ u ∈ us, '/' ∉ u) :
    (∃ rest, pathOf us = pathOf ts ++ rest ∧ (rest = [] ∨ rest.head? = some '/')) ↔ ts <+: us := by
  induction ts generalizing us with
  | nil => exact iff_of_true ⟨pathOf us, rfl, pathOf_starts us⟩ List.nil_prefix
  | cons t ts ih =>
    cases us with
    | nil =>
      refine iff_of_false ?_ (by simp)
      rintro ⟨rest, h, -⟩
      cases h
    | cons u us =>
      obtain ⟨ht, hts⟩ := List.forall_mem_cons.1 hts
      obtain ⟨hu, hus⟩ := List.forall_mem_cons.1 hus
      rw [List.cons_prefix_cons, ← ih hts hus]
      have hcons (t : List Char) (ts : List (List Char)) : pathOf (t :: ts) = '/' :: (t ++ pathOf ts) := rfl
      constructor
      · rintro ⟨rest, h, hrest⟩
        rw [hcons, hcons, List.cons_append, List.cons.injEq, List.append_assoc] at h
        have hbelow : pathOf ts ++ rest = [] ∨ (pathOf ts ++ rest).head? = some '/' := by
          cases ts with
          | nil => exact hrest
          | cons => exact .inr rfl
        obtain ⟨rfl, hus⟩ := Text.append_inj_of_mark hu ht (pathOf_starts us) hbelow h.2
        exact ⟨rfl, rest, hus, hrest⟩
      · rintro ⟨rfl, rest, h, hrest⟩
        exact ⟨rest, by rw [hcons, hcons, h, List.cons_append, List.append_assoc], hrest⟩

theorem trimSlashes_append {cs slashes : List Char} (h : ∀ c ∈ slashes, c = '/') :
    trimSlashes (cs ++ slashes) = trimSlashes cs := by
  have hall : ∀ c ∈ slashes.reverse, decide (c = '/') = true :=
    fun c hc => decide_eq_true (h c (List.mem_reverse.1 hc))
  rw [trimSlashes, List.reverse_append, List.dropWhile_append_of_pos hall, trimSlashes]

theorem trimSlashes_eq_self {cs : List Char} (h : cs.getLast? ≠ some '/') : trimSlashes cs = cs := by
  rcases List.eq_nil_or_concat cs with rfl | ⟨cs, c, rfl⟩
  · rfl
  · have hc : c ≠ '/' := by simpa using h
    simp [trimSlashes, hc]

theorem trimSlashes_pathOf (hts : ∀ t ∈ ts, '/' ∉ t) :
    trimSlashes (pathOf ts) = pathOf (ts.rdropWhile List.isEmpty) := by
  induction ts using List.reverseRecOn with
  | nil => rfl
  | append_singleton ts t ih =>
    have hlast : pathOf [t] = '/' :: t := List.append_nil _
    obtain ⟨hbefore, ht⟩ := List.forall_mem_append.1 hts
    cases t with
    | nil =>
      rw [List.rdropWhile_concat_pos _ _ _ rfl, pathOf_append, ← ih hbefore]
      exact trimSlashes_append (by simp [hlast])
    | cons c t =>
      rw [List.rdropWhile_concat_neg _ _ _ (by simp), trimSlashes_eq_self]
      rw [pathOf_append, hlast, List.getLast?_append_of_ne_nil _ (List.cons_ne_nil _ _), List.getLast?_cons_cons]
      exact fun hmem => ht _ (List.mem_singleton_self _) (List.mem_of_getLast? hmem)

theorem isUnder_iff {resource path : String} : isUnder resource path = true ↔
    ∃ rest, path.toList = trimSlashes resource.toList ++ rest ∧ (rest = [] ∨ rest.head? = some '/') := by
  simp only [isUnder, Bool.and_eq_true, List.isPrefixOf_iff_prefix, Bool.or_eq_true, List.isEmpty_iff,
    beq_iff_eq]
  constructor
  · rintro ⟨⟨rest, hrest⟩, h⟩
    refine ⟨rest, hrest.symm, ?_⟩
    rwa [← hrest, List.drop_left] at h
  · rintro ⟨rest, hrest, h⟩
    refine ⟨⟨rest, hrest.symm⟩, ?_⟩
    rwa [hrest, List.drop_left]

end ClientSettings

namespace Url

/-- The names between the slashes of a path that starts with one. -/
def pathSegments (u : Url) : List (List Char) := u.pathText.toList.tail.splitOn '/'

def Rooted (u : Url) : Prop := u.pathText.toList.head? = some '/'

structure SameOrigin (u v : Url) : Prop where
  scheme : u.scheme = v.scheme
  host : u.host.map Host.text = v.host.map Host.text
  port : (u.port <|> defaultPort? u.scheme) = (v.port <|> defaultPort? v.scheme)

variable {u v w : Url}

theorem SameOrigin.refl (u : Url) : u.SameOrigin u := ⟨rfl, rfl, rfl⟩

theorem SameOrigin.symm (h : u.SameOrigin v) : v.SameOrigin u := ⟨h.scheme.symm, h.host.symm, h.port.symm⟩

theorem SameOrigin.trans (h : u.SameOrigin v) (h' : v.SameOrigin w) : u.SameOrigin w :=
  ⟨h.scheme.trans h'.scheme, h.host.trans h'.host, h.port.trans h'.port⟩

/-- The names of a path without the empty ones at its end. -/
def topSegments (u : Url) : List (List Char) := u.pathSegments.rdropWhile List.isEmpty

theorem pathText_eq_pathOf (h : u.Rooted) : u.pathText.toList = ClientSettings.pathOf u.pathSegments := by
  obtain ⟨cs, hcs⟩ := List.head?_eq_some_iff.1 h
  rw [pathSegments, ClientSettings.pathOf_splitOn, hcs, List.tail_cons]

theorem pathSegments_of_segments {names : List String} (h : u.path = .segments names) (hne : names ≠ [])
    (hnames : ∀ n ∈ names, '/' ∉ n.toList) : u.pathSegments = names.map String.toList := by
  have hpath : u.pathText.toList = ClientSettings.pathOf (names.map String.toList) := by
    rw [pathText, h, Path.text, String.toList_join, List.flatMap_map, ClientSettings.pathOf, List.flatMap_map]
    simp
  have hne' : names.map String.toList ≠ [] := mt List.map_eq_nil_iff.1 hne
  rw [pathSegments, hpath, ClientSettings.pathOf_eq_intercalate hne', List.tail_cons,
    List.splitOn_intercalate '/' (by simpa using hnames) hne']

theorem not_mem_of_mem_pathSegments : ∀ n ∈ u.pathSegments, '/' ∉ n :=
  fun _ hn => Text.not_mem_of_mem_splitOn hn

theorem topSegments_prefix (u : Url) : u.topSegments <+: u.pathSegments := List.rdropWhile_prefix _ _

theorem isUnder_pathText_iff (hu : u.Rooted) (hv : v.Rooted) :
    ClientSettings.isUnder u.pathText v.pathText = true ↔ u.topSegments <+: v.pathSegments := by
  rw [ClientSettings.isUnder_iff, pathText_eq_pathOf hu, pathText_eq_pathOf hv,
    ClientSettings.trimSlashes_pathOf not_mem_of_mem_pathSegments]
  exact ClientSettings.pathOf_prefix_iff
    (fun n hn => not_mem_of_mem_pathSegments n (u.topSegments_prefix.subset hn)) not_mem_of_mem_pathSegments

theorem topSegments_prefix_topSegments (h : u.topSegments <+: v.pathSegments) :
    u.topSegments <+: v.topSegments := by
  unfold topSegments at h ⊢
  generalize v.pathSegments = vs at h ⊢
  induction vs using List.reverseRecOn with
  | nil => exact h
  | append_singleton vs n ih =>
    by_cases hn : n.isEmpty = true
    · rw [List.rdropWhile_concat_pos _ _ _ hn]
      rcases List.prefix_concat_iff.1 h with heq | hprefix
      · have hne : u.pathSegments.rdropWhile List.isEmpty ≠ [] := by
          rw [heq]
          simp
        refine absurd hn ?_
        have hlast := List.rdropWhile_last_not _ _ hne
        simpa [heq] using hlast
      · exact ih hprefix
    · rwa [List.rdropWhile_concat_neg _ _ _ hn]

theorem resolveSegments_ne_nil {scheme : String} {done : List String} {ss : List (List Char)} (h : ss ≠ []) :
    resolveSegments scheme done ss ≠ [] := by
  induction ss generalizing done with
  | nil => exact absurd rfl h
  | cons s ss ih =>
    cases ss with
    | nil =>
      unfold resolveSegments
      split_ifs <;> simp [resolveSegments]
    | cons t ss =>
      unfold resolveSegments
      split_ifs <;> exact ih (List.cons_ne_nil _ _)

theorem segments_ne_nil {scheme : String} (h : isSpecial scheme = true) (cs : List Char) :
    segments scheme cs ≠ [] := by
  unfold segments
  cases cs with
  | nil =>
    rw [h]
    exact List.cons_ne_nil _ _
  | cons c cs => exact resolveSegments_ne_nil (List.splitOnP_ne_nil _ _)

theorem rooted_of_segments {names : List String} (h : u.path = .segments names) (hne : names ≠ []) :
    u.Rooted := by
  obtain ⟨n, ns, rfl⟩ := List.exists_cons_of_ne_nil hne
  rw [Rooted, pathText, h, Path.text]
  simp

theorem path_of_place? {scheme : String} (hspecial : isSpecial scheme = true) (hfile : scheme ≠ "file")
    {cs : List Char} {a : Authority} {path : Path} (h : place? scheme cs = some (a, path)) :
    ∃ rest, path = .segments (segments scheme rest) := by
  unfold place? at h
  rw [if_neg hfile, if_pos hspecial] at h
  obtain ⟨b, -, h⟩ := Option.bind_eq_some_iff.1 h
  cases h
  exact ⟨_, rfl⟩

theorem rooted_of_parse {s : String} (h : parse? s = some u) (hweb : u.scheme = "http" ∨ u.scheme = "https") :
    u.Rooted := by
  simp only [parse?, Option.bind_eq_bind, Option.bind_eq_some_iff] at h
  obtain ⟨⟨scheme, rest⟩, -, ⟨a, path⟩, hplace, h⟩ := h
  cases h
  have hspecial : isSpecial scheme = true := by
    rcases hweb with rfl | rfl <;> decide
  have hfile : scheme ≠ "file" := by
    rcases hweb with rfl | rfl <;> decide
  obtain ⟨cs, rfl⟩ := path_of_place? hspecial hfile hplace
  exact rooted_of_segments rfl (segments_ne_nil hspecial cs)

end Url

namespace ClientSettings

variable {c d : ClientSettings} {r u v : Url}

theorem serves_iff (hc : c.resourceUrl = some r) :
    c.serves u = true ↔ r.SameOrigin u ∧ isUnder r.pathText u.pathText = true := by
  simp only [serves, hc, Bool.and_eq_true, beq_iff_eq]
  constructor
  · rintro ⟨⟨⟨hscheme, hhost⟩, hport⟩, hunder⟩
    exact ⟨⟨hscheme, hhost, hport⟩, hunder⟩
  · rintro ⟨⟨hscheme, hhost, hport⟩, hunder⟩
    exact ⟨⟨⟨hscheme, hhost⟩, hport⟩, hunder⟩

theorem serves_segments (hc : c.resourceUrl = some r) (hr : r.Rooted) (hu : u.Rooted) :
    c.serves u = true ↔ r.SameOrigin u ∧ r.topSegments <+: u.pathSegments := by
  rw [serves_iff hc, Url.isUnder_pathText_iff hr hu]

theorem serves_self (hc : c.resourceUrl = some r) (hr : r.Rooted) : c.serves r = true :=
  (serves_segments hc hr hr).2 ⟨.refl r, r.topSegments_prefix⟩

theorem serves_trans (hc : c.resourceUrl = some r) (hd : d.resourceUrl = some v) (hr : r.Rooted) (hv : v.Rooted)
    (hu : u.Rooted) (h : c.serves v = true) (h' : d.serves u = true) : c.serves u = true := by
  rw [serves_segments hc hr hv] at h
  rw [serves_segments hd hv hu] at h'
  exact (serves_segments hc hr hu).2 ⟨h.1.trans h'.1, (Url.topSegments_prefix_topSegments h.2).trans h'.2⟩

theorem isUnder_slashes {resource resource' path : String} {slashes : List Char} (h : ∀ ch ∈ slashes, ch = '/')
    (hresource : resource'.toList = resource.toList ++ slashes) :
    isUnder resource' path = isUnder resource path := by
  rw [isUnder, hresource, trimSlashes_append h, isUnder]

theorem serves_slashes {slashes : String} (horigin : v.SameOrigin r) (htext : v.pathText = r.pathText ++ slashes)
    (hslashes : ∀ ch ∈ slashes.toList, ch = '/') (c : ClientSettings) (u : Url) :
    { c with resourceUrl := some v }.serves u = { c with resourceUrl := some r }.serves u := by
  rw [Bool.eq_iff_iff, serves_iff rfl, serves_iff rfl, isUnder_slashes hslashes (htext ▸ String.toList_append)]
  exact and_congr_left fun _ => ⟨horigin.symm.trans, horigin.trans⟩

end ClientSettings

namespace ClientRegistrations

/-- The names stand in ascending order of their octets, as in all configurations. -/
def Ordered (r : ClientRegistrations) : Prop := r.entries.Pairwise fun x y => Text.utf8 x.1 < Text.utf8 y.1

variable {r : ClientRegistrations} {u : Url} {name : String} {c : ClientSettings}

theorem Ordered.insert (h : r.Ordered) (name : String) (c : ClientSettings) : (r.insert name c).Ordered :=
  Table.pairwise_insertSorted h name c

theorem names_of_readEntries {ms : Json.Members} {entries : List (String × ClientSettings)}
    (h : readEntries (.object ms) = some entries) : entries.map Prod.fst = ms.map Prod.fst := by
  replace h : ms.mapM (fun m => (ClientSettings.ofJson? m.2).map fun c => (m.1, c)) = some entries := h
  induction ms generalizing entries with
  | nil =>
    cases h
    rfl
  | cons m ms ih =>
    simp only [List.mapM_cons, Option.bind_eq_bind, Option.bind_eq_some_iff, Option.map_eq_some_iff,
      Option.pure_def, Option.some.injEq] at h
    obtain ⟨_, ⟨c, -, rfl⟩, rest, hrest, rfl⟩ := h
    rw [List.map_cons, List.map_cons, ih hrest]

theorem ordered_of_readEntries {v : Json} (hv : v.InOrder) {entries : List (String × ClientSettings)}
    (h : readEntries v = some entries) : Ordered ⟨entries⟩ := by
  cases hv with
  | null | bool | number | string | array => cases h
  | @object ms _ hsorted =>
    have hnames : (entries.map Prod.fst).Pairwise (· < ·) := by
      rw [names_of_readEntries h]
      exact hsorted
    exact (List.pairwise_map.1 hnames).imp Text.utf8_lt

theorem inOrder_of_field {names : List String} {v x : Json} {fields : Json.Record} {n : String} (hv : v.InOrder)
    (h : Json.Record.ofJson? names v = some fields) (hx : fields.get? n = some x) : x.InOrder := by
  have hmem {ms : List (String × Json)} (hx : ms.lookup n = some x) : (n, x) ∈ ms := by
    obtain ⟨before, after, rfl, -⟩ := List.lookup_eq_some_iff.1 hx
    simp
  cases hv with
  | null | bool | number | string => cases h
  | object hms =>
    cases h
    exact hms _ (hmem hx)
  | @array xs hxs =>
    replace h : (if xs.length ≤ names.length then some (⟨names.zip xs, false⟩ : Json.Record) else none) =
      some fields := h
    split at h
    · cases h
      exact hxs _ (List.of_mem_zip (hmem hx)).2
    · cases h

theorem ordered_of_parse {bs : Bytes} {v : Json} (hv : Json.parse? bs = some v) (h : ofJson? v = some r) :
    r.Ordered := by
  simp only [ofJson?, Option.bind_eq_bind, Option.bind_eq_some_iff, Option.some.injEq] at h
  obtain ⟨fields, hfields, entries, hentries, rfl⟩ := h
  unfold Json.Record.withDefault at hentries
  split at hentries
  · cases hentries
    exact .nil
  · next x hx => exact ordered_of_readEntries (inOrder_of_field (Json.inOrder_of_parse hv) hfields hx) hentries

theorem forResource?_eq_some_iff (h : r.Ordered) : r.forResource? u = some (name, c) ↔
    (name, c) ∈ r.entries ∧ c.serves u = true ∧
      ∀ e ∈ r.entries, e.2.serves u = true → e = (name, c) ∨ Text.utf8 name < Text.utf8 e.1 := by
  unfold Ordered at h
  rw [forResource?, List.find?_eq_some_iff_append]
  constructor
  · rintro ⟨hserves, before, after, hentries, hbefore⟩
    rw [hentries] at h ⊢
    refine ⟨by simp, hserves, fun e he hserved => ?_⟩
    rcases List.mem_append.1 he with he | he
    · have hnot := hbefore e he
      rw [hserved] at hnot
      cases hnot
    · obtain ⟨hafter, -⟩ := List.pairwise_cons.1 (List.pairwise_append.1 h).2.1
      exact (List.mem_cons.1 he).imp_right (hafter e)
  · rintro ⟨hmem, hserves, hleast⟩
    obtain ⟨before, after, hentries⟩ := List.append_of_mem hmem
    refine ⟨hserves, before, after, hentries, fun e he => ?_⟩
    rw [Bool.not_eq_true', Bool.eq_false_iff]
    intro hserved
    rw [hentries] at h hleast
    have hlt := (List.pairwise_append.1 h).2.2 e he (name, c) List.mem_cons_self
    rcases hleast e (List.mem_append_left _ he) hserved with rfl | hgt
    · exact List.lt_irrefl _ hlt
    · exact List.lt_irrefl _ (List.lt_trans hlt hgt)

theorem forResource?_eq_none_iff : r.forResource? u = none ↔ ∀ e ∈ r.entries, e.2.serves u = false := by
  simp [forResource?]

/-- For locations whose paths start with a slash, as all do that are read under `http` or `https`, a registration
serves those of the same origin whose names go on from the names of its resource, empty names at the end of it
aside. So it serves its own resource and whatever is served for a location that it serves; neither slashes at the
end of a resource nor the query and the fragment of a location count. In a configuration, the names of which are
in the order of their octets, the least name among those that serve a location is taken, if there is one. -/
theorem serves_by_segments :
    (∀ s u, Url.parse? s = some u → u.scheme = "http" ∨ u.scheme = "https" → u.Rooted) ∧
    (∀ (c : ClientSettings) (r u : Url), c.resourceUrl = some r → r.Rooted → u.Rooted →
      (c.serves u = true ↔ r.SameOrigin u ∧ r.pathSegments.rdropWhile List.isEmpty <+: u.pathSegments) ∧
      c.serves r = true ∧
      ∀ (d : ClientSettings) (v : Url), d.resourceUrl = some v → v.Rooted → c.serves v = true →
        d.serves u = true → c.serves u = true) ∧
    (∀ (c : ClientSettings) (r r' : Url) (slashes : String), r'.SameOrigin r →
      r'.pathText = r.pathText ++ slashes → (∀ ch ∈ slashes.toList, ch = '/') → ∀ u,
        { c with resourceUrl := some r' }.serves u = { c with resourceUrl := some r }.serves u) ∧
    (∀ (c : ClientSettings) (u : Url) (query fragment : Option String),
      c.serves { u with query, fragment } = c.serves u) ∧
    (({} : ClientRegistrations).Ordered ∧
      (∀ r : ClientRegistrations, r.Ordered → ∀ n c, (r.insert n c).Ordered) ∧
      ∀ bs v r, Json.parse? bs = some v → ofJson? v = some r → r.Ordered) ∧
    ∀ (r : ClientRegistrations) (u : Url), r.Ordered →
      (∀ name c, r.forResource? u = some (name, c) ↔ (name, c) ∈ r.entries ∧ c.serves u = true ∧
        ∀ e ∈ r.entries, e.2.serves u = true → e = (name, c) ∨ Text.utf8 name < Text.utf8 e.1) ∧
      (r.forResource? u = none ↔ ∀ e ∈ r.entries, e.2.serves u = false) := by
  refine ⟨fun _ _ => Url.rooted_of_parse, fun c r u hc hr hu => ⟨?_, ?_, ?_⟩, ?_, fun _ _ _ _ => rfl,
    ⟨.nil, fun _ h n c => h.insert n c, fun _ _ _ => ordered_of_parse⟩, ?_⟩
  · exact ClientSettings.serves_segments hc hr hu
  · exact ClientSettings.serves_self hc hr
  · intro d v hd hv h h'
    exact ClientSettings.serves_trans hc hd hr hv hu h h'
  · intro c r r' slashes horigin htext hslashes u
    exact ClientSettings.serves_slashes horigin htext hslashes c u
  · intro r u h
    exact ⟨fun _ _ => forResource?_eq_some_iff h, forResource?_eq_none_iff⟩

end ClientRegistrations

namespace Sample

def localhost (names : List String) : Url :=
  { scheme := "https", host := some (.ipv6 [0, 0, 0, 0, 0, 0, 0, 1]), path := .segments names }

def clientOf (resource : Url) : ClientSettings :=
  { grantType := .clientCredentials, authentication := .basic "id" "secret", resourceUrl := some resource }

def three : ClientRegistrations :=
  ((({} : ClientRegistrations).insert "c" (clientOf (localhost [""]))).insert
    "a" (clientOf (localhost ["ap"]))).insert "b" (clientOf (localhost ["api", ""]))

theorem serves_by_segments_three :
    Url.parse? "https://[::1]/api//x?q" = some { localhost ["api", "", "x"] with query := some "q" } ∧
    (localhost ["api", "", "x"]).Rooted ∧ three.Ordered ∧
    three.forResource? (localhost ["api", "", "x"]) = some ("b", clientOf (localhost ["api", ""])) ∧
    (∀ e ∈ three.entries, e.2.serves (localhost ["api", "", "x"]) = true →
      e = ("b", clientOf (localhost ["api", ""])) ∨ Text.utf8 "b" < Text.utf8 e.1) ∧
    (clientOf (localhost [""])).serves (localhost ["api", "", "x"]) = true ∧
    three.forResource? ({ localhost ["api", "", "x"] with query := some "q" }) =
      some ("b", clientOf (localhost ["api", ""])) := by
  obtain ⟨hrooted, hclients, -, hquery, ⟨hempty, hinsert, -⟩, hleast⟩ := ClientRegistrations.serves_by_segments
  have hparse : Url.parse? "https://[::1]/api//x?q" =
      some { localhost ["api", "", "x"] with query := some "q" } := by
    decide +kernel
  have hr : (localhost [""]).Rooted := Url.rooted_of_segments rfl (List.cons_ne_nil _ _)
  have hu : (localhost ["api", "", "x"]).Rooted :=
    hrooted _ { localhost ["api", "", "x"] with query := some "q" } hparse (.inr rfl)
  have hordered : three.Ordered := hinsert _ (hinsert _ (hinsert _ hempty _ _) _ _) _ _
  have hfound : three.forResource? (localhost ["api", "", "x"]) =
      some ("b", clientOf (localhost ["api", ""])) := by
    decide +kernel
  have hsegments : (localhost [""]).pathSegments.rdropWhile List.isEmpty <+:
      (localhost ["api", "", "x"]).pathSegments := by
    rw [Url.pathSegments_of_segments rfl (by decide) (by decide),
      Url.pathSegments_of_segments rfl (by decide) (by decide)]
    decide
  have hserves : (clientOf (localhost [""])).serves (localhost ["api", "", "x"]) = true :=
    (hclients _ _ _ rfl hr hu).1.2 ⟨⟨rfl, rfl, rfl⟩, hsegments⟩
  obtain ⟨-, -, hothers⟩ := ((hleast three (localhost ["api", "", "x"]) hordered).1 _ _).1 hfound
  refine ⟨hparse, hu, hordered, hfound, hothers, hserves, ?_⟩
  have hsame : three.forResource? { localhost ["api", "", "x"] with query := some "q" } =
      three.forResource? (localhost ["api", "", "x"]) := by
    simp only [ClientRegistrations.forResource?]
    exact congrArg (List.find? · _) (funext fun e => hquery e.2 (localhost ["api", "", "x"]) (some "q") none)
  exact hsame.trans hfound

end Sample
end BearerTrust

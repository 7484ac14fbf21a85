import BearerTrust.Http.Client
import BearerTrust.Proofs.NameOrder
import BearerTrust.Proofs.RegistryBuild
import BearerTrust.Proofs.RetrievalRecord

namespace BearerTrust

/-- The short names stand in ascending order of their octets, as in all settings. -/
def ValidationSettings.Ordered (s : ValidationSettings) : Prop :=
  s.issuers.Pairwise fun x y => Text.utf8 x.1 < Text.utf8 y.1

theorem ValidationSettings.Ordered.withIssuer {s : ValidationSettings} (h : s.Ordered) (n : String)
    (i : IssuerSettings) : (s.withIssuer n i).Ordered :=
  Table.pairwise_insertSorted h n i

theorem ValidationSettings.Ordered.nodup {s : ValidationSettings} (h : s.Ordered) :
    (s.issuers.map Prod.fst).Nodup := by
  refine List.pairwise_map.2 (h.imp fun {x y} hlt heq => ?_)
  rw [heq] at hlt
  exact List.lt_irrefl _ hlt

theorem ValidationSettings.Ordered.around {s : ValidationSettings} (h : s.Ordered)
    {before after : List (String × IssuerSettings)} {n : String} {i : IssuerSettings}
    (hs : s.issuers = before ++ (n, i) :: after) :
    (∀ x ∈ before, Text.utf8 x.1 < Text.utf8 n) ∧ ∀ x ∈ after, Text.utf8 n < Text.utf8 x.1 := by
  rw [Ordered, hs, List.pairwise_append, List.pairwise_cons] at h
  exact ⟨fun x hx => h.2.2 x hx _ List.mem_cons_self, h.2.1.1⟩

namespace Registry

variable {σ : Type}

/-- What finding an issuer comes to, and what is asked for it: nothing without a client, otherwise its
document, which is an answer or not, and has metadata to read or not. -/
inductive Finds (connect : Routing → Except RetrievalError (Retriever σ)) (n : String)
    (s : IssuerSettings) (w : σ) : Except RegistryError TrustedIssuer → Exchanges → σ → Prop
  | unconnected {cause} (h : connect s.routing = .error cause) :
      Finds connect n s w (.error (.retriever n cause)) [] w
  | unavailable {web cause w'} (h : connect s.routing = .ok web)
      (hdocument : web.retrieve s.discoveryUrl w = (.error cause, w')) :
      Finds connect n s w (.error (.metadataUnavailable n (.retrieval cause)))
        [(s.discoveryUrl, .error cause)] w'
  | malformed {web body w'} (h : connect s.routing = .ok web)
      (hdocument : web.retrieve s.discoveryUrl w = (.ok body, w'))
      (hread : IssuerMetadata.parse? body = none) :
      Finds connect n s w (.error (.metadataUnavailable n .malformed)) [(s.discoveryUrl, .ok body)] w'
  | found {web body m w'} (h : connect s.routing = .ok web)
      (hdocument : web.retrieve s.discoveryUrl w = (.ok body, w'))
      (hread : IssuerMetadata.parse? body = some m) :
      Finds connect n s w (.ok (.ofMetadata n s m)) [(s.discoveryUrl, .ok body)] w'

inductive FindsAll (connect : Routing → Except RetrievalError (Retriever σ)) :
    List (String × IssuerSettings) → σ → List TrustedIssuer → Exchanges → σ → Prop
  | nil {w} : FindsAll connect [] w [] [] w
  | cons {n s xs w i es w₁ is es' w'} (h : Finds connect n s w (.ok i) es w₁)
      (hrest : FindsAll connect xs w₁ is es' w') :
      FindsAll connect ((n, s) :: xs) w (i :: is) (es ++ es') w'

/-- Why an issuer cannot join those that were found: it is not found, or its identifier is taken. -/
inductive Bars (connect : Routing → Except RetrievalError (Retriever σ)) (is : List TrustedIssuer)
    (n : String) (s : IssuerSettings) (w : σ) : RegistryError → Exchanges → σ → Prop
  | unfound {e es w'} (h : Finds connect n s w (.error e) es w') : Bars connect is n s w e es w'
  | repeated {i es w'} (h : Finds connect n s w (.ok i) es w')
      (hi : i.identifier ∈ is.map TrustedIssuer.identifier) :
      Bars connect is n s w (.duplicateIssuer i.identifier) es w'

def recorded (connect : Routing → Except RetrievalError (Retriever σ)) (routing : Routing) :
    Except RetrievalError (Retriever (σ × Exchanges)) :=
  (connect routing).map Retriever.recording

variable {connect : Routing → Except RetrievalError (Retriever σ)} {r : Registry}
  {is : List TrustedIssuer} {n : String} {s : IssuerSettings} {xs after : List (String × IssuerSettings)}
  {w w' : σ} {log es : Exchanges} {o : Except RegistryError TrustedIssuer} {i : TrustedIssuer}
  {e : RegistryError}

theorem exists_finds (connect : Routing → Except RetrievalError (Retriever σ)) (n : String)
    (s : IssuerSettings) (w : σ) : ∃ o es w', Finds connect n s w o es w' := by
  cases h : connect s.routing with
  | error cause => exact ⟨_, _, _, .unconnected h⟩
  | ok web =>
    rcases hdocument : web.retrieve s.discoveryUrl w with ⟨cause | body, w'⟩
    · exact ⟨_, _, _, .unavailable h hdocument⟩
    · cases hread : IssuerMetadata.parse? body with
      | none => exact ⟨_, _, _, .malformed h hdocument hread⟩
      | some m => exact ⟨_, _, _, .found h hdocument hread⟩

theorem Finds.eq_ofMetadata (h : Finds connect n s w (.ok i) es w') :
    i.shortName = n ∧ i.settings = s ∧
      ∃ body, es = [(s.discoveryUrl, .ok body)] ∧ IssuerMetadata.parse? body = some i.metadata := by
  cases h with
  | found _ _ hread => exact ⟨rfl, rfl, _, rfl, hread⟩

theorem Finds.places (h : Finds connect n s w o es w') : es.map Prod.fst <+: [s.discoveryUrl] := by
  cases h with
  | unconnected => exact List.nil_prefix
  | unavailable | malformed | found => exact List.prefix_rfl

theorem Bars.places (h : Bars connect is n s w e es w') : es.map Prod.fst <+: [s.discoveryUrl] := by
  cases h with
  | unfound h | repeated h => exact h.places

theorem FindsAll.places (h : FindsAll connect xs w is es w') :
    es.map Prod.fst = xs.map fun x => x.2.discoveryUrl := by
  induction h with
  | nil => rfl
  | cons h _ ih =>
    obtain ⟨-, -, body, rfl, -⟩ := h.eq_ofMetadata
    exact congrArg _ ih

theorem FindsAll.documents (h : FindsAll connect xs w is es w') :
    is.map (fun i => (i.shortName, i.settings)) = xs ∧
      List.Forall₂ (fun i x => ∃ body, x = (i.discoveryUrl, .ok body) ∧
        IssuerMetadata.parse? body = some i.metadata) is es := by
  induction h with
  | nil => exact ⟨rfl, .nil⟩
  | cons h _ ih =>
    obtain ⟨rfl, rfl, body, rfl, hread⟩ := h.eq_ofMetadata
    exact ⟨congrArg _ ih.1, .cons ⟨body, rfl, hread⟩ ih.2⟩

theorem register_recording (web : Retriever σ) (n : String) (s : IssuerSettings) (r : Registry) (w : σ)
    (log : Exchanges) : ∃ log', register web.recording n s r (w, log) =
      ((register web n s r w).1, (register web n s r w).2, log') := by
  unfold register
  split
  · exact ⟨log, rfl⟩
  · refine ⟨log ++ [(s.discoveryUrl, (web.retrieve s.discoveryUrl w).1)], ?_⟩
    rcases hdocument : web.retrieve s.discoveryUrl w with ⟨cause | body, w'⟩
    · simp [discover, Retriever.recording, hdocument]
    · cases hread : IssuerMetadata.parse? body <;>
        simp [discover, Retriever.recording, hdocument, hread]

theorem registerAll_recorded (connect : Routing → Except RetrievalError (Retriever σ))
    (xs : List (String × IssuerSettings)) (r : Registry) (w : σ) (log : Exchanges) :
    registerAll connect xs r w = ((registerAll (recorded connect) xs r (w, log)).1,
      (registerAll (recorded connect) xs r (w, log)).2.1) := by
  induction xs generalizing r w log with
  | nil => rfl
  | cons x xs ih =>
    obtain ⟨n, s⟩ := x
    simp only [registerAll, recorded]
    cases connect s.routing with
    | error cause => rfl
    | ok web =>
      obtain ⟨log', hregister⟩ := register_recording web n s r w log
      simp only [Except.map, hregister]
      rcases register web n s r w with ⟨e | r, w'⟩
      · rfl
      · exact ih r w' log'

theorem add_of_new (hn : i.shortName ∉ r.issuers.map TrustedIssuer.shortName)
    (hi : i.identifier ∉ r.issuers.map TrustedIssuer.identifier) :
    ∃ r', r.add i = .ok r' ∧ r'.issuers = r.issuers ++ [i] := by
  rw [add, dif_neg hn, dif_neg hi]
  exact ⟨_, rfl, rfl⟩

theorem add_of_taken (hn : i.shortName ∉ r.issuers.map TrustedIssuer.shortName)
    (hi : i.identifier ∈ r.issuers.map TrustedIssuer.identifier) :
    r.add i = .error (.duplicateIssuer i.identifier) := by
  rw [add, dif_neg hn, dif_pos hi]

theorem Finds.registerAll_cons (h : Finds connect n s w o es w')
    (hn : n ∉ r.issuers.map TrustedIssuer.shortName) (log : Exchanges)
    (after : List (String × IssuerSettings)) :
    registerAll (recorded connect) ((n, s) :: after) r (w, log) =
      match o >>= (r.add ·) with
      | .error e => (.error e, (w', log ++ es))
      | .ok r => registerAll (recorded connect) after r (w', log ++ es) := by
  have hnew : ¬(r.byShortName? n).isSome := mt byShortName?_isSome_iff.1 hn
  cases h with
  | unconnected h => simp [registerAll, recorded, h, Except.map, bind, Except.bind]
  | unavailable h hdocument =>
    simp [registerAll, recorded, h, Except.map, bind, Except.bind, register, hnew, discover,
      Retriever.recording, hdocument]
  | malformed h hdocument hread =>
    simp [registerAll, recorded, h, Except.map, bind, Except.bind, register, hnew, discover,
      Retriever.recording, hdocument, hread]
  | @found _ _ m _ h hdocument hread =>
    simp only [registerAll, recorded, h, Except.map, bind, Except.bind, register, hnew, discover,
      Retriever.recording, hdocument, hread]
    cases r.add (.ofMetadata n s m) <;> rfl

theorem Bars.registerAll_cons (h : Bars connect r.issuers n s w e es w')
    (hn : n ∉ r.issuers.map TrustedIssuer.shortName) (log : Exchanges)
    (after : List (String × IssuerSettings)) :
    registerAll (recorded connect) ((n, s) :: after) r (w, log) = (.error e, (w', log ++ es)) := by
  cases h with
  | unfound h => exact h.registerAll_cons hn log after
  | repeated h hi =>
    obtain ⟨hname, -⟩ := h.eq_ofMetadata
    have htaken := add_of_taken (hname ▸ hn) hi
    rw [h.registerAll_cons hn log after]
    simp only [bind, Except.bind, htaken]

theorem FindsAll.registerAll_append (h : FindsAll connect xs w is es w')
    (hnames : (r.issuers.map TrustedIssuer.shortName ++ xs.map Prod.fst).Nodup)
    (hids : ((r.issuers ++ is).map TrustedIssuer.identifier).Nodup) (log : Exchanges)
    (after : List (String × IssuerSettings)) :
    ∃ r', r'.issuers = r.issuers ++ is ∧ registerAll (recorded connect) (xs ++ after) r (w, log) =
      registerAll (recorded connect) after r' (w', log ++ es) := by
  induction h generalizing r log with
  | nil => exact ⟨r, (List.append_nil _).symm, by rw [List.append_nil, List.nil_append]⟩
  | @cons n s xs w i es w₁ is es' w' h _ ih =>
    obtain ⟨rfl, -⟩ := h.eq_ofMetadata
    have hn : i.shortName ∉ r.issuers.map TrustedIssuer.shortName := fun hn =>
      (List.nodup_append.1 hnames).2.2 _ hn _ List.mem_cons_self rfl
    have hi : i.identifier ∉ r.issuers.map TrustedIssuer.identifier := fun hi => by
      rw [List.map_append] at hids
      exact (List.nodup_append.1 hids).2.2 _ hi _ List.mem_cons_self rfl
    obtain ⟨r₁, hadd, hr₁⟩ := add_of_new hn hi
    have hcons : r.issuers ++ i :: is = r₁.issuers ++ is := by rw [hr₁, List.append_assoc]; rfl
    rw [hcons] at hids
    have hnames₁ : (r₁.issuers.map TrustedIssuer.shortName ++ xs.map Prod.fst).Nodup := by
      rw [hr₁, List.map_append, List.append_assoc]
      exact hnames
    obtain ⟨r', hr', hrun⟩ := ih hnames₁ hids (log ++ es)
    refine ⟨r', hr'.trans hcons.symm, ?_⟩
    rw [List.cons_append, h.registerAll_cons hn log]
    simp only [bind, Except.bind, hadd]
    rw [hrun, List.append_assoc]

theorem findsAll_or_bars (connect : Routing → Except RetrievalError (Retriever σ))
    (xs : List (String × IssuerSettings)) (w : σ) (present : List TrustedIssuer)
    (hpresent : (present.map TrustedIssuer.identifier).Nodup) :
    (∃ is es w', FindsAll connect xs w is es w' ∧
      ((present ++ is).map TrustedIssuer.identifier).Nodup) ∨
    ∃ before n s after is es w₁ e es' w₂, xs = before ++ (n, s) :: after ∧
      FindsAll connect before w is es w₁ ∧ ((present ++ is).map TrustedIssuer.identifier).Nodup ∧
      Bars connect (present ++ is) n s w₁ e es' w₂ := by
  induction xs generalizing w present with
  | nil => exact .inl ⟨[], [], w, .nil, by rwa [List.append_nil]⟩
  | cons x xs ih =>
    obtain ⟨n, s⟩ := x
    have hbarred {e es w'} (h : Bars connect present n s w e es w') :
        ∃ before m t after is es w₁ e es' w₂, (n, s) :: xs = before ++ (m, t) :: after ∧
          FindsAll connect before w is es w₁ ∧ ((present ++ is).map TrustedIssuer.identifier).Nodup ∧
          Bars connect (present ++ is) m t w₁ e es' w₂ :=
      ⟨[], n, s, xs, [], [], w, e, es, w', rfl, .nil, by rwa [List.append_nil],
        by rwa [List.append_nil]⟩
    obtain ⟨o, es, w₁, h⟩ := exists_finds connect n s w
    match o with
    | .error e => exact .inr (hbarred (.unfound h))
    | .ok i =>
      by_cases hi : i.identifier ∈ present.map TrustedIssuer.identifier
      · exact .inr (hbarred (.repeated h hi))
      · have hpresent' := nodup_map_append hpresent hi
        have hcons (is : List TrustedIssuer) : present ++ [i] ++ is = present ++ i :: is := by simp
        rcases ih w₁ (present ++ [i]) hpresent' with ⟨is, es', w', hall, hids⟩ |
          ⟨before, m, t, after, is, es', w₂, e, es₂, w₃, rfl, hall, hids, hbars⟩
        · rw [hcons] at hids
          exact .inl ⟨i :: is, es ++ es', w', .cons h hall, hids⟩
        · rw [hcons] at hids hbars
          exact .inr ⟨(n, s) :: before, m, t, after, i :: is, es ++ es', w₂, e, es₂, w₃, rfl,
            .cons h hall, hids, hbars⟩

theorem ofSettings_of_findsAll {s : ValidationSettings} (hs : s.Ordered)
    (hall : FindsAll connect s.issuers w is es w') (hids : (is.map TrustedIssuer.identifier).Nodup) :
    ∃ r : Registry, r.issuers = is ∧ ofSettings (recorded connect) s (w, []) = (.ok r, w', es) := by
  obtain ⟨r, hr, hrun⟩ := hall.registerAll_append (r := empty) hs.nodup hids [] []
  rw [List.append_nil] at hrun
  exact ⟨r, hr, hrun⟩

theorem ofSettings_of_bars {s : ValidationSettings} {i : IssuerSettings} {w₁ : σ} {es' : Exchanges}
    (hs : s.Ordered) (hxs : s.issuers = xs ++ (n, i) :: after)
    (hall : FindsAll connect xs w is es w₁) (hids : (is.map TrustedIssuer.identifier).Nodup)
    (hbars : Bars connect is n i w₁ e es' w') :
    ofSettings (recorded connect) s (w, []) = (.error e, w', es ++ es') := by
  have hnames := hs.nodup
  rw [hxs, List.map_append, List.map_cons] at hnames
  obtain ⟨hbefore, -, hapart⟩ := List.nodup_append.1 hnames
  obtain ⟨r, hr, hrun⟩ := hall.registerAll_append (r := empty) hbefore hids [] ((n, i) :: after)
  obtain rfl : r.issuers = is := hr
  have hn : n ∉ r.issuers.map TrustedIssuer.shortName := by
    intro hn
    have hname : n ∈ xs.map Prod.fst := by
      rw [← hall.documents.1, List.map_map]
      exact hn
    exact hapart n hname n List.mem_cons_self rfl
  rw [ofSettings, hxs, hrun, hbars.registerAll_cons hn]
  rfl

/-- Building a registry from settings is all or nothing. It succeeds exactly when all issuers are found, in
the order of their short names, and no two have one identifier; then these are the issuers of the registry,
each with what its own document says. Otherwise the error is that of the least short name whose issuer is
not found or repeats an identifier, and nothing is asked for the names after it. -/
theorem ofSettings_exact (connect : Routing → Except RetrievalError (Retriever σ))
    (s : ValidationSettings) (w : σ) (hs : s.Ordered) :
    (ofSettings connect s w = ((ofSettings (recorded connect) s (w, [])).1,
      (ofSettings (recorded connect) s (w, [])).2.1)) ∧
    ((∃ r, (ofSettings connect s w).1 = .ok r) ↔ ∃ is es w',
      FindsAll connect s.issuers w is es w' ∧ (is.map TrustedIssuer.identifier).Nodup) ∧
    (∀ r w' es, ofSettings (recorded connect) s (w, []) = (.ok r, w', es) →
      FindsAll connect s.issuers w r.issuers es w' ∧
      r.issuers.map (fun i => (i.shortName, i.settings)) = s.issuers ∧
      List.Forall₂ (fun i x => ∃ body, x = (i.discoveryUrl, .ok body) ∧
        IssuerMetadata.parse? body = some i.metadata) r.issuers es) ∧
    ∀ e w' es, ofSettings (recorded connect) s (w, []) = (.error e, w', es) →
      ∃ before n i after is es₁ w₁ es₂, s.issuers = before ++ (n, i) :: after ∧
        (∀ x ∈ before, Text.utf8 x.1 < Text.utf8 n) ∧ (∀ x ∈ after, Text.utf8 n < Text.utf8 x.1) ∧
        FindsAll connect before w is es₁ w₁ ∧ (is.map TrustedIssuer.identifier).Nodup ∧
        Bars connect is n i w₁ e es₂ w' ∧ es = es₁ ++ es₂ ∧
        es.map Prod.fst <+: (before ++ [(n, i)]).map fun x => x.2.discoveryUrl := by
  have hrecorded : ofSettings connect s w = ((ofSettings (recorded connect) s (w, [])).1,
      (ofSettings (recorded connect) s (w, [])).2.1) :=
    registerAll_recorded connect s.issuers empty w []
  have hsplit := findsAll_or_bars connect s.issuers w [] .nil
  refine ⟨hrecorded, ⟨?_, ?_⟩, ?_, ?_⟩
  · rintro ⟨r, hr⟩
    rcases hsplit with hall | ⟨before, n, i, after, is, es, w₁, e, es', w', hxs, hbefore, hids, hbars⟩
    · exact hall
    · rw [hrecorded, ofSettings_of_bars hs hxs hbefore hids hbars] at hr
      cases hr
  · rintro ⟨is, es, w', hall, hids⟩
    obtain ⟨r, -, hrun⟩ := ofSettings_of_findsAll hs hall hids
    rw [hrecorded, hrun]
    exact ⟨r, rfl⟩
  · intro r w' es hr
    rcases hsplit with ⟨is, es₁, w₁, hall, hids⟩ |
      ⟨before, n, i, after, is, es, w₁, e, es', w', hxs, hbefore, hids, hbars⟩
    · obtain ⟨r', hr', hrun⟩ := ofSettings_of_findsAll hs hall hids
      rw [hrun] at hr
      cases hr
      rw [hr']
      exact ⟨hall, hall.documents⟩
    · rw [ofSettings_of_bars hs hxs hbefore hids hbars] at hr
      cases hr
  · intro e w' es he
    rcases hsplit with ⟨is, es₁, w₁, hall, hids⟩ |
      ⟨before, n, i, after, is, es₁, w₁, e₁, es₂, w₂, hxs, hbefore, hids, hbars⟩
    · obtain ⟨r', -, hrun⟩ := ofSettings_of_findsAll hs hall hids
      rw [hrun] at he
      cases he
    · rw [ofSettings_of_bars hs hxs hbefore hids hbars] at he
      cases he
      obtain ⟨hless, hmore⟩ := hs.around hxs
      refine ⟨before, n, i, after, is, es₁, w₁, es₂, hxs, hless, hmore, hbefore, hids, hbars, rfl, ?_⟩
      rw [List.map_append, List.map_append, hbefore.places, List.prefix_append_right_inj]
      exact hbars.places

end Registry

namespace Sample

open Registry

def discoveryDocument : Bytes := "\x7b\"issuer\":\"i\",\"jwks_uri\":\"a:k\"\x7d".toUTF8.toList

def echo : Http.Transport Unit := ⟨fun _ s => (some ⟨200, none, [some discoveryDocument]⟩, s)⟩

def connectEcho (routing : Routing) : Except RetrievalError (Retriever Unit) :=
  (Http.Client.build "" {} routing).map fun c => c.retriever echo

def discoveredAt (n : String) : IssuerSettings := { discoveryUrl := { scheme := "a", path := .rootless n } }

def triplets : ValidationSettings :=
  ((({} : ValidationSettings).withIssuer "c" (discoveredAt "c")).withIssuer "a" (discoveredAt "a")).withIssuer "b"
    (discoveredAt "b")

theorem triplets_ordered : triplets.Ordered :=
  ((ValidationSettings.Ordered.withIssuer (s := {}) .nil _ _).withIssuer _ _).withIssuer _ _

theorem finds_discoveredAt (n m : String) : Finds connectEcho n (discoveredAt m) ()
    (.ok ⟨n, discoveredAt m, ⟨"i", { scheme := "a", path := .rootless "k" }, none⟩⟩)
    [((discoveredAt m).discoveryUrl, .ok discoveryDocument)] () := by
  have hshort : ¬524288 < discoveryDocument.length := by decide +kernel
  have hread (url : Url) : Http.Response.read ⟨200, none, [some discoveryDocument]⟩ url 524288 =
      .ok discoveryDocument := by
    simp [Http.Response.read, Http.readChunks, hshort]
  exact .found rfl (Prod.ext (hread _) rfl) (by decide +kernel)

theorem ofSettings_exact_repeated :
    triplets.Ordered ∧
    ofSettings (recorded connectEcho) triplets ((), []) = (.error (.duplicateIssuer "i"), (),
      [((discoveredAt "a").discoveryUrl, .ok discoveryDocument),
        ((discoveredAt "b").discoveryUrl, .ok discoveryDocument)]) ∧
    (¬∃ is es w', FindsAll connectEcho triplets.issuers () is es w' ∧
      (is.map TrustedIssuer.identifier).Nodup) ∧
    ∃ before n i after is w₁ es, triplets.issuers = before ++ (n, i) :: after ∧
      Bars connectEcho is n i w₁ (.duplicateIssuer "i") es () := by
  have hissuers : triplets.issuers =
      [("a", discoveredAt "a")] ++ ("b", discoveredAt "b") :: [("c", discoveredAt "c")] := rfl
  have hrun : ofSettings (recorded connectEcho) triplets ((), []) = (.error (.duplicateIssuer "i"), (), _) :=
    ofSettings_of_bars triplets_ordered hissuers (.cons (finds_discoveredAt "a" "a") .nil)
      (List.nodup_singleton _) (.repeated (finds_discoveredAt "b" "b") (List.mem_singleton_self _))
  obtain ⟨hrecorded, hiff, -, hstops⟩ := ofSettings_exact connectEcho triplets () triplets_ordered
  obtain ⟨before, n, i, after, is, -, w₁, es, hxs, -, -, -, -, hbars, -⟩ := hstops _ _ _ hrun
  refine ⟨triplets_ordered, hrun, fun h => ?_, before, n, i, after, is, w₁, es, hxs, hbars⟩
  obtain ⟨r, hr⟩ := hiff.2 h
  rw [hrecorded, hrun] at hr
  cases hr

end Sample
end BearerTrust

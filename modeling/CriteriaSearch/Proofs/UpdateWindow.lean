import CriteriaSearch.Proofs.Pagination

/-!
# What an update changes

An update captures the documents in its window: of those that match its criteria, in the order that
is asked for, from the one to start at on and as many as the limit allows (`Collection.captured`).
Every one of them is stored, and none is there twice.  So none of the partial updates can fail, and
each merges the record into a document of its own (`Memory.MergesOnly`).

Hence, once its search has succeeded, an update succeeds; it changes the documents in its window and
nothing else, and it shows them as they are then (`Collection.update_merges_captured`).
-/

namespace CriteriaSearch

/-! ## Merging into documents -/

namespace Memory

variable {m m' : Memory} {address : Address} {ids : List String} {added : Record}

/-- Whether a store is another one with a record merged into the documents of an address that have
given identifiers. -/
structure MergesOnly (m : Memory) (address : Address) (ids : List String) (added : Record)
    (m' : Memory) : Prop where
  stored : ∀ id ∈ ids, id ∈ m.documents address
  documents : ∀ (other : Address) (id : String), (m'.documents other)[id]? =
    if other = address ∧ id ∈ ids then ((m.documents other)[id]?).map (·.merge added)
    else (m.documents other)[id]?
  issued : m'.issued = m.issued
  patterns : m'.patterns = m.patterns
  sorting : m'.sorting = m.sorting

lemma mergesOnly_nil (m : Memory) (address : Address) (added : Record) :
    m.MergesOnly address [] added m where
  stored := List.forall_mem_nil _
  documents := by simp
  issued := rfl
  patterns := rfl
  sorting := rfl

/-- Merging adds no document and removes none. -/
lemma MergesOnly.mem_iff (h : m.MergesOnly address ids added m') (other : Address) (id : String) :
    id ∈ m'.documents other ↔ id ∈ m.documents other := by
  rw [Std.TreeMap.mem_iff_isSome_getElem?, Std.TreeMap.mem_iff_isSome_getElem?, h.documents]
  split
  · rw [Option.isSome_map]
  · rfl

/-- One document after another takes up the record, where none is there twice. -/
lemma MergesOnly.cons {id : String} {body : Record} (hbody : (m.documents address)[id]? = some body)
    (hnew : id ∉ ids)
    (h : (m.put address id (body.merge added)).MergesOnly address ids added m') :
    m.MergesOnly address (id :: ids) added m' where
  stored := by
    refine List.forall_mem_cons.2 ⟨?_, fun other hother => ?_⟩
    · rw [Std.TreeMap.mem_iff_isSome_getElem?, hbody]
      rfl
    · have hne : id ≠ other := fun hsame => hnew (hsame ▸ hother)
      have hstored := h.stored other hother
      rw [Std.TreeMap.mem_iff_isSome_getElem?, getElem?_put, if_neg hne] at hstored
      exact Std.TreeMap.mem_iff_isSome_getElem?.2 hstored
  documents := by
    intro other key
    rw [h.documents]
    by_cases hat : other = address ∧ key = id
    · obtain ⟨rfl, rfl⟩ := hat
      rw [getElem?_put, if_pos rfl, hbody]
      simp [hnew]
    · rw [getElem?_put_of_ne hat]
      have hsame : (other = address ∧ key ∈ id :: ids) ↔ other = address ∧ key ∈ ids := by
        rw [List.mem_cons]
        tauto
      simp only [hsame]
  issued := h.issued
  patterns := h.patterns
  sorting := h.sorting

end Memory

namespace Collection

variable {c : Collection} {m m' : Memory} {criteria : Criteria} {values : Record}

/-! ## Batches of stored documents -/

/-- A batch of updates of stored documents, none of them there twice, succeeds. -/
lemma exists_yields_updateBatch (c : Collection) (added : Record) {m : Memory} {ids : List String}
    (hnodup : ids.Nodup) (hstored : ∀ id ∈ ids, id ∈ m.documents c.address) :
    ∃ m', (c.updateBatch added ids).Yields Memory.client m { completed := ids } m' ∧
      m.MergesOnly c.address ids added m' := by
  induction ids generalizing m with
  | nil =>
    rw [updateBatch_nil]
    exact ⟨m, Session.yields_pure_iff.2 ⟨rfl, rfl⟩, m.mergesOnly_nil c.address added⟩
  | cons id rest ih =>
    rw [List.nodup_cons] at hnodup
    rw [List.forall_mem_cons] at hstored
    obtain ⟨body, hbody, hanswer⟩ := Memory.exists_answer_update_of_mem hstored.1 added
    have hrest : ∀ other ∈ rest,
        other ∈ (m.put c.address id (body.merge added)).documents c.address := by
      intro other hother
      rw [Memory.documents_put_self, Std.TreeMap.mem_insert]
      exact .inr (hstored.2 other hother)
    obtain ⟨m', hyields, hmerges⟩ := ih hnodup.2 hrest
    refine ⟨m', ?_, hmerges.cons hbody hnodup.1⟩
    rw [updateBatch_cons, Session.yields_bind_iff]
    refine ⟨_, _, Session.yields_attempt_iff.2 hanswer, ?_⟩
    exact Session.yields_bind_iff.2 ⟨_, m', hyields, Session.yields_pure_iff.2 ⟨rfl, rfl⟩⟩

/-! ## The window of an update -/

/-- The documents that an update captures of the listed ones. -/
def captured (c : Collection) (criteria : Criteria) (listed : List StoredDocument) :
    List StoredDocument :=
  (listed.drop (criteria.skip.getD 0)).take (criteria.limit.getD c.options.matchLimit)

/-- Captured documents are stored. -/
lemma getElem?_of_mem_captured {ds : List StoredDocument} (hlisted : c.listed m criteria = .ok ds)
    {d : StoredDocument} (h : d ∈ c.captured criteria ds) :
    (m.documents c.address)[d.id]? = some d.body := by
  have hd : d ∈ ds := List.mem_of_mem_drop (List.mem_of_mem_take h)
  rw [(sortDocuments_perm hlisted).mem_iff, selection, Documents.mem_selected] at hd
  exact hd.1

/-- A search for the documents to update reports the captured ones. -/
lemma ids_of_search_capture {q : Query} {response : SearchResponse}
    (hcompile : c.compile criteria = .ok q)
    (hsearch : m.search c.address (c.capture q) = .ok response) :
    ∃ ds, c.listed m criteria = .ok ds ∧
      response.ids = (c.captured criteria ds).map StoredDocument.id := by
  obtain ⟨ds, hsorted, hids⟩ := Memory.ids_eq_of_search hsearch
  rw [Query.of_ofCriteria hcompile] at hsorted hids
  exact ⟨ds, hsorted, hids⟩

/-- **Once its search has succeeded, an update merges its record into the captured documents and
shows them.** -/
lemma exists_yields_update {prepared : PreparedDocument} {q : Query} {response : SearchResponse}
    {ds : List StoredDocument} (hprepare : c.prepare values = .ok prepared)
    (hcompile : c.compile criteria = .ok q)
    (hsearch : m.search c.address (c.capture q) = .ok response)
    (hlisted : c.listed m criteria = .ok ds)
    (hids : response.ids = (c.captured criteria ds).map StoredDocument.id) :
    ∃ m', (c.update criteria values).Yields Memory.client m
        ((c.captured criteria ds).map fun d => Document.hydrate d.id (d.body.merge prepared.body))
        m' ∧
      m.MergesOnly c.address response.ids prepared.body m' := by
  obtain ⟨m', hbatch, hmerges⟩ := c.exists_yields_updateBatch prepared.body
    (Memory.nodup_ids_of_search hsearch) fun id hid => Memory.mem_of_mem_search hsearch hid
  refine ⟨m', ?_, hmerges⟩
  rw [update_eq hprepare hcompile, Session.yields_bind_iff]
  refine ⟨response, m, Memory.yields_search_iff.2 ⟨hsearch, rfl⟩, ?_⟩
  rw [updateCaptured, Memory.isNone_hits_of_search hsearch, if_neg Bool.false_ne_true,
    Session.yields_bind_iff]
  refine ⟨_, m', hbatch, ?_⟩
  have hshown : response.ids.filterMap (m'.documents c.address).record? =
      (c.captured criteria ds).map fun d => Document.hydrate d.id (d.body.merge prepared.body) := by
    rw [hids, List.filterMap_map, ← List.filterMap_eq_map]
    refine List.filterMap_congr fun d hd => ?_
    have hid : d.id ∈ response.ids := hids ▸ List.mem_map_of_mem hd
    rw [Function.comp_apply, Documents.record?, hmerges.documents, if_pos ⟨rfl, hid⟩,
      getElem?_of_mem_captured hlisted hd]
    rfl
  rw [← hshown]
  exact Session.yields_bind_iff.2 ⟨_, m', Session.yields_ofExcept_iff.2 ⟨rfl, rfl⟩,
    result_fetch c m' response.ids, (c.readsOnly_fetch _).state_run m'⟩

/-- An update that succeeds prepares its record and its query, and its search succeeds. -/
lemma exists_search_of_yields_update {records : List Record}
    (h : (c.update criteria values).Yields Memory.client m records m') :
    ∃ prepared q response, c.prepare values = .ok prepared ∧ c.compile criteria = .ok q ∧
      m.search c.address (c.capture q) = .ok response := by
  obtain ⟨prepared, _, hfirst, h⟩ := Session.yields_bind_iff.1 h
  obtain ⟨hprepare, rfl⟩ := Session.yields_ofExcept_iff.1 hfirst
  obtain ⟨q, _, hsecond, h⟩ := Session.yields_bind_iff.1 h
  obtain ⟨hcompile, rfl⟩ := Session.yields_ofExcept_iff.1 hsecond
  obtain ⟨response, _, hthird, -⟩ := Session.yields_bind_iff.1 h
  have hsearch := (Memory.yields_search_iff.1 hthird).1
  exact ⟨prepared, q, response, hprepare, hcompile, hsearch⟩

/-- **An update that succeeds merges its record into the documents in its window and into no others,
and shows each of them once, in the order of the search; and it succeeds wherever its search does.**
-/
theorem update_merges_captured (c : Collection) (m : Memory) (criteria : Criteria)
    (values : Record) :
    (∀ records m', (c.update criteria values).Yields Memory.client m records m' →
      ∃ prepared q response ds, c.prepare values = .ok prepared ∧ c.compile criteria = .ok q ∧
        Memory.client.answer c.address (.search (c.capture q)) m = (.ok response, m) ∧
        c.listed m criteria = .ok ds ∧
        response.ids = (c.captured criteria ds).map StoredDocument.id ∧ response.ids.Nodup ∧
        m.MergesOnly c.address response.ids prepared.body m' ∧
        (∀ other id, id ∈ m'.documents other ↔ id ∈ m.documents other) ∧
        records = (c.captured criteria ds).map fun d =>
          Document.hydrate d.id (d.body.merge prepared.body)) ∧
    ∀ prepared q response, c.prepare values = .ok prepared → c.compile criteria = .ok q →
      Memory.client.answer c.address (.search (c.capture q)) m = (.ok response, m) →
      ∃ records m', (c.update criteria values).Yields Memory.client m records m' := by
  constructor
  · intro records m' h
    obtain ⟨prepared, q, response, hprepare, hcompile, hsearch⟩ := exists_search_of_yields_update h
    obtain ⟨ds, hlisted, hids⟩ := ids_of_search_capture hcompile hsearch
    obtain ⟨after, hyields, hmerges⟩ :=
      exists_yields_update hprepare hcompile hsearch hlisted hids
    obtain rfl : m' = after := h.2.symm.trans hyields.2
    have hrecords := Except.ok.inj (h.1.symm.trans hyields.1)
    refine ⟨prepared, q, response, ds, hprepare, hcompile, ?_, hlisted, hids,
      Memory.nodup_ids_of_search hsearch, hmerges, hmerges.mem_iff, hrecords⟩
    show (m.search c.address (c.capture q), m) = (.ok response, m)
    rw [hsearch]
  · intro prepared q response hprepare hcompile hanswer
    have hsearch : m.search c.address (c.capture q) = .ok response := congrArg Prod.fst hanswer
    obtain ⟨ds, hlisted, hids⟩ := ids_of_search_capture hcompile hsearch
    obtain ⟨m', hyields, -⟩ := exists_yields_update hprepare hcompile hsearch hlisted hids
    exact ⟨_, m', hyields⟩

/-- Of three documents the second in the order that is asked for takes up the record. -/
theorem update_merges_captured_second_of_three :
    let c : Collection := { index := "app", schema := { typeName := "item" } }
    let m := ((({} : Memory).put c.address "a" [("n", .str "1")]).put c.address "b"
      [("n", .str "3")]).put c.address "c" [("n", .str "2")]
    let criteria : Criteria := { sort := [⟨"n", .desc⟩], limit := some 1, skip := some 1 }
    let values : Record := [("done", .bool true)]
    let outcome := (c.update criteria values).run Memory.client m
    let changed : Record := [("n", .str "2"), ("done", .bool true), ("id", .str "c")]
    outcome.result = .ok [changed] ∧ ∃ ids, ids.length = 1 ∧
      m.MergesOnly c.address ids values outcome.state ∧
      ∀ id, id ∈ outcome.state.documents c.address ↔ id ∈ m.documents c.address := by
  intro c m criteria values outcome changed
  have hresult : outcome.result = .ok [changed] := by
    show ((c.update criteria values).run Memory.client m).result = _
    rw [update_eq_of_hits]
    cbv
  obtain ⟨hmerges, -⟩ := update_merges_captured c m criteria values
  obtain ⟨prepared, q, response, ds, hprepare, -, -, -, hids, -, hmerged, hsame, hrecords⟩ :=
    hmerges _ _ (Session.yields_of_result_eq_ok hresult)
  obtain rfl : ⟨none, values⟩ = prepared := Except.ok.inj hprepare
  have hlength : response.ids.length = 1 := by
    have hshown := congrArg List.length hrecords
    rw [List.length_map] at hshown
    rw [hids, List.length_map, ← hshown]
    rfl
  exact ⟨hresult, response.ids, hlength, hmerged, hsame c.address⟩

end Collection

end CriteriaSearch

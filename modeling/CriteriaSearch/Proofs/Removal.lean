import CriteriaSearch.Collection.Operations
import CriteriaSearch.Proofs.CompiledQueries
import CriteriaSearch.Proofs.StoredDocuments

/-!
# Removals and their reports

`Collection.destroy` tells which documents it removed, but it learns their identifiers before the
removal and by another request: a look-up of the identifiers that the criteria name, or else a
search.  The removal itself goes by the filter alone.  So the report is right exactly when the two
requests are about the same documents (`Collection.ReportsRemovals`): a look-up must name, of the
stored documents, those that the filter selects, and the window of a search must not cut any of them
off.
-/

namespace CriteriaSearch

namespace Collection

/-! ## Statements -/

/-- The filter that criteria compile to. -/
def filterOf (c : Collection) (criteria : Criteria) : Filter :=
  Filter.ofWhere c.schema.schema c.schema.typeName criteria.clause

/-- The identifiers that records tell of. -/
def reportedIds (records : List Record) : List String :=
  records.filterMap fun r => (r.get? Schema.idField).bind Json.str?

/-- Whether what is captured before a removal is what the removal takes out. -/
def ReportsRemovals (c : Collection) (m : Memory) (criteria : Criteria) : Prop :=
  match criteria.idLookup? with
  | some [] => True
  | some ids => ∀ id body, (m.documents c.address)[id]? = some body →
      ((c.filterOf criteria).holds m.patterns id body = .ok true ↔ id ∈ ids)
  | none =>
    let selected := (m.documents c.address).selected m.patterns (c.filterOf criteria)
    selected = [] ∨ (criteria.skip.getD 0 = 0 ∧
      selected.length ≤ criteria.limit.getD c.options.matchLimit)

/-! ## Steps of a removal -/

variable {c : Collection} {m : Memory} {criteria : Criteria}

lemma eq_of_compile {q : Query} (h : c.compile criteria = .ok q) :
    q.filter = c.filterOf criteria ∧ q.size = criteria.limit ∧ q.start = criteria.skip := by
  have hq := Query.of_ofCriteria h
  exact ⟨by rw [hq, filterOf], by rw [hq], by rw [hq]⟩

lemma reportedIds_map_removedRecord (ids : List String) :
    reportedIds (ids.map removedRecord) = ids := by
  induction ids with
  | nil => rfl
  | cons id rest ih =>
    have hid : ((removedRecord id).get? Schema.idField).bind Json.str? = some id := rfl
    simp only [reportedIds, List.map_cons, List.filterMap_cons, hid] at ih ⊢
    rw [ih]

/-- The identifiers of a look-up that are found are those that are stored. -/
lemma ids_of_found (address : Address) (ids : List String) :
    ((m.multiGet address ids).filter (·.found)).map MultiGetItem.id =
      ids.filter fun id => ((m.documents address)[id]?).isSome := by
  rw [Memory.multiGet, List.filter_map, List.map_map]
  exact List.map_id _

/-- The identifiers that a removal captures. -/
inductive Captures (c : Collection) (m : Memory) (criteria : Criteria) (q : Query) :
    List String → Prop
  | lookup {ids : List String} (hlookup : criteria.idLookup? = some ids) :
    Captures c m criteria q (ids.filter fun id => ((m.documents c.address)[id]?).isSome)
  | search {response : SearchResponse} (hlookup : criteria.idLookup? = none)
    (hsearch : m.search c.address (c.capture q) = .ok response) :
    Captures c m criteria q response.ids

/-- A removal that succeeds names no identifiers and does nothing, or captures identifiers, removes
by its query and reports what it captured. -/
lemma cases_of_destroy {records : List Record} {m' : Memory}
    (h : (c.destroy criteria).Yields Memory.client m records m') :
    (criteria.idLookup? = some [] ∧ records = [] ∧ m' = m) ∨
    ∃ q ids, c.compile criteria = .ok q ∧ criteria.idLookup? ≠ some [] ∧
      c.Captures m criteria q ids ∧ records = ids.map removedRecord ∧
      m.deleteByQuery c.address q = .ok m' := by
  rw [destroy, Session.yields_bind_iff] at h
  obtain ⟨q, m₀, hfirst, h⟩ := h
  obtain ⟨hcompile, rfl⟩ := Session.yields_ofExcept_iff.1 hfirst
  have remove_yields : ∀ {m₁ : Memory} {ids : List String},
      (do
        Session.request c.address (.deleteByQuery q)
        return ids.map removedRecord : Session (List Record)).Yields Memory.client m₁ records m' →
      records = ids.map removedRecord ∧ m₁.deleteByQuery c.address q = .ok m' := by
    intro m₁ ids h
    obtain ⟨u, m₂, hrequest, h⟩ := Session.yields_bind_iff.1 h
    obtain ⟨rfl, rfl⟩ := Session.yields_pure_iff.1 h
    exact ⟨rfl, Memory.yields_deleteByQuery_iff.1 hrequest⟩
  split at h
  · next hlookup =>
    obtain ⟨rfl, rfl⟩ := Session.yields_pure_iff.1 h
    exact .inl ⟨hlookup, rfl, rfl⟩
  · next ids hne hlookup =>
    obtain ⟨items, m₁, hrequest, h⟩ := Session.yields_bind_iff.1 h
    obtain ⟨rfl, rfl⟩ := Memory.yields_multiGet_iff.1 hrequest
    obtain ⟨hrecords, hdelete⟩ := remove_yields h
    rw [ids_of_found] at hrecords
    refine .inr ⟨q, _, hcompile, ?_, .lookup hlookup, hrecords, hdelete⟩
    rw [hlookup]
    exact fun hnil => hne (Option.some.inj hnil)
  · next hlookup =>
    obtain ⟨response, m₁, hrequest, h⟩ := Session.yields_bind_iff.1 h
    obtain ⟨hsearch, rfl⟩ := Memory.yields_search_iff.1 hrequest
    obtain ⟨hrecords, hdelete⟩ := remove_yields h
    refine .inr ⟨q, _, hcompile, ?_, .search hlookup hsearch, hrecords, hdelete⟩
    intro hnil
    cases hlookup.symm.trans hnil

/-! ## Reports -/

/-- What a look-up captures is what its removal takes out exactly when, on the stored documents, its
filter and its identifiers agree. -/
lemma captured_lookup_iff {ds : Documents} {patterns : PatternLibrary} {f : Filter}
    {ids : List String} :
    (∀ id, id ∈ (ids.filter fun id => (ds[id]?).isSome) ↔
      id ∈ (ds.selected patterns f).map StoredDocument.id) ↔
    ∀ id body, ds[id]? = some body → (f.holds patterns id body = .ok true ↔ id ∈ ids) := by
  refine forall_congr' fun id => ?_
  rw [List.mem_filter, Documents.mem_ids_selected]
  constructor
  · intro h body hstored
    simp only [hstored, Option.isSome_some, and_true] at h
    rw [h]
    simp
  · intro h
    cases hstored : ds[id]? with
    | none => simp
    | some body => simpa using (h body hstored).symm

/-- What a search captures is what its removal takes out exactly when its window cuts nothing
off. -/
lemma captured_search_iff {q : Query} (hcompile : c.compile criteria = .ok q)
    {response : SearchResponse} (hsearch : m.search c.address (c.capture q) = .ok response) :
    let selected := (m.documents c.address).selected m.patterns (c.filterOf criteria)
    (∀ id, id ∈ response.ids ↔ id ∈ selected.map StoredDocument.id) ↔
      selected = [] ∨ (criteria.skip.getD 0 = 0 ∧
        selected.length ≤ criteria.limit.getD c.options.matchLimit) := by
  intro selected
  obtain ⟨hfilter, hsize, hstart⟩ := eq_of_compile hcompile
  have hsized : (c.capture q).size = some (criteria.limit.getD c.options.matchLimit) := by
    rw [← hsize]
    rfl
  have hcaptured : (c.capture q).filter = c.filterOf criteria := hfilter
  have hskipped : (c.capture q).start = criteria.skip := hstart
  obtain ⟨found, hperm, hwindow⟩ := Memory.ids_of_search hsearch
  rw [hcaptured] at hperm
  change found.Perm (selected.map StoredDocument.id) at hperm
  rw [hskipped, hsized, Option.getD_some] at hwindow
  have hnodup : found.Nodup := hperm.nodup_iff.2 (Documents.nodup_ids_selected _ _)
  have hlength : found.length = selected.length := by
    rw [hperm.length_eq, List.length_map]
  simp only [hwindow, ← hperm.mem_iff]
  rw [mem_window_iff hnodup, ← List.length_eq_zero_iff, ← List.length_eq_zero_iff, hlength]

/-- **A removal reports what it removes exactly when it captures the documents that its filter
selects.** -/
theorem mem_reportedIds_iff_removed (m : Memory) (c : Collection) (criteria : Criteria)
    (records : List Record)
    (h : ((c.destroy criteria).run Memory.client m).result = .ok records) :
    (∀ id, id ∈ reportedIds records ↔
      id ∈ m.documents c.address ∧
        id ∉ ((c.destroy criteria).run Memory.client m).state.documents c.address) ↔
    c.ReportsRemovals m criteria := by
  have hyields := Session.yields_of_result_eq_ok h
  generalize ((c.destroy criteria).run Memory.client m).state = m' at hyields
  rcases cases_of_destroy hyields with ⟨hlookup, rfl, rfl⟩ |
    ⟨q, ids, hcompile, hsome, hcaptures, rfl, hdelete⟩
  · simp [ReportsRemovals, hlookup, reportedIds]
  · have hremoved := Memory.removed_iff_selected hdelete
    rw [(eq_of_compile hcompile).1] at hremoved
    simp only [hremoved, reportedIds_map_removedRecord]
    cases hcaptures with
    | @lookup named hlookup =>
      rw [captured_lookup_iff, ReportsRemovals, hlookup]
      cases named with
      | nil => exact absurd hlookup hsome
      | cons id rest => rfl
    | @search response hlookup hsearch =>
      rw [ReportsRemovals, hlookup]
      exact captured_search_iff hcompile hsearch

/-- Two stored documents, of which the first is out of place in the order that is asked for. -/
theorem mem_reportedIds_iff_removed_sorted :
    let c : Collection := { index := "app", schema := { typeName := "item" } }
    let m := (({} : Memory).put c.address "a" [("n", .str "2")]).put c.address "b" [("n", .str "1")]
    let criteria : Criteria := { sort := [⟨"n", .asc⟩], limit := some 2 }
    let after := ((c.destroy criteria).run Memory.client m).state.documents c.address
    ((c.destroy criteria).run Memory.client m).result = .ok [removedRecord "b", removedRecord "a"] ∧
      ∀ id, id ∈ reportedIds [removedRecord "b", removedRecord "a"] ↔
        id ∈ m.documents c.address ∧ id ∉ after := by
  intro c m criteria after
  have hresult : ((c.destroy criteria).run Memory.client m).result =
      .ok [removedRecord "b", removedRecord "a"] := by
    cbv
  have hreports : c.ReportsRemovals m criteria := .inr ⟨rfl, by decide⟩
  exact ⟨hresult, (mem_reportedIds_iff_removed m c criteria _ hresult).2 hreports⟩

/-- A limit that is smaller than the number of documents cuts the report, not the removal. -/
theorem mem_reportedIds_limit_one :
    let c : Collection := { index := "app", schema := { typeName := "item" } }
    let m := (({} : Memory).put c.address "a" []).put c.address "b" []
    let criteria : Criteria := { limit := some 1 }
    let after := ((c.destroy criteria).run Memory.client m).state.documents c.address
    ((c.destroy criteria).run Memory.client m).result = .ok [removedRecord "a"] ∧
      "b" ∈ m.documents c.address ∧ "b" ∉ after ∧ "b" ∉ reportedIds [removedRecord "a"] := by
  intro c m criteria after
  have hgone : after.contains "b" = false := by
    cbv
  exact ⟨by cbv, by decide, Bool.eq_false_iff.1 hgone, by decide⟩

end Collection

end CriteriaSearch

import CriteriaSearch.Proofs.Filterings
import CriteriaSearch.Proofs.SortedDocuments
import CriteriaSearch.Proofs.Successes
import CriteriaSearch.Store.Memory
import Mathlib.Data.List.Permutation
import Mathlib.Tactic.Common

/-!
# Stored documents

The documents of an address, seen as a list without repeated identifiers, and what requests do with
the ones that a filter selects.  A search reports a window of them (`ids_of_search`).  A removal by
query takes all of them out (`removed_iff_selected`) and touches nothing else
(`getElem?_deleteByQuery`, `documents_deleteByQuery_of_ne`).

The window shows every selected document exactly when it does not cut anything off
(`mem_window_iff`).
-/

namespace CriteriaSearch

/-! ## Selection -/

/-- Whether a filter is decided on a document and holds of it. -/
def Filter.selects (patterns : PatternLibrary) (f : Filter) (d : StoredDocument) : Bool :=
  (f.holds patterns d.id d.body).toOption == some true

lemma Filter.selects_iff (patterns : PatternLibrary) (f : Filter) (d : StoredDocument) :
    f.selects patterns d = true ↔ f.holds patterns d.id d.body = .ok true := by
  unfold Filter.selects
  cases f.holds patterns d.id d.body <;> simp [Except.toOption]

namespace Documents

variable {patterns : PatternLibrary}

lemma mem_toDocuments (ds : Documents) (d : StoredDocument) :
    d ∈ ds.toDocuments ↔ ds[d.id]? = some d.body := by
  rw [← Std.TreeMap.mem_toList_iff_getElem?_eq_some, toDocuments, List.mem_map]
  constructor
  · rintro ⟨e, he, rfl⟩
    exact he
  · exact fun h => ⟨(d.id, d.body), h, rfl⟩

lemma nodup_ids (ds : Documents) : (ds.toDocuments.map StoredDocument.id).Nodup := by
  have hdistinct : ds.toList.Pairwise fun a b => ¬compare a.1 b.1 = .eq :=
    Std.TreeMap.distinct_keys_toList
  rw [toDocuments, List.map_map, List.Nodup, List.pairwise_map]
  exact hdistinct.imp fun hne heq => hne (Std.compare_eq_iff_eq.2 heq)

/-- Filters that agree on every document match the same ones. -/
lemma matching_congr {f g : Filter}
    (h : ∀ id body, f.holds patterns id body = g.holds patterns id body) (ds : Documents) :
    ds.matching patterns f = ds.matching patterns g := by
  unfold matching
  exact congrArg (fun p => ds.toDocuments.filterM p) (funext fun d => h d.id d.body)

/-- The documents that a filter selects, in the order of their identifiers. -/
def selected (ds : Documents) (patterns : PatternLibrary) (f : Filter) : List StoredDocument :=
  ds.toDocuments.filter (f.selects patterns)

lemma eq_selected_of_matching {ds : Documents} {f : Filter} {matched : List StoredDocument}
    (h : ds.matching patterns f = .ok matched) : matched = ds.selected patterns f :=
  (filterM_eq_ok_iff.1 h).1

lemma mem_selected (ds : Documents) (f : Filter) (d : StoredDocument) :
    d ∈ ds.selected patterns f ↔
      ds[d.id]? = some d.body ∧ f.holds patterns d.id d.body = .ok true := by
  rw [selected, List.mem_filter, mem_toDocuments, Filter.selects_iff]

lemma mem_ids_selected (ds : Documents) (f : Filter) (id : String) :
    id ∈ (ds.selected patterns f).map StoredDocument.id ↔
      ∃ body, ds[id]? = some body ∧ f.holds patterns id body = .ok true := by
  rw [List.mem_map]
  constructor
  · rintro ⟨d, hd, rfl⟩
    exact ⟨d.body, (mem_selected ds f d).1 hd⟩
  · rintro ⟨body, h⟩
    exact ⟨⟨id, body⟩, (mem_selected ds f ⟨id, body⟩).2 h, rfl⟩

lemma nodup_ids_selected (ds : Documents) (f : Filter) :
    ((ds.selected patterns f).map StoredDocument.id).Nodup :=
  (List.filter_sublist.map StoredDocument.id).nodup ds.nodup_ids

/-- Taking documents out, one after another. -/
lemma getElem?_eraseAll (l : List StoredDocument) (ds : Documents) (id : String) :
    (l.foldl (fun ds d => ds.erase d.id) ds)[id]? =
      if id ∈ l.map StoredDocument.id then none else ds[id]? := by
  induction l generalizing ds with
  | nil => simp
  | cons d rest ih =>
    rw [List.foldl_cons, ih, Std.TreeMap.getElem?_erase, List.map_cons]
    by_cases hrest : id ∈ rest.map StoredDocument.id
    · rw [if_pos hrest, if_pos (List.mem_cons_of_mem d.id hrest)]
    · by_cases hd : id = d.id
      · simp [hd]
      · have hne : compare d.id id ≠ .eq := fun h => hd (Std.compare_eq_iff_eq.1 h).symm
        simp only [List.mem_cons, hd, hrest, hne, or_self, if_false]

end Documents

/-! ## Windows -/

/-- **A window shows all of a list exactly when it cuts nothing off.** -/
lemma mem_window_iff {α : Type} {l : List α} (hl : l.Nodup) (skip limit : Nat) :
    (∀ a, a ∈ (l.drop skip).take limit ↔ a ∈ l) ↔ l = [] ∨ (skip = 0 ∧ l.length ≤ limit) := by
  constructor
  · intro h
    have hle : l.length ≤ ((l.drop skip).take limit).length :=
      (List.subperm_of_subset hl fun a ha => (h a).2 ha).length_le
    rw [List.length_take, List.length_drop] at hle
    rcases Nat.eq_zero_or_pos l.length with hzero | hpos
    · exact .inl (List.length_eq_zero_iff.1 hzero)
    · right
      omega
  · rintro (rfl | ⟨rfl, hle⟩) a
    · simp
    · rw [List.drop_zero, List.take_of_length_le hle]

/-! ## Requests -/

namespace Memory

variable {m : Memory} {address : Address} {q : Query}

/-- A search reports a window of what its filter selects, in its order. -/
lemma ids_eq_of_search {response : SearchResponse} (h : m.search address q = .ok response) :
    ∃ sorted, sortDocuments m.sorting q.sort
        ((m.documents address).selected m.patterns q.filter) = .ok sorted ∧
      response.ids = ((sorted.drop (q.start.getD 0)).take (q.size.getD defaultSize)).map
        StoredDocument.id := by
  rw [search, bind_eq_ok_iff] at h
  obtain ⟨matched, hmatched, h⟩ := h
  obtain rfl := Documents.eq_selected_of_matching hmatched
  obtain ⟨sorted, hsorted, h⟩ := bind_eq_ok_iff.1 h
  refine ⟨sorted, hsorted, ?_⟩
  rw [← pure_eq_ok_iff.1 h]
  simp only [SearchResponse.ids, Option.map_some, Option.getD_some, List.map_map]
  rfl

/-- What it reports is a window of some order of the identifiers. -/
lemma ids_of_search {response : SearchResponse} (h : m.search address q = .ok response) :
    ∃ ids : List String,
      ids.Perm (((m.documents address).selected m.patterns q.filter).map StoredDocument.id) ∧
      response.ids = (ids.drop (q.start.getD 0)).take (q.size.getD defaultSize) := by
  obtain ⟨sorted, hsorted, hids⟩ := ids_eq_of_search h
  refine ⟨sorted.map StoredDocument.id, (sortDocuments_perm hsorted).map _, ?_⟩
  rw [hids, List.map_take, List.map_drop]

/-- A search does not report an identifier twice. -/
lemma nodup_ids_of_search {response : SearchResponse} (h : m.search address q = .ok response) :
    response.ids.Nodup := by
  obtain ⟨ids, hperm, hwindow⟩ := ids_of_search h
  have hnodup : ids.Nodup := hperm.nodup_iff.2 (Documents.nodup_ids_selected _ _)
  rw [hwindow]
  exact ((List.take_sublist _ _).trans (List.drop_sublist _ _)).nodup hnodup

/-- What a search reports is stored. -/
lemma mem_of_mem_search {response : SearchResponse} (h : m.search address q = .ok response)
    {id : String} (hid : id ∈ response.ids) : id ∈ m.documents address := by
  obtain ⟨ids, hperm, hwindow⟩ := ids_of_search h
  rw [hwindow] at hid
  have hselected := hperm.mem_iff.1 (List.mem_of_mem_drop (List.mem_of_mem_take hid))
  obtain ⟨body, hbody, -⟩ := (Documents.mem_ids_selected _ _ id).1 hselected
  exact Std.TreeMap.mem_iff_isSome_getElem?.2 (Option.isSome_iff_exists.2 ⟨body, hbody⟩)

/-- A search that succeeds reports hits, be it none. -/
lemma isNone_hits_of_search {response : SearchResponse} (h : m.search address q = .ok response) :
    response.hits.isNone = false := by
  obtain ⟨matched, -, h⟩ := bind_eq_ok_iff.1 h
  obtain ⟨sorted, -, h⟩ := bind_eq_ok_iff.1 h
  rw [← pure_eq_ok_iff.1 h]
  rfl

/-- What is left after a removal by query. -/
lemma eq_setDocuments_of_deleteByQuery {m' : Memory} (h : m.deleteByQuery address q = .ok m') :
    m' = m.setDocuments address (((m.documents address).selected m.patterns q.filter).foldl
      (fun ds d => ds.erase d.id) (m.documents address)) := by
  rw [deleteByQuery, bind_eq_ok_iff] at h
  obtain ⟨matched, hmatched, h⟩ := h
  obtain rfl := Documents.eq_selected_of_matching hmatched
  exact (pure_eq_ok_iff.1 h).symm

/-- A removal by query keeps, of the documents at its address, those that it does not select. -/
lemma getElem?_deleteByQuery {m' : Memory} (h : m.deleteByQuery address q = .ok m') (id : String) :
    (m'.documents address)[id]? =
      if id ∈ ((m.documents address).selected m.patterns q.filter).map StoredDocument.id then none
      else (m.documents address)[id]? := by
  rw [eq_setDocuments_of_deleteByQuery h, ← Documents.getElem?_eraseAll]
  simp [setDocuments]

/-- What a removal by query takes out is what its filter selects. -/
lemma removed_iff_selected {m' : Memory} (h : m.deleteByQuery address q = .ok m') (id : String) :
    (id ∈ m.documents address ∧ id ∉ m'.documents address) ↔
      id ∈ ((m.documents address).selected m.patterns q.filter).map StoredDocument.id := by
  rw [Std.TreeMap.mem_iff_isSome_getElem?, Std.TreeMap.mem_iff_isSome_getElem?,
    getElem?_deleteByQuery h]
  split
  · next hselected =>
    obtain ⟨body, hbody, -⟩ := (Documents.mem_ids_selected _ _ id).1 hselected
    simp [hbody, hselected]
  · next hselected => simp [hselected]

/-- A removal by query leaves every other address alone. -/
lemma documents_deleteByQuery_of_ne {m' : Memory} (h : m.deleteByQuery address q = .ok m')
    {other : Address} (hne : other ≠ address) : m'.documents other = m.documents other := by
  rw [eq_setDocuments_of_deleteByQuery h]
  simp [setDocuments, hne]

/-! ## Requests in sessions -/

lemma yields_multiGet_iff {m' : Memory} {ids : List String} {items : List MultiGetItem} :
    (Session.request address (.multiGet ids)).Yields client m items m' ↔
      m.multiGet address ids = items ∧ m = m' := by
  rw [Session.yields_request_iff]
  simp [client, answer]

lemma yields_search_iff {m' : Memory} {response : SearchResponse} :
    (Session.request address (.search q)).Yields client m response m' ↔
      m.search address q = .ok response ∧ m = m' := by
  rw [Session.yields_request_iff]
  simp [client, answer]

lemma yields_deleteByQuery_iff {m' : Memory} {u : Unit} :
    (Session.request address (.deleteByQuery q)).Yields client m u m' ↔
      m.deleteByQuery address q = .ok m' := by
  rw [Session.yields_request_iff]
  cases hdelete : m.deleteByQuery address q <;> simp [client, answer, settle, hdelete]

end Memory

end CriteriaSearch

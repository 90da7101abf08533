import CriteriaSearch.Proofs.FailingDecisions
import CriteriaSearch.Proofs.StoredDocuments

/-!
# Requests with one query

Searching, counting and removing by query walk the documents of an address each on its own, but all
of them keep the documents that the filter holds of, and all of them come to nothing where the
filter is not decided on some document (`Documents.matching_eq_error_iff`).

A search sorts what it keeps, which the others do not.  So the three requests agree, unless there
are many documents to sort that have no consistent order (`Memory.requests_agree`).  They fail
together and then leave the store as it is, or the count is the total of the search, the removal
takes out what a search without a window lists, and afterwards nothing is left to count.  Otherwise
the search may panic, and does where the library that sorts finds the inconsistency
(`Memory.search_panics_alone`).
-/

namespace CriteriaSearch

namespace Documents

variable {ds : Documents} {patterns : PatternLibrary} {f : Filter}

/-- Matching fails exactly where the filter is not decided on some document, as on the first such
one. -/
lemma matching_eq_error_iff {failure : StoreFailure} :
    ds.matching patterns f = .error failure ↔
      ∃ before d after, ds.toDocuments = before ++ d :: after ∧
        (∀ e ∈ before, ∃ decided, f.holds patterns e.id e.body = .ok decided) ∧
        f.holds patterns d.id d.body = .error failure :=
  filterM_eq_error_iff

/-- Matching succeeds exactly where the filter is decided on every document. -/
lemma matching_eq_ok_iff {matched : List StoredDocument} :
    ds.matching patterns f = .ok matched ↔
      matched = ds.selected patterns f ∧
        ∀ d ∈ ds.toDocuments, ∃ decided, f.holds patterns d.id d.body = .ok decided :=
  filterM_eq_ok_iff

lemma matching_matchAll (ds : Documents) (patterns : PatternLibrary) :
    ds.matching patterns .matchAll = .ok ds.toDocuments := by
  have hdecided : ∀ d : StoredDocument, Filter.matchAll.holds patterns d.id d.body = .ok true :=
    fun d => by rw [Filter.holds]
  rw [matching_eq_ok_iff]
  refine ⟨?_, fun d _ => ⟨true, hdecided d⟩⟩
  symm
  exact List.filter_eq_self.2 fun d _ => (Filter.selects_iff _ _ d).2 (hdecided d)

end Documents

/-! ## Three requests -/

namespace Memory

/-- Whether searching, counting and removing by a query all fail with a failure, and leave the store
as it is. -/
structure Refuses (m : Memory) (address : Address) (q : Query) (failure : StoreFailure) : Prop where
  search : client.answer address (.search q) m = (.error failure, m)
  count : client.answer address (.count q) m = (.error failure, m)
  deleteByQuery : client.answer address (.deleteByQuery q) m = (.error failure, m)

/-- Whether a store is another one without the documents of an address that have given identifiers,
each of which is the identifier of a document. -/
structure LosesOnly (m : Memory) (address : Address) (ids : List String) (m' : Memory) : Prop where
  stored : ∀ id ∈ ids, id ∈ m.documents address
  documents : ∀ (other : Address) (id : String), (m'.documents other)[id]? =
    if other = address ∧ id ∈ ids then none else (m.documents other)[id]?
  issued : m'.issued = m.issued
  patterns : m'.patterns = m.patterns
  sorting : m'.sorting = m.sorting

variable {m : Memory} {address : Address} {q : Query}

lemma refuses_of_matching {failure : StoreFailure}
    (h : (m.documents address).matching m.patterns q.filter = .error failure) :
    m.Refuses address q failure where
  search := by simp [client, answer, Memory.search, h, bind, Except.bind]
  count := by simp [client, answer, Memory.count, h, bind, Except.bind]
  deleteByQuery := by simp [client, answer, Memory.deleteByQuery, settle, h, bind, Except.bind]

/-- The three requests fail exactly where matching does. -/
lemma refuses_iff_matching {failure : StoreFailure} :
    m.Refuses address q failure ↔
      (m.documents address).matching m.patterns q.filter = .error failure := by
  refine ⟨fun h => ?_, refuses_of_matching⟩
  have hcount : m.count address q = .error failure := congrArg Prod.fst h.count
  cases hmatching : (m.documents address).matching m.patterns q.filter with
  | error other =>
    rw [Memory.count, hmatching] at hcount
    have hsame : Except.error other = (Except.error failure : Except StoreFailure Nat) := hcount
    rw [Except.error.inj hsame]
  | ok matched =>
    rw [Memory.count, hmatching] at hcount
    cases hcount

/-- A count is that of the selected documents. -/
lemma count_of_matching {matched : List StoredDocument}
    (h : (m.documents address).matching m.patterns q.filter = .ok matched) :
    m.count address q = .ok matched.length := by
  rw [Memory.count, h]
  rfl

/-- Whether a search panics while it sorts what matches. -/
def PanicsSorting (m : Memory) (address : Address) (q : Query) : Prop :=
  m.search address q = .error (.panicked .inconsistentOrder)

/-- A search succeeds where its documents match and are sorted, and its total is their number. -/
lemma exists_search_of_sorted {matched sorted : List StoredDocument}
    (h : (m.documents address).matching m.patterns q.filter = .ok matched)
    (hsorted : sortDocuments m.sorting q.sort matched = .ok sorted) :
    ∃ response hits, m.search address q = .ok response ∧ response.hits = some hits ∧
      hits.total = matched.length := by
  simp only [Memory.search, h, hsorted, bind, Except.bind]
  exact ⟨_, _, rfl, rfl, rfl⟩

lemma search_of_sortDocuments_eq_error {matched : List StoredDocument} {failure : StoreFailure}
    (h : (m.documents address).matching m.patterns q.filter = .ok matched)
    (hpanics : sortDocuments m.sorting q.sort matched = .error failure) :
    m.search address q = .error failure := by
  simp only [Memory.search, h, hpanics, bind, Except.bind]

/-- A search whose documents match panics exactly where their sort does. -/
lemma panicsSorting_iff {matched : List StoredDocument}
    (h : (m.documents address).matching m.patterns q.filter = .ok matched) :
    m.PanicsSorting address q ↔ ∀ sorted, sortDocuments m.sorting q.sort matched ≠ .ok sorted := by
  cases hsorted : sortDocuments m.sorting q.sort matched with
  | ok sorted =>
    obtain ⟨response, -, hsearch, -⟩ := exists_search_of_sorted h hsorted
    rw [PanicsSorting, hsearch]
    simp
  | error failure =>
    obtain ⟨rfl, -, -⟩ := sortDocuments_eq_error hsorted
    rw [PanicsSorting, search_of_sortDocuments_eq_error h hsorted]
    simp

/-- No filter panics, so a search that does has matched documents, many and in no consistent order.
-/
lemma PanicsSorting.inconsistent (h : m.PanicsSorting address q) :
    insertionLimit < ((m.documents address).selected m.patterns q.filter).length ∧
      ¬Consistent q.sort ((m.documents address).selected m.patterns q.filter) := by
  cases hmatching : (m.documents address).matching m.patterns q.filter with
  | error failure =>
    rw [PanicsSorting, search, hmatching] at h
    obtain rfl : failure = .panicked .inconsistentOrder := Except.error.inj h
    obtain ⟨-, d, -, -, -, hfails⟩ := Documents.matching_eq_error_iff.1 hmatching
    cases (Filter.meets_of_holds hfails).mayFail
  | ok matched =>
    obtain rfl := Documents.eq_selected_of_matching hmatching
    cases hsorted : sortDocuments m.sorting q.sort
        ((m.documents address).selected m.patterns q.filter) with
    | error failure => exact (sortDocuments_eq_error hsorted).2
    | ok sorted => exact absurd hsorted ((panicsSorting_iff hmatching).1 h sorted)

/-- A search that fails is refused, or panics. -/
lemma refuses_or_panics_of_search {failure : StoreFailure}
    (h : m.search address q = .error failure) :
    m.Refuses address q failure ∨
      m.PanicsSorting address q ∧ failure = .panicked .inconsistentOrder := by
  rw [refuses_iff_matching]
  cases hmatching : (m.documents address).matching m.patterns q.filter with
  | error other =>
    rw [search, hmatching] at h
    have hsame : Except.error other = (Except.error failure : Except StoreFailure SearchResponse) :=
      h
    rw [Except.error.inj hsame]
    exact .inl rfl
  | ok matched =>
    cases hsorted : sortDocuments m.sorting q.sort matched with
    | ok sorted =>
      obtain ⟨response, -, hresponse, -⟩ := exists_search_of_sorted hmatching hsorted
      cases h.symm.trans hresponse
    | error other =>
      obtain ⟨rfl, -, -⟩ := sortDocuments_eq_error hsorted
      have hpanics := search_of_sortDocuments_eq_error hmatching hsorted
      obtain rfl := Except.error.inj (h.symm.trans hpanics)
      exact .inr ⟨h, rfl⟩

/-- A search from the first document on lists all selected ones where its size suffices. -/
lemma exists_listing_of_sorted {matched sorted : List StoredDocument}
    (h : (m.documents address).matching m.patterns q.filter = .ok matched)
    (hsorted : sortDocuments m.sorting q.sort matched = .ok sorted) {size : Nat}
    (hsize : matched.length ≤ size) :
    ∃ listing, m.search address { q with start := some 0, size := some size } = .ok listing ∧
      listing.ids.Perm
        (((m.documents address).selected m.patterns q.filter).map StoredDocument.id) := by
  obtain ⟨listing, -, hlisting, -⟩ :=
    exists_search_of_sorted (q := { q with start := some 0, size := some size }) h hsorted
  obtain ⟨ids, hperm, hwindow⟩ := ids_of_search hlisting
  have hlength : ids.length ≤ size := by
    rw [hperm.length_eq, List.length_map, ← Documents.eq_selected_of_matching h]
    exact hsize
  change listing.ids = (ids.drop 0).take size at hwindow
  rw [List.drop_zero, List.take_of_length_le hlength] at hwindow
  exact ⟨listing, hlisting, hwindow ▸ hperm⟩

/-- A removal by query that succeeds leaves nothing to count. -/
lemma count_of_deleteByQuery {m' : Memory} (h : m.deleteByQuery address q = .ok m') :
    m'.count address q = .ok 0 := by
  obtain ⟨matched, hmatching, -⟩ := bind_eq_ok_iff.1 h
  obtain ⟨-, hdecided⟩ := Documents.matching_eq_ok_iff.1 hmatching
  have hkept : ∀ id body, (m'.documents address)[id]? = some body →
      (m.documents address)[id]? = some body ∧
        id ∉ ((m.documents address).selected m.patterns q.filter).map StoredDocument.id := by
    intro id body hbody
    rw [getElem?_deleteByQuery h] at hbody
    split at hbody
    · cases hbody
    · next hnot => exact ⟨hbody, hnot⟩
  have hpatterns : m'.patterns = m.patterns := by
    rw [eq_setDocuments_of_deleteByQuery h, setDocuments]
  have hnone : (m'.documents address).matching m'.patterns q.filter = .ok [] := by
    rw [hpatterns, Documents.matching_eq_ok_iff]
    constructor
    · symm
      rw [List.eq_nil_iff_forall_not_mem]
      intro d hd
      obtain ⟨hstored, hholds⟩ := (Documents.mem_selected _ _ d).1 hd
      obtain ⟨hbefore, hnot⟩ := hkept d.id d.body hstored
      exact hnot ((Documents.mem_ids_selected _ _ d.id).2 ⟨d.body, hbefore, hholds⟩)
    · intro d hd
      obtain ⟨hbefore, -⟩ := hkept d.id d.body ((Documents.mem_toDocuments _ d).1 hd)
      exact hdecided d ((Documents.mem_toDocuments _ d).2 hbefore)
  exact count_of_matching hnone

/-- A removal by query takes out the selected documents and nothing else. -/
lemma losesOnly_of_deleteByQuery {m' : Memory} (h : m.deleteByQuery address q = .ok m')
    {ids : List String}
    (hids : ids.Perm
      (((m.documents address).selected m.patterns q.filter).map StoredDocument.id)) :
    m.LosesOnly address ids m' where
  stored := fun id hid => ((removed_iff_selected h id).2 (hids.mem_iff.1 hid)).1
  documents := by
    intro other id
    simp only [hids.mem_iff]
    by_cases hother : other = address
    · subst hother
      rw [getElem?_deleteByQuery h]
      simp
    · rw [documents_deleteByQuery_of_ne h hother]
      simp [hother]
  issued := by rw [eq_setDocuments_of_deleteByQuery h, setDocuments]
  patterns := by rw [eq_setDocuments_of_deleteByQuery h, setDocuments]
  sorting := by rw [eq_setDocuments_of_deleteByQuery h, setDocuments]

/-- **Searching, counting and removing by one query agree, unless the search panics.**  It panics
only where many documents match that are not in a consistent order; counting and removing go ahead
then. -/
theorem requests_agree (m : Memory) (address : Address) (q : Query) :
    (∃ failure, m.Refuses address q failure) ∨
    ∃ (total : Nat) (m' : Memory),
      client.answer address (.count q) m = (.ok total, m) ∧
      client.answer address (.deleteByQuery q) m = (.ok (), m') ∧
      client.answer address (.count q) m' = (.ok 0, m') ∧
      ((∃ (response : SearchResponse) (hits : Hits),
        client.answer address (.search q) m = (.ok response, m) ∧ response.hits = some hits ∧
        hits.total = total ∧
        ∀ size, total ≤ size → ∃ listing,
          client.answer address (.search { q with start := some 0, size := some size }) m =
            (.ok listing, m) ∧
          listing.ids.length = total ∧ listing.ids.Nodup ∧ m.LosesOnly address listing.ids m') ∨
      m.PanicsSorting address q ∧ insertionLimit < total ∧
        ¬Consistent q.sort ((m.documents address).selected m.patterns q.filter)) := by
  cases hmatching : (m.documents address).matching m.patterns q.filter with
  | error failure => exact .inl ⟨failure, refuses_of_matching hmatching⟩
  | ok matched =>
    obtain ⟨m', hdelete⟩ : ∃ m', m.deleteByQuery address q = .ok m' := by
      rw [Memory.deleteByQuery, hmatching]
      exact ⟨_, rfl⟩
    have hselected := Documents.eq_selected_of_matching hmatching
    refine .inr ⟨matched.length, m', ?_, ?_, ?_, ?_⟩
    · show (m.count address q, m) = (.ok matched.length, m)
      rw [count_of_matching hmatching]
    · show m.settle (m.deleteByQuery address q) = (.ok (), m')
      rw [hdelete, settle]
    · show (m'.count address q, m') = (.ok 0, m')
      rw [count_of_deleteByQuery hdelete]
    · cases hsorted : sortDocuments m.sorting q.sort matched with
      | error failure =>
        obtain ⟨rfl, hmany, hinconsistent⟩ := sortDocuments_eq_error hsorted
        exact .inr ⟨search_of_sortDocuments_eq_error hmatching hsorted, hmany,
          hselected ▸ hinconsistent⟩
      | ok sorted =>
        obtain ⟨response, hits, hsearch, hhits, htotal⟩ :=
          exists_search_of_sorted hmatching hsorted
        refine .inl ⟨response, hits, ?_, hhits, htotal, fun size hsize => ?_⟩
        · show (m.search address q, m) = (.ok response, m)
          rw [hsearch]
        · obtain ⟨listing, hlisting, hperm⟩ := exists_listing_of_sorted hmatching hsorted hsize
          have hlength : listing.ids.length = matched.length := by
            rw [hperm.length_eq, List.length_map, ← hselected]
          have hnodup : listing.ids.Nodup :=
            hperm.nodup_iff.2 (Documents.nodup_ids_selected _ _)
          refine ⟨listing, ?_, hlength, hnodup, losesOnly_of_deleteByQuery hdelete hperm⟩
          show (m.search address _, m) = (.ok listing, m)
          rw [hlisting]

/-! ## A search that panics -/

/-- Twenty-one bodies with falling numbers, one of which is missing. -/
def fallingBodies : List (String × Record) :=
  (List.range 21).map fun i => (String.ofList [Char.ofNat (97 + i)],
    if i = 5 then [] else [("n", Json.num (.int (21 - (i : Int))))])

/-- The documents of these bodies. -/
def fallingDocuments : Documents :=
  Std.TreeMap.ofList fallingBodies

/-- A store of falling numbers, with a library that finds every inconsistency. -/
def falling : Memory :=
  { documents := fun _ => fallingDocuments, sorting := .strict }

/-- Two numbers in the wrong order are both level with the one that is missing. -/
lemma not_consistent_falling : ¬Consistent [⟨"n", .asc⟩] fallingDocuments.toDocuments := by
  let two : StoredDocument := ⟨"t", [("n", .num (.int 2))]⟩
  let missing : StoredDocument := ⟨"f", []⟩
  let one : StoredDocument := ⟨"u", [("n", .num (.int 1))]⟩
  have hdistinct : fallingBodies.Pairwise fun e f => ¬compare e.1 f.1 = .eq := by
    decide +kernel
  have hmem (i : Nat) (d : StoredDocument) (hd : fallingBodies[i]? = some (d.id, d.body)) :
      d ∈ fallingDocuments.toDocuments :=
    (Documents.mem_toDocuments _ d).2 (Std.TreeMap.getElem?_ofList_of_mem
      Std.ReflCmp.compare_self hdistinct (List.mem_of_getElem? hd))
  intro h
  exact h two (hmem 19 two rfl) missing (hmem 5 missing rfl) one (hmem 20 one rfl)
    (by decide +kernel) (by decide +kernel) (by decide +kernel)

lemma length_falling : fallingDocuments.toDocuments.length = 21 := by
  decide +kernel

/-- Sorting by the numbers panics. -/
lemma sortDocuments_falling :
    sortDocuments .strict [⟨"n", .asc⟩] fallingDocuments.toDocuments =
      .error (.panicked .inconsistentOrder) := by
  refine sortDocuments_strict ?_ not_consistent_falling
  rw [length_falling]
  decide

lemma matching_falling (address : Address) :
    (falling.documents address).matching falling.patterns .matchAll =
      .ok fallingDocuments.toDocuments :=
  Documents.matching_matchAll fallingDocuments _

/-- Everything is counted without being sorted. -/
lemma count_falling {address : Address} {q : Query} (hfilter : q.filter = .matchAll) :
    falling.count address q = .ok 21 := by
  rw [count_of_matching (hfilter ▸ matching_falling address), length_falling]

/-- The search panics where counting succeeds, and so does the removal. -/
theorem search_panics_alone :
    let address : Address := ⟨"app", "item"⟩
    let q : Query := { typeName := "item", sort := [⟨"n", .asc⟩] }
    client.answer address (.search q) falling = (.error (.panicked .inconsistentOrder), falling) ∧
      client.answer address (.count q) falling = (.ok 21, falling) ∧
      ∃ m', client.answer address (.deleteByQuery q) falling = (.ok (), m') ∧
        client.answer address (.count q) m' = (.ok 0, m') := by
  intro address q
  have hpanics : falling.search address q = .error (.panicked .inconsistentOrder) :=
    search_of_sortDocuments_eq_error (matching_falling address) sortDocuments_falling
  have hcount : falling.count address q = .ok 21 := count_falling rfl
  obtain ⟨m', hdelete⟩ : ∃ m', falling.deleteByQuery address q = .ok m' := by
    rw [Memory.deleteByQuery, matching_falling]
    exact ⟨_, rfl⟩
  refine ⟨?_, ?_, m', ?_, ?_⟩
  · show (falling.search address q, falling) = _
    rw [hpanics]
  · show (falling.count address q, falling) = _
    rw [hcount]
  · show falling.settle (falling.deleteByQuery address q) = _
    rw [hdelete, settle]
  · show (m'.count address q, m') = _
    rw [count_of_deleteByQuery hdelete]

end Memory

end CriteriaSearch

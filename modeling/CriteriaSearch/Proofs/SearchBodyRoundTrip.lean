import CriteriaSearch.Proofs.CompiledQueries
import CriteriaSearch.Proofs.Records
import CriteriaSearch.SearchBody.Writer
import CriteriaSearch.Store.Memory

/-!
# Search bodies read back

The body that is written for a query reads back as that query.  The writer and the reader have rules
of their own for the shape of an object, and three facts about compiled queries make them meet: a
term is never asked to be an object, which the reader would open; no bound is set twice, of which
the writer would keep one; and the window is given by unsigned 64-bit integers, the only ones that
the reader takes.

Patterns are written unanchored and in both cases, and operators of a store under their own names,
so queries with either do not read back; nor do statistics and facets.
-/

namespace CriteriaSearch

mutual

/-- Whether a filter holds neither a pattern nor an operator that is left to the store. -/
def Filter.isPortable : Filter → Bool
  | .regexp _ _ => false
  | .passThrough _ _ _ => false
  | .not f => f.isPortable
  | .and fs => Filter.arePortable fs
  | .or fs => Filter.arePortable fs
  | _ => true

/-- Whether all filters are portable. -/
def Filter.arePortable : List Filter → Bool
  | [] => true
  | f :: rest => f.isPortable && Filter.arePortable rest

end

lemma Filter.isPortable_of_arePortable {fs : List Filter} (h : Filter.arePortable fs = true) :
    ∀ f ∈ fs, f.isPortable = true := by
  induction fs with
  | nil => simp
  | cons f rest ih =>
    simp only [Filter.arePortable, Bool.and_eq_true] at h
    exact List.forall_mem_cons.2 ⟨h.1, ih h.2⟩

namespace SearchBody

/-! ## Filters -/

lemma boundOf_name (b : RangeBound) : boundOf b.name = .ok b := by
  cases b <;> rfl

lemma name_injective : Function.Injective RangeBound.name := by
  intro a b h
  have hbounds := congrArg boundOf h
  rw [boundOf_name, boundOf_name] at hbounds
  exact Except.ok.inj hbounds

/-- Distinct bounds are written one by one. -/
lemma boundsBody_of_nodup {bounds : List (RangeBound × Json)}
    (h : (bounds.map Prod.fst).Nodup) :
    boundsBody bounds = .obj (bounds.map fun e => (e.1.name, e.2)) := by
  have hdistinct : Record.DistinctKeys (bounds.map fun e => (e.1.name, e.2)) := by
    have hnames := h.map name_injective
    rw [List.map_map] at hnames
    rw [Record.DistinctKeys, List.map_map]
    exact hnames
  rw [boundsBody, Record.ofEntries_of_distinctKeys hdistinct]

lemma rangeOf_single {bounds : List (RangeBound × Json)} (field : String)
    (h : (bounds.map Prod.fst).Nodup) :
    rangeOf (single field (boundsBody bounds)) = .ok (.range field bounds) := by
  have hbounds : (bounds.map fun e => (e.1.name, e.2)).mapM
      (fun e => do return (← boundOf e.1, e.2)) = (.ok bounds : Except StoreFailure _) := by
    clear h
    induction bounds with
    | nil => rfl
    | cons b rest ih =>
      rw [List.map_cons, List.mapM_cons, ih, boundOf_name]
      rfl
  rw [boundsBody_of_nodup h]
  simp only [rangeOf, single, singleEntry, bind, Except.bind] at hbounds ⊢
  rw [hbounds]
  rfl

lemma termOf_single {v : Json} (field : String) (h : v.obj? = none) :
    termOf (single field v) = .ok (.term field v) := by
  cases v with
  | obj entries => simp [Json.obj?] at h
  | _ => rfl

/-- No portable filter is written under the key that a negation looks into. -/
lemma field?_filterBody {f : Filter} (h : f.isPortable = true) :
    field? (filterBody f) "filter" = none := by
  cases f <;> first
    | rfl
    | simp [Filter.isPortable] at h

lemma filterOf_not {body : Json} (h : field? body "filter" = none) :
    filterOf (single "not" body) = (filterOf body).map .not := by
  rw [single, filterOf.eq_def]
  simp only [String.reduceEq, if_false, if_true]
  generalize field? body "filter" = inner at h ⊢
  subst h
  rfl

lemma filtersOf_filterBodies {fs : List Filter}
    (h : ∀ f ∈ fs, filterOf (filterBody f) = .ok f) : filtersOf (filterBodies fs) = .ok fs := by
  induction fs with
  | nil => rw [filterBodies, filtersOf]
  | cons f rest ih =>
    rw [List.forall_mem_cons] at h
    rw [filterBodies, filtersOf, h.1, ih h.2]
    rfl

lemma filterListOf_filterBodies {fs : List Filter}
    (h : ∀ f ∈ fs, filterOf (filterBody f) = .ok f) :
    filterListOf (.arr (filterBodies fs)) = .ok fs := by
  rw [filterListOf]
  exact filtersOf_filterBodies h

/-- **The body of a well-formed portable filter reads back as the filter.** -/
theorem filterOf_filterBody {f : Filter} (hwell : f.WellFormed) (hportable : f.isPortable = true) :
    filterOf (filterBody f) = .ok f := by
  induction hwell with
  | matchAll => simp [filterBody, single, filterOf]
  | term field hv => simpa [filterBody, single, filterOf] using termOf_single field hv
  | terms field vs => simp [filterBody, single, filterOf, termsOf, singleEntry]; rfl
  | ids vs typeName =>
    cases typeName <;>
      simp [filterBody, single, filterOf, idsOf, field?, Record.get?, Json.str?]
  | range field hbounds => simpa [filterBody, single, filterOf] using rangeOf_single field hbounds
  | regexp field pattern => simp [Filter.isPortable] at hportable
  | @not f hf ih =>
    have hinner : f.isPortable = true := hportable
    have hfilter := field?_filterBody hinner
    have hread := ih hinner
    rw [filterBody, filterOf_not hfilter, hread]
    rfl
  | @and fs _ ih =>
    have hfs := Filter.isPortable_of_arePortable hportable
    have hlist := filterListOf_filterBodies fun f hf => ih f hf (hfs f hf)
    simp [filterBody, single, filterOf, hlist, Except.map]
  | @or fs _ ih =>
    have hfs := Filter.isPortable_of_arePortable hportable
    have hlist := filterListOf_filterBodies fun f hf => ih f hf (hfs f hf)
    simp [filterBody, single, filterOf, hlist, Except.map]
  | passThrough field operator v => simp [Filter.isPortable] at hportable

/-! ## Queries -/

lemma queryOf_filtered {f : Filter} (h : filterOf (filterBody f) = .ok f) :
    queryOf (single "filtered" (single "filter" (filterBody f))) = .ok f := by
  have hparts : filteredOf [("filter", filterBody f)] = .ok [f] := by
    simp [filteredOf, h, bind, Except.bind, pure, Except.pure]
  rw [single, single, queryOf.eq_def]
  simp [hparts, Except.map, Filter.all]

lemma countOf_nat {n : Nat} (key : String) (h : n < 0x10000000000000000) :
    countOf key (.nat n) = .ok n := by
  have hrange : (0 : Int) ≤ n ∧ (n : Int) < 0x10000000000000000 := by omega
  rw [countOf, Json.nat, Json.unsigned?, JsonNumber.toUnsigned?, if_pos hrange]
  rfl

lemma sortKeysOf_sortKeyBody (k : SortKey) : sortKeysOf (sortKeyBody k) = .ok [k] := by
  obtain ⟨field, direction⟩ := k
  cases direction <;> rfl

lemma sortOf_map_sortKeyBody (keys : List SortKey) :
    sortOf (.arr (keys.map sortKeyBody)) = .ok keys := by
  have hkeys : (keys.map sortKeyBody).mapM sortKeysOf =
      (.ok (keys.map fun k => [k]) : Except StoreFailure _) := by
    induction keys with
    | nil => rfl
    | cons k rest ih =>
      rw [List.map_cons, List.mapM_cons, ih, sortKeysOf_sortKeyBody]
      rfl
  have hflatten : (keys.map fun k => [k]).flatten = keys := by
    rw [← List.flatMap_def, List.flatMap_singleton']
  rw [sortOf, hkeys]
  exact congrArg Except.ok hflatten

/-- **The body of a query reads back as the query**, if it asks neither for statistics nor for
facets, its filter reads back and its window is given by unsigned 64-bit integers. -/
theorem toQuery?_ofQuery {q : Query} (hfilter : filterOf (filterBody q.filter) = .ok q.filter)
    (hsize : ∀ n ∈ q.size, n < 0x10000000000000000)
    (hstart : ∀ n ∈ q.start, n < 0x10000000000000000)
    (haggregations : q.aggregations = none) (hfacets : q.facets = none) :
    toQuery? q.typeName (ofQuery q) = .ok q := by
  obtain ⟨typeName, f, sort, size, start, aggregations, facets, fetchSource⟩ := q
  obtain rfl : aggregations = none := haggregations
  obtain rfl : facets = none := hfacets
  -- Every part of the body is read into the query that the parts before it left.
  have hquery : (queryEntries ⟨typeName, f, sort, size, start, none, none, fetchSource⟩).foldlM
      readEntry ({ typeName }, []) = .ok ({ typeName }, [f]) := by
    simp [queryEntries, readEntry, queryOf_filtered hfilter]
  have hsizes : (optionalEntry "size" (size.map Json.nat)).foldlM readEntry ({ typeName }, [f]) =
      .ok ({ typeName, size }, [f]) := by
    cases size with
    | none => rfl
    | some n => simp [optionalEntry, readEntry, countOf_nat "size" (hsize n rfl)]
  have hstarts : (optionalEntry "from" (start.map Json.nat)).foldlM readEntry
      ({ typeName, size }, [f]) = .ok ({ typeName, size, start }, [f]) := by
    cases start with
    | none => rfl
    | some n => simp [optionalEntry, readEntry, countOf_nat "from" (hstart n rfl)]
  have hsorts : (optionalEntry "sort" (if sort.isEmpty then none
      else some (.arr (sort.map sortKeyBody)))).foldlM readEntry
        ({ typeName, size, start }, [f]) = .ok ({ typeName, size, start, sort }, [f]) := by
    cases sort with
    | nil => rfl
    | cons k rest =>
      have hsort := sortOf_map_sortKeyBody (k :: rest)
      rw [List.map_cons] at hsort
      simp [optionalEntry, readEntry, hsort]
  have hsources : (optionalEntry "_source" (if fetchSource then none
      else some (.bool false))).foldlM readEntry ({ typeName, size, start, sort }, [f]) =
        .ok ({ typeName, size, start, sort, fetchSource }, [f]) := by
    cases fetchSource <;> rfl
  have hnone : ∀ key, optionalEntry key none = [] := fun _ => rfl
  simp only [ofQuery, toQuery?, List.append_assoc, Option.map_none, hnone, List.nil_append]
  rw [foldlM_append_of_ok hquery, foldlM_append_of_ok hsizes, foldlM_append_of_ok hstarts,
    foldlM_append_of_ok hsorts, hsources]
  rfl

/-! ## Compiled queries -/

/-- A query as it is sent on: with a size where it has none, or for identifiers only. -/
def adjusted (q : Query) (limit : Option UInt64) (bare : Bool) : Query :=
  let sized :=
    match limit with
    | some n => q.withDefaultSize n.toNat
    | none => q
  if bare then sized.withoutSource else sized

/-- Adjusting touches nothing but the size and the source switch. -/
lemma adjusted_eq (q : Query) (limit : Option UInt64) (bare : Bool) :
    adjusted q limit bare =
      { q with
        size := q.size.or (limit.map UInt64.toNat)
        fetchSource := q.fetchSource && !bare } := by
  obtain ⟨typeName, f, sort, size, start, aggregations, facets, fetchSource⟩ := q
  cases size <;> cases limit <;> cases bare <;>
    simp [adjusted, Query.withDefaultSize, Query.withoutSource]

/-- **A compiled query is what its search body reads back as**, as it is and adjusted.  So searching
by the body and searching by the query are answered alike in every state of the in-memory store. -/
theorem toQuery?_ofQuery_of_ofCriteria (schema : Schema) (typeName : String) (value : Json)
    (criteria : Criteria) (q : Query) (limit : Option UInt64) (bare : Bool)
    (hcriteria : Criteria.ofJson? value = .ok criteria)
    (hcompiled : Query.ofCriteria schema typeName criteria = .ok q)
    (haggregations : q.aggregations = none) (hfacets : q.facets = none)
    (hportable : q.filter.isPortable = true) :
    toQuery? typeName (ofQuery (adjusted q limit bare)) = .ok (adjusted q limit bare) ∧
      ∀ (m : Memory) (index : String),
        Memory.client.answer ⟨index, typeName⟩ (.rawSearch (ofQuery (adjusted q limit bare))) m =
          Memory.client.answer ⟨index, typeName⟩ (.search (adjusted q limit bare)) m := by
  have hwell := Criteria.wellFormed_of_ofJson? hcriteria
  have hq := Query.of_ofCriteria hcompiled
  have htype : q.typeName = typeName := by rw [hq]
  have hsize : q.size = criteria.limit := by rw [hq]
  have hstart : q.start = criteria.skip := by rw [hq]
  have hfilter : filterOf (filterBody q.filter) = .ok q.filter := by
    refine filterOf_filterBody ?_ hportable
    rw [hq]
    exact Filter.wellFormed_ofWhere hwell.clause
  have hsizes : ∀ n ∈ q.size.or (limit.map UInt64.toNat), n < 0x10000000000000000 := by
    intro n hn
    rcases Option.or_eq_some_iff.1 hn with hn | ⟨-, hn⟩
    · exact hwell.limit n (hsize ▸ hn)
    · obtain ⟨k, -, rfl⟩ := Option.map_eq_some_iff.1 hn
      exact k.toNat_lt
  have hread : toQuery? typeName (ofQuery (adjusted q limit bare)) =
      .ok (adjusted q limit bare) := by
    rw [adjusted_eq, ← htype]
    exact toQuery?_ofQuery (q := { q with
      size := q.size.or (limit.map UInt64.toNat)
      fetchSource := q.fetchSource && !bare }) hfilter hsizes (hstart ▸ hwell.skip)
      haggregations hfacets
  refine ⟨hread, fun m index => ?_⟩
  simp only [Memory.client, Memory.answer, hread, Except.bind]

/-- Bounds that are set again, a negated list, identifiers and an empty clause under a disjunction,
with a window and an order. -/
theorem toQuery?_ofQuery_of_ofCriteria_nested :
    let schema := Schema.ofList [("price", { type := .integer })]
    let value : Json := .obj
      [("where", .obj
        [("price", .obj [(">", .str "3"), ("<", .str "9"), ("gt", .str "5"),
          ("not", .arr [.str "7"])]),
         ("or", .arr [.obj [("id", .str "a")], .obj []])]),
       ("sort", .obj [("id", .num (.int 0))]), ("skip", .num (.int 2))]
    let criteria : Criteria :=
      { clause := some (.all
          [.fields [("price", .modifiers [.range .gt (.str "3"), .range .lt (.str "9"),
            .range .gt (.str "5"), .not (.oneOf [.str "7"])])],
           .or [.fields [("id", .literal (.str "a"))], .fields []]])
        sort := [⟨"id", .desc⟩], skip := some 2 }
    let q : Query :=
      { typeName := "item"
        filter := .and
          [.and [.range "price" [(.gt, .num (.int 5)), (.lt, .num (.int 9))],
            .not (.terms "price" [.num (.int 7)])],
           .or [.ids [.str "a"] (some "item"), .matchAll]]
        sort := [⟨"_id", .desc⟩], start := some 2 }
    Criteria.ofJson? value = .ok criteria ∧ Query.ofCriteria schema "item" criteria = .ok q ∧
      toQuery? "item" (ofQuery (adjusted q (some 10) true)) = .ok (adjusted q (some 10) true) := by
  intro schema value criteria q
  have hcriteria : Criteria.ofJson? value = .ok criteria := by
    rfl
  have hcompiled : Query.ofCriteria schema "item" criteria = .ok q := by
    rfl
  exact ⟨hcriteria, hcompiled, (toQuery?_ofQuery_of_ofCriteria schema "item" value criteria q
    (some 10) true hcriteria hcompiled rfl rfl rfl).1⟩

end SearchBody

end CriteriaSearch

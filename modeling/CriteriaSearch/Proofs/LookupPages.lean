import CriteriaSearch.Proofs.IdentifierLookup
import CriteriaSearch.Proofs.Pagination
import CriteriaSearch.Proofs.QueryRequests
import Mathlib.Data.List.Dedup

/-!
# Following the pages of a look-up

Criteria that ask for identifiers from a list are looked up, and their pages are windows of what the
look-up finds: a record for each time that the identifier of a stored document is named
(`Documents.named`).  The total on each page is a count by the filter, and that counts a document
once however often it is named.  Following the pages ends where the total is reached, so what is
named again takes the place of what comes behind it.

Pages hold all that is found, and as many items as they tell, exactly where no stored document is
named twice, or where those that the total reaches fill whole pages and are all different
(`Collection.pages_hold_all_iff`).  A list with a value that is no identifier is searched for, and
then nothing is lost.
-/

namespace CriteriaSearch

/-! ## Lists with repetitions -/

section Repetitions

variable {α : Type} [DecidableEq α] {l : List α} {n : Nat}

lemma length_dedup_eq_iff : l.dedup.length = l.length ↔ l.Nodup := by
  constructor
  · intro hlength
    rw [← List.dedup_eq_self]
    exact (List.dedup_sublist l).eq_of_length hlength
  · intro hnodup
    rw [hnodup.dedup]

/-- A list that has each of the members of another one, and not more entries than there are
different ones, has each of them once. -/
lemma perm_dedup_of_covers {part : List α} (hcovers : l ⊆ part)
    (hlength : part.length ≤ l.dedup.length) : l.dedup.Perm part := by
  have hsubset : l.dedup ⊆ part := by
    intro a ha
    exact hcovers (List.mem_dedup.1 ha)
  exact (List.subperm_of_subset (List.nodup_dedup l) hsubset).perm_of_length_le hlength

/-- A list of different members of another one, as many as there are, has each of them once. -/
lemma perm_dedup_of_nodup {part : List α} (hnodup : part.Nodup) (hsubset : part ⊆ l)
    (hlength : l.dedup.length ≤ part.length) : part.Perm l.dedup := by
  have hsubsetDedup : part ⊆ l.dedup := by
    intro a ha
    exact List.mem_dedup.2 (hsubset ha)
  exact (List.subperm_of_subset hnodup hsubsetDedup).perm_of_length_le hlength

/-- The beginning of a list has each of its members, and as many entries as there are different
ones, exactly where it is all of a list without repetitions or has each of them once. -/
lemma take_covers_iff (h : l.dedup.length ≤ n) :
    ((∀ a ∈ l, a ∈ l.take n) ∧ l.dedup.length = (l.take n).length) ↔
      l.Nodup ∨ (n = l.dedup.length ∧ (l.take n).Nodup) := by
  have hle : l.dedup.length ≤ l.length := (List.dedup_sublist l).length_le
  constructor
  · rintro ⟨hcovers, hlength⟩
    by_cases hall : l.length ≤ n
    · left
      rw [List.take_of_length_le hall] at hlength
      exact length_dedup_eq_iff.1 hlength
    · right
      have hperm : l.dedup.Perm (l.take n) := perm_dedup_of_covers hcovers hlength.ge
      rw [List.length_take] at hlength
      refine ⟨?_, hperm.nodup_iff.1 (List.nodup_dedup l)⟩
      omega
  · rintro (hnodup | ⟨hn, hnodup⟩)
    · have hlength : l.dedup.length = l.length := length_dedup_eq_iff.2 hnodup
      rw [List.take_of_length_le (by omega)]
      exact ⟨fun a ha => ha, hlength⟩
    · have hlength : (l.take n).length = l.dedup.length := by
        rw [List.length_take]
        omega
      have hperm : (l.take n).Perm l.dedup :=
        perm_dedup_of_nodup hnodup (List.take_subset n l) hlength.ge
      refine ⟨?_, hlength.symm⟩
      intro a ha
      exact hperm.mem_iff.2 (List.mem_dedup.2 ha)

/-- The pages that are needed for a total have no room beyond it exactly where it fills whole
pages. -/
lemma room_eq_iff {count perPage total : Nat} (hreach : total ≤ count * perPage)
    (hlast : count = 1 ∨ (count - 1) * perPage < total) (htotal : 0 < total) :
    count * perPage = total ↔ perPage ∣ total := by
  constructor
  · rintro rfl
    exact Nat.dvd_mul_left perPage count
  · rintro ⟨full, rfl⟩
    rw [Nat.mul_comm perPage full] at hreach hlast htotal ⊢
    have hperPage : 0 < perPage := Nat.pos_of_mul_pos_left htotal
    have hfull : 0 < full := Nat.pos_of_mul_pos_right htotal
    have hfew : full ≤ count := Nat.le_of_mul_le_mul_right hreach hperPage
    have hmany : count ≤ full := by
      rcases hlast with hone | hlt
      · omega
      · have hsmaller : count - 1 < full := Nat.lt_of_mul_lt_mul_right hlt
        omega
    rw [le_antisymm hmany hfew]

end Repetitions

/-! ## Records that are looked up -/

/-- Where identifiers are text or nothing is declared, coercion keeps what denotes an identifier,
and makes nothing into one. -/
lemma Json.idText?_coerce {type : Option AttributeType} (htype : ∀ t ∈ type, t.isTextual = true)
    (v : Json) : (v.coerce type).idText? = v.idText? := by
  by_cases hv : v.idText?.isSome = true
  · rw [coerce_eq_self htype hv]
  · cases v with
    | str s => simp [Json.idText?] at hv
    | num n => simp [Json.idText?] at hv
    | _ => rfl

namespace Documents

variable (ds : Documents)

/-- The stored identifiers of a list, as often as it has them. -/
def named (ids : List String) : List String :=
  ids.filter fun id => ds.contains id

/-- The record of the document with an identifier. -/
def recordAt (id : String) : Record :=
  Document.hydrate id (ds[id]?.getD [])

/-- Different documents have different records. -/
lemma recordAt_injective : Function.Injective ds.recordAt := by
  intro id other hsame
  have hid := congrArg (Record.get? · Schema.idField) hsame
  simp only [recordAt, Document.get?_hydrate] at hid
  exact Json.str.inj (Option.some.inj hid)

/-- A look-up finds a record for each stored identifier that it names. -/
lemma filterMap_record? (ids : List String) :
    ids.filterMap ds.record? = (ds.named ids).map ds.recordAt := by
  induction ids with
  | nil => rfl
  | cons id rest ih =>
    rw [named] at ih ⊢
    rw [List.filterMap_cons, List.filter_cons, record?, Std.TreeMap.contains_eq_isSome_getElem?]
    cases hstored : ds[id]? with
    | none => simpa using ih
    | some body =>
      have hrecord : ds.recordAt id = Document.hydrate id body := by
        rw [recordAt, hstored]
        rfl
      simp [ih, hrecord]

variable {ds} in
lemma mem_named {ids : List String} {id : String} : id ∈ ds.named ids ↔ id ∈ ids ∧ id ∈ ds := by
  simp [named]

/-- No more different documents are named than there are. -/
lemma length_dedup_named_le (ids : List String) : (ds.named ids).dedup.length ≤ ds.size := by
  have hsub : (ds.named ids).dedup ⊆ ds.keys := by
    intro id hid
    rw [List.mem_dedup, mem_named] at hid
    exact Std.TreeMap.mem_keys.2 hid.2
  have hle := (List.subperm_of_subset (List.nodup_dedup _) hsub).length_le
  rwa [Std.TreeMap.length_keys] at hle

end Documents

/-! ## Pages that hold all of their records -/

/-- Whether pages hold every one of the given records, and tell how many items they hold. -/
structure HoldAll (pages : List (Page Record)) (records : List Record) : Prop where
  held : ∀ r ∈ records, r ∈ pages.flatMap Page.items
  counted : ∀ page ∈ pages, page.count = (pages.flatMap Page.items).length

lemma Divides.holdAll_iff {perPage total : Nat} {items records : List Record}
    {pages : List (Page Record)} (h : Divides perPage total items pages) (hsome : pages ≠ []) :
    HoldAll pages records ↔ (∀ r ∈ records, r ∈ items) ∧ total = items.length := by
  have hitems := h.items_eq
  constructor
  · rintro ⟨hheld, hcounted⟩
    rw [hitems] at hheld hcounted
    obtain ⟨page, hpage⟩ := List.exists_mem_of_ne_nil pages hsome
    exact ⟨hheld, (h.counted page hpage).symm.trans (hcounted page hpage)⟩
  · rintro ⟨hheld, htotal⟩
    refine ⟨?_, fun page hpage => ?_⟩
    · rwa [hitems]
    · rw [hitems, h.counted page hpage, htotal]

namespace Collection

variable {c : Collection} {m : Memory} {criteria : Criteria} {vs : List Json} {q : Query}

/-! ## Identifiers from a list -/

/-- Where identifiers are text or nothing is declared, a document is matched exactly where the list
has its identifier. -/
lemma holds_filterOf_oneOf
    (hclause : criteria.clause = some (.fields [(Schema.idField, .oneOf vs)]))
    (htype : ∀ t ∈ c.schema.schema.declaredType? Schema.idField, t.isTextual = true)
    (patterns : PatternLibrary) (id : String) (body : Record) :
    (c.filterOf criteria).holds patterns id body =
      .ok (decide (id ∈ vs.filterMap Json.idText?)) := by
  have hreading := Clause.isTrueOf_oneOf_iff c.schema.schema vs id body
  have hcoerced : (vs.map (c.schema.schema.coerce Schema.idField)).filterMap Json.idText? =
      vs.filterMap Json.idText? := by
    rw [List.filterMap_map]
    exact List.filterMap_congr fun v _ => Json.idText?_coerce htype v
  rw [hcoerced] at hreading
  have hholds : (Filter.ofClause c.schema.schema c.schema.typeName
      (.fields [(Schema.idField, .oneOf vs)])).holds patterns id body =
        .ok ((Clause.fields [(Schema.idField, .oneOf vs)]).isTrueOf c.schema.schema id body) := by
    rw [Filter.ofClause, Filter.holds_all, Clause.isTrueOf]
    refine Filter.allHold_map (List.forall_mem_singleton.2 ?_)
    rw [Filter.ofExpression, Filter.holds_ofList]
  rw [filterOf, hclause, Filter.ofWhere_some, hholds, Except.ok.injEq, Bool.eq_iff_iff, hreading,
    decide_eq_true_iff]

/-- The count is that of the stored documents that the list names, each counted once. -/
lemma result_count_oneOf
    (hclause : criteria.clause = some (.fields [(Schema.idField, .oneOf vs)]))
    (hcompile : c.compile criteria = .ok q)
    (htype : ∀ t ∈ c.schema.schema.declaredType? Schema.idField, t.isTextual = true) :
    ((c.count criteria).run Memory.client m).result =
      .ok ((m.documents c.address).named (vs.filterMap Json.idText?)).dedup.length := by
  have hholds := holds_filterOf_oneOf hclause htype
  have hfilter : q.filter = c.filterOf criteria := (eq_of_compile hcompile).1
  have hmatching : (m.documents c.address).matching m.patterns q.filter =
      .ok ((m.documents c.address).selected m.patterns q.filter) := by
    rw [Documents.matching_eq_ok_iff]
    refine ⟨rfl, fun d _ => ?_⟩
    rw [hfilter]
    exact ⟨_, hholds m.patterns d.id d.body⟩
  have hperm : (((m.documents c.address).selected m.patterns q.filter).map StoredDocument.id).Perm
      ((m.documents c.address).named (vs.filterMap Json.idText?)).dedup := by
    rw [List.perm_ext_iff_of_nodup (Documents.nodup_ids_selected _ _) (List.nodup_dedup _)]
    intro id
    rw [Documents.mem_ids_selected, List.mem_dedup, Documents.mem_named, hfilter,
      Std.TreeMap.mem_iff_isSome_getElem?, Option.isSome_iff_exists]
    simp only [hholds, Except.ok.injEq, decide_eq_true_iff, exists_and_right]
    exact and_comm
  rw [count, hcompile]
  show ((Session.request c.address (.count q)).run Memory.client m).result = _
  rw [Session.result_request]
  show (m.count c.address q).mapError SearchError.store = _
  rw [Memory.count_of_matching hmatching, ← hperm.length_eq, List.length_map]
  rfl

/-- Where identifiers are looked up, pages are windows of what the look-up finds. -/
lemma windows_of_lookup {ids : List String} {total : Nat} (hlookup : criteria.idLookup? = some ids)
    (h : ((c.count criteria).run Memory.client m).result = .ok total) :
    c.Windows m criteria (ids.filterMap (m.documents c.address).record?) total := by
  intro p page hpage
  have hwindow : (p.window criteria).idLookup? = some ids := hlookup
  refine yields_paginate h (c.result_find_of_lookup m hwindow) ?_
  rw [hlookup]
  exact hpage

/-- Pages of a search hold all that is found. -/
lemma exists_holdAll_of_search {total perPage : Nat} {ds : List StoredDocument}
    (hlookup : criteria.idLookup? = none)
    (hcount : ((c.count criteria).run Memory.client m).result = .ok total)
    (hlisted : c.listed m criteria = .ok ds) (htotal : total ≤ PageRequest.maxPosition)
    (hperPage : 1 ≤ perPage) :
    ∃ pages found, c.PagesFrom m criteria perPage 1 pages ∧
      ((c.find criteria).run Memory.client m).result = .ok found ∧ HoldAll pages found.records := by
  obtain ⟨q, hcompile, hmatching, hlength⟩ := exists_of_count hcount
  have hlisting : m.listing c.address q = .ok ds := by
    rw [Memory.listing, hmatching, Except.bind, Query.of_ofCriteria hcompile]
    exact hlisted
  obtain ⟨pages, hpages, hdivides⟩ :=
    exists_pagesFrom_succ hlookup hcount hlisted htotal hperPage 0 (.inl rfl)
  rw [Nat.zero_mul, List.drop_zero] at hdivides
  refine ⟨pages, _, hpages, (result_find_eq_ok_iff hlookup).2 ⟨q, _, hcompile, hlisting, rfl⟩,
    (hdivides.holdAll_iff hpages.ne_nil).2 ⟨fun r hr => ?_, ?_⟩⟩
  · rw [Query.records_found] at hr
    obtain ⟨d, hd, rfl⟩ := List.mem_map.1 hr
    exact List.mem_map_of_mem (List.mem_of_mem_drop (List.mem_of_mem_take hd))
  · rw [List.length_map, (sortDocuments_perm hlisted).length_eq, hlength]

/-- Pages of a look-up hold all that is found where it names no document twice, or where the
documents that the total reaches fill whole pages and are all different. -/
lemma exists_holdAll_iff_of_lookup {ids : List String} {perPage : Nat}
    (hlookup : criteria.idLookup? = some ids)
    (hcount : ((c.count criteria).run Memory.client m).result =
      .ok ((m.documents c.address).named ids).dedup.length)
    (htotal : ((m.documents c.address).named ids).dedup.length ≤ PageRequest.maxPosition)
    (hperPage : 1 ≤ perPage) :
    ∃ pages found, c.PagesFrom m criteria perPage 1 pages ∧
      ((c.find criteria).run Memory.client m).result = .ok found ∧
      (HoldAll pages found.records ↔
        let named := (m.documents c.address).named ids
        named.Nodup ∨
          (perPage ∣ named.dedup.length ∧ (named.take named.dedup.length).Nodup)) := by
  have hwindows := windows_of_lookup hlookup hcount
  have hfind := c.result_find_of_lookup m hlookup
  rw [Documents.filterMap_record?] at hwindows hfind
  generalize hnamed : (m.documents c.address).named ids = named at hwindows hfind htotal ⊢
  have hlength : named.dedup.length ≤ (named.map (m.documents c.address).recordAt).length := by
    rw [List.length_map]
    exact (List.dedup_sublist named).length_le
  obtain ⟨pages, hpages, hreach, hlast, hdivides⟩ :=
    hwindows.exists_pagesFrom_succ htotal hlength hperPage 0 (.inl rfl)
  rw [Nat.zero_mul, List.drop_zero, ← List.map_take] at hdivides
  rw [Nat.zero_add] at hreach hlast
  refine ⟨pages, _, hpages, hfind, ?_⟩
  have hinjective := (m.documents c.address).recordAt_injective
  rw [hdivides.holdAll_iff hpages.ne_nil, List.length_map]
  simp only [FindResult.records, List.forall_mem_map, List.mem_map_of_injective hinjective]
  rw [take_covers_iff hreach]
  by_cases hnone : named = []
  · simp [hnone]
  · have hpos : 0 < named.dedup.length := by
      rw [List.length_pos_iff]
      exact fun hempty => hnone ((List.dedup_eq_nil named).1 hempty)
    rw [← room_eq_iff hreach hlast hpos]
    refine or_congr_right (and_congr_right fun hroom => ?_)
    rw [hroom]

/-- **Pages of criteria that ask for identifiers from a list lose nothing, and count right, exactly
where the list is searched for, or where it names no stored document twice, or where those that the
total reaches fill whole pages and are all different.**  A list that is searched for has no pages,
and nothing is found, where the sort panics; it does so only for many documents in no consistent
order. -/
theorem pages_hold_all_iff (c : Collection) (m : Memory) (criteria : Criteria) (vs : List Json)
    (perPage : Nat) {q : Query}
    (hclause : criteria.clause = some (.fields [(Schema.idField, .oneOf vs)]))
    (hcompile : c.compile criteria = .ok q)
    (htype : ∀ t ∈ c.schema.schema.declaredType? Schema.idField, t.isTextual = true)
    (hperPage : 1 ≤ perPage) (hsize : (m.documents c.address).size ≤ PageRequest.maxPosition) :
    (∃ pages found, c.PagesFrom m criteria perPage 1 pages ∧
      (∀ others, c.PagesFrom m criteria perPage 1 others → others = pages) ∧
      ((c.find criteria).run Memory.client m).result = .ok found ∧
      (HoldAll pages found.records ↔
        let named := (m.documents c.address).named (vs.filterMap Json.idText?)
        criteria.idLookup? = none ∨ named.Nodup ∨
          (perPage ∣ named.dedup.length ∧ (named.take named.dedup.length).Nodup))) ∨
    (criteria.idLookup? = none ∧
      ((c.find criteria).run Memory.client m).result =
        .error (.store (.panicked .inconsistentOrder)) ∧
      (∀ p, ((c.paginate criteria p).run Memory.client m).result =
        .error (.store (.panicked .inconsistentOrder))) ∧
      insertionLimit < (c.selection m criteria).length ∧
      ¬Consistent (criteria.sort.map SortKey.stored) (c.selection m criteria)) := by
  have hcount := result_count_oneOf (m := m) hclause hcompile htype
  have htotal := (Documents.length_dedup_named_le (m.documents c.address)
    (vs.filterMap Json.idText?)).trans hsize
  cases hlookup : criteria.idLookup? with
  | none =>
    cases hlisted : c.listed m criteria with
    | ok ds =>
      obtain ⟨pages, found, hpages, hfound, hheld⟩ :=
        exists_holdAll_of_search hlookup hcount hlisted htotal hperPage
      exact .inl ⟨pages, found, hpages, fun _ => hpages.unique, hfound,
        iff_of_true hheld (.inl rfl)⟩
    | error failure =>
      obtain ⟨rfl, hmany, hinconsistent⟩ := sortDocuments_eq_error hlisted
      obtain ⟨q', -, -, hfind⟩ := result_find_of_count hlookup hcount criteria.limit criteria.skip
      rw [hlisted] at hfind
      exact .inr ⟨rfl, hfind, result_paginate_of_listed_eq_error hlookup hcount hlisted, hmany,
        hinconsistent⟩
  | some ids =>
    obtain rfl : vs.filterMap Json.idText? = ids := by
      rw [Criteria.idLookup?, hclause] at hlookup
      exact Json.filterMap_idText?_of_mapM hlookup
    obtain ⟨pages, found, hpages, hfound, hheld⟩ :=
      exists_holdAll_iff_of_lookup hlookup hcount htotal hperPage
    refine .inl ⟨pages, found, hpages, fun _ => hpages.unique, hfound, ?_⟩
    rw [hheld]
    simp

/-- A document that is named again behind the others does no harm, where these fill a page. -/
theorem pages_hold_all_iff_named_again :
    let c : Collection := { index := "app", schema := { typeName := "item" } }
    let m := (({} : Memory).put c.address "a" [("n", .str "1")]).put c.address "b" []
    let vs : List Json := [.str "b", .str "missing", .str "a", .str "b"]
    let criteria : Criteria := { clause := some (.fields [(Schema.idField, .oneOf vs)]) }
    c.compile criteria = .ok { typeName := "item", filter := c.filterOf criteria } ∧
      c.schema.schema.declaredType? Schema.idField = none ∧
      (m.documents c.address).size ≤ PageRequest.maxPosition ∧
      ∃ pages found, c.PagesFrom m criteria 2 1 pages ∧
        ((c.find criteria).run Memory.client m).result = .ok found ∧
        HoldAll pages found.records := by
  intro c m vs criteria
  have hcompile :
      c.compile criteria = .ok { typeName := "item", filter := c.filterOf criteria } := rfl
  have htype : c.schema.schema.declaredType? Schema.idField = none := by
    decide
  have htextual : ∀ t ∈ c.schema.schema.declaredType? Schema.idField, t.isTextual = true := by
    rw [htype]
    intro t ht
    cases ht
  have hsize : (m.documents c.address).size ≤ PageRequest.maxPosition := by
    decide
  have hnamed : (m.documents c.address).named (vs.filterMap Json.idText?) = ["b", "a", "b"] := by
    decide
  rcases pages_hold_all_iff c m criteria vs 2 rfl hcompile htextual (by decide) hsize with
    ⟨pages, found, hpages, -, hfound, hheld⟩ | ⟨hlookup, -⟩
  · refine ⟨hcompile, htype, hsize, pages, found, hpages, hfound, hheld.2 (.inr (.inr ?_))⟩
    rw [hnamed]
    decide
  · cases hlookup

/-- The same document twice fills the only page there is; on a page with room for three there is
more than it tells. -/
theorem pages_lose_named_behind :
    let c : Collection := { index := "app", schema := { typeName := "item" } }
    let m := (({} : Memory).put c.address "a" [("n", .str "1")]).put c.address "b" []
    let vs : List Json := [.str "a", .str "a", .str "b"]
    let criteria : Criteria := { clause := some (.fields [(Schema.idField, .oneOf vs)]) }
    let first : Record := [("n", .str "1"), ("id", .str "a")]
    let second : Record := [("id", .str "b")]
    ((c.find criteria).run Memory.client m).result = .ok (.documents [first, first, second]) ∧
      c.PagesFrom m criteria 2 1 [⟨[first, first], 2, none, none⟩] ∧ second ∉ [first, first] ∧
      c.PagesFrom m criteria 3 1 [⟨[first, first, second], 2, none, none⟩] ∧
      [first, first, second].length ≠ 2 := by
  intro c m vs criteria first second
  have hpage : ∀ perPage page,
      ((c.paginate criteria ⟨1, perPage⟩).run Memory.client m).result = .ok page →
      (c.paginate criteria ⟨1, perPage⟩).Yields Memory.client m page m := fun perPage page h =>
    ⟨h, (c.sendsReads_paginate criteria ⟨1, perPage⟩).readsOnly.state_run m⟩
  refine ⟨?_, .last (hpage 2 _ ?_) rfl, ?_, .last (hpage 3 _ ?_) rfl, ?_⟩
  · cbv
  · cbv
  · simp [first, second]
  · cbv
  · decide

end Collection

end CriteriaSearch

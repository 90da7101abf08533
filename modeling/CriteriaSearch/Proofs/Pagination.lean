import CriteriaSearch.Proofs.FoundRecords
import CriteriaSearch.Proofs.PageNumbers
import CriteriaSearch.Proofs.QueryRequests

/-!
# Following the pages of a result

Every page is made of two requests, a count and a search within the window of the page.  On a store
that does not change, the pages that are reached from the first one by following `nextPage` divide
the matching documents, in the order that is asked for, into stretches of the page size.  Counting
does not sort, though: where many documents match that are in no consistent order, the search of a
page may panic, and then no page is made (`Collection.exists_pagesFrom_or_panics`).

Positions are held within 64 bits.  A count is a number of 64 bits itself, so a position that is
held back is beyond every document, and following the pages ends.
-/

namespace CriteriaSearch

/-! ## Pages of a list -/

/-- Whether pages of a size hold a list of items in order, out of a total. -/
structure Divides {α : Type} (perPage total : Nat) (items : List α) (pages : List (Page α)) :
    Prop where
  items_eq : pages.flatMap Page.items = items
  full : ∀ page ∈ pages.dropLast, page.items.length = perPage
  counted : ∀ page ∈ pages, page.count = total

namespace Divides

variable {α : Type} {perPage total : Nat} {items : List α}

/-- A page that holds all items is the only one. -/
lemma single {page : Page α} (hitems : page.items = items) (hcount : page.count = total) :
    Divides perPage total items [page] where
  items_eq := by rw [List.flatMap_singleton, hitems]
  full := by simp
  counted := List.forall_mem_singleton.2 hcount

/-- A full page goes before the pages of the items after it. -/
lemma cons {page : Page α} {pages : List (Page α)} (hitems : page.items = items.take perPage)
    (hlength : perPage ≤ items.length) (hcount : page.count = total) (hpages : pages ≠ [])
    (h : Divides perPage total (items.drop perPage) pages) :
    Divides perPage total items (page :: pages) where
  items_eq := by
    rw [List.flatMap_cons, h.items_eq, hitems, List.take_append_drop]
  full := by
    rw [List.dropLast_cons_of_ne_nil hpages]
    refine List.forall_mem_cons.2 ⟨?_, h.full⟩
    rw [hitems, List.length_take, Nat.min_eq_left hlength]
  counted := List.forall_mem_cons.2 ⟨hcount, h.counted⟩

end Divides

namespace Collection

variable {c : Collection} {m : Memory} {criteria : Criteria}

/-! ## The requests of a page -/

/-- The documents that match criteria. -/
def selection (c : Collection) (m : Memory) (criteria : Criteria) : List StoredDocument :=
  (m.documents c.address).selected m.patterns (c.filterOf criteria)

/-- The documents that match criteria, in the order that is asked for. -/
def listed (c : Collection) (m : Memory) (criteria : Criteria) :
    Except StoreFailure (List StoredDocument) :=
  sortDocuments m.sorting (criteria.sort.map SortKey.stored) (c.selection m criteria)

/-- The window of criteria is that of their query. -/
lemma compile_window (c : Collection) (criteria : Criteria) (limit skip : Option Nat) :
    c.compile { criteria with limit, skip } =
      (c.compile criteria).map fun q => { q with size := limit, start := skip } := by
  unfold compile Query.ofCriteria
  cases Query.aggregationsOf criteria.aggregate <;> rfl

lemma sendsReads_count (c : Collection) (criteria : Criteria) :
    c.SendsReads (c.count criteria) :=
  Session.sends_ofExcept_bind fun _ _ => Session.sends_request ⟨rfl, rfl⟩

lemma readsOnly_count (c : Collection) (criteria : Criteria) : (c.count criteria).ReadsOnly :=
  (c.sendsReads_count criteria).readsOnly

/-- A count that succeeds does so through its query and the documents that match. -/
lemma exists_of_count {total : Nat}
    (h : ((c.count criteria).run Memory.client m).result = .ok total) :
    ∃ q, c.compile criteria = .ok q ∧
      (m.documents c.address).matching m.patterns q.filter = .ok (c.selection m criteria) ∧
      (c.selection m criteria).length = total := by
  obtain ⟨q, between, hcompile, hcount⟩ :=
    Session.yields_bind_iff.1 (Session.yields_of_result_eq_ok h)
  obtain ⟨hq, rfl⟩ := Session.yields_ofExcept_iff.1 hcompile
  have hanswer : m.count c.address q = .ok total :=
    congrArg Prod.fst (Session.yields_request_iff.1 hcount)
  obtain ⟨matched, hmatching, hlength⟩ := bind_eq_ok_iff.1 hanswer
  have hselected : matched = c.selection m criteria := by
    rw [selection, Documents.eq_selected_of_matching hmatching, (eq_of_compile hq).1]
  subst hselected
  exact ⟨q, hq, hmatching, pure_eq_ok_iff.1 hlength⟩

/-- Where a count succeeds, a search in any window comes to what the sort comes to. -/
lemma result_find_of_count {total : Nat} (hlookup : criteria.idLookup? = none)
    (h : ((c.count criteria).run Memory.client m).result = .ok total) (limit skip : Option Nat) :
    ∃ q : Query, q.size = limit ∧ q.start = skip ∧
      ((c.find { criteria with limit, skip }).run Memory.client m).result =
        ((c.listed m criteria).map q.found).mapError .store := by
  obtain ⟨q, hcompile, hmatching, -⟩ := exists_of_count h
  have hwindowed : ({ criteria with limit, skip } : Criteria).idLookup? = none := hlookup
  have hsort : q.sort = criteria.sort.map SortKey.stored := by rw [Query.of_ofCriteria hcompile]
  have hlisting : m.listing c.address { q with size := limit, start := skip } =
      c.listed m criteria := by
    rw [Memory.listing, hmatching, Except.bind, hsort, listed]
  refine ⟨{ q with size := limit, start := skip }, rfl, rfl, ?_⟩
  rw [c.result_find_of_search m hwindowed, c.compile_window criteria limit skip, hcompile,
    ← hlisting]
  rfl

/-- Where the matching documents are counted and sorted, a search succeeds in every window. -/
lemma exists_found_of_count {total : Nat} {ds : List StoredDocument}
    (hlookup : criteria.idLookup? = none)
    (h : ((c.count criteria).run Memory.client m).result = .ok total)
    (hlisted : c.listed m criteria = .ok ds) (limit : Nat) (skip : Option Nat) :
    ∃ found, ((c.find { criteria with limit := some limit, skip }).run Memory.client m).result =
        .ok found ∧
      found.records = ((ds.drop (skip.getD 0)).take limit).map StoredDocument.toRecord := by
  obtain ⟨q, hsize, hstart, hfind⟩ := result_find_of_count hlookup h (some limit) skip
  rw [hlisted] at hfind
  refine ⟨q.found ds, hfind, ?_⟩
  rw [Query.records_found, Query.window, hsize, hstart, Option.getD_some]

lemma sendsReads_paginate (c : Collection) (criteria : Criteria) (p : PageRequest) :
    c.SendsReads (c.paginate criteria p) :=
  (c.sendsReads_count criteria).bind fun _ =>
    (c.sendsReads_find (p.window criteria)).bind fun _ => Session.sends_done _

/-- Whether every page of criteria that can be made is its window of given records, out of a total.
-/
def Windows (c : Collection) (m : Memory) (criteria : Criteria) (records : List Record)
    (total : Nat) : Prop :=
  ∀ (p : PageRequest) (page : Page Record),
    p.toPage ((records.drop p.offset).take p.perPage) total = .ok page →
      (c.paginate criteria p).Yields Memory.client m page m

/-- Counting comes first, and then the search in the window of the page. -/
lemma result_paginate_of_count {total : Nat}
    (h : ((c.count criteria).run Memory.client m).result = .ok total) (p : PageRequest) :
    ((c.paginate criteria p).run Memory.client m).result =
      ((c.find (p.window criteria)).run Memory.client m).result.bind fun found =>
        (p.toPage
          (if criteria.idLookup?.isSome then (found.records.drop p.offset).take p.perPage
            else found.records) total).mapError .panicked := by
  unfold paginate
  rw [(c.readsOnly_count criteria).result_bind, h, Except.bind,
    (c.readsOnly_find (p.window criteria)).result_bind]
  rfl

/-- A page is made of what is found in its window. -/
lemma yields_paginate {total : Nat}
    (h : ((c.count criteria).run Memory.client m).result = .ok total)
    {p : PageRequest} {found : FindResult} {page : Page Record}
    (hfound : ((c.find (p.window criteria)).run Memory.client m).result = .ok found)
    (hpage : p.toPage
      (if criteria.idLookup?.isSome then (found.records.drop p.offset).take p.perPage
        else found.records) total = .ok page) :
    (c.paginate criteria p).Yields Memory.client m page m := by
  refine ⟨?_, (c.sendsReads_paginate criteria p).readsOnly.state_run m⟩
  rw [result_paginate_of_count h, hfound, Except.bind, hpage, Except.mapError]

/-- Where a search finds documents, its pages are windows of those that match. -/
lemma windows_of_search {total : Nat} {ds : List StoredDocument}
    (hlookup : criteria.idLookup? = none)
    (h : ((c.count criteria).run Memory.client m).result = .ok total)
    (hlisted : c.listed m criteria = .ok ds) :
    c.Windows m criteria (ds.map StoredDocument.toRecord) total := by
  intro p page hpage
  obtain ⟨found, hfound, hrecords⟩ :=
    exists_found_of_count hlookup h hlisted p.perPage (some p.offset)
  refine yields_paginate h hfound ?_
  rw [hlookup, hrecords, List.map_take, List.map_drop]
  exact hpage

/-- Where the sort of what matches fails, no page is made. -/
lemma result_paginate_of_listed_eq_error {total : Nat} {failure : StoreFailure}
    (hlookup : criteria.idLookup? = none)
    (h : ((c.count criteria).run Memory.client m).result = .ok total)
    (hlisted : c.listed m criteria = .error failure) (p : PageRequest) :
    ((c.paginate criteria p).run Memory.client m).result = .error (.store failure) := by
  obtain ⟨q, -, -, hfind⟩ := result_find_of_count hlookup h (some p.perPage) (some p.offset)
  rw [hlisted] at hfind
  rw [result_paginate_of_count h]
  exact congrArg (Except.bind · _) hfind

/-! ## Following pages -/

/-- The pages that are reached from a page on by following `nextPage`, on a store that each of them
leaves as it is. -/
inductive PagesFrom (c : Collection) (m : Memory) (criteria : Criteria) (perPage : Nat) :
    Nat → List (Page Record) → Prop
  | last {n : Nat} {page : Page Record}
    (hpage : (c.paginate criteria ⟨n, perPage⟩).Yields Memory.client m page m)
    (hnext : page.nextPage = none) : PagesFrom c m criteria perPage n [page]
  | more {n next : Nat} {page : Page Record} {rest : List (Page Record)}
    (hpage : (c.paginate criteria ⟨n, perPage⟩).Yields Memory.client m page m)
    (hnext : page.nextPage = some next) (hrest : PagesFrom c m criteria perPage next rest) :
    PagesFrom c m criteria perPage n (page :: rest)

lemma PagesFrom.ne_nil {perPage n : Nat} {pages : List (Page Record)}
    (h : c.PagesFrom m criteria perPage n pages) : pages ≠ [] := by
  cases h with
  | last => exact List.cons_ne_nil _ _
  | more => exact List.cons_ne_nil _ _

/-- Following the pages leaves no choice. -/
lemma PagesFrom.unique {perPage n : Nat} {pages others : List (Page Record)}
    (h : c.PagesFrom m criteria perPage n pages)
    (hothers : c.PagesFrom m criteria perPage n others) : others = pages := by
  induction h generalizing others with
  | last hpage hnext =>
    cases hothers with
    | last hother => rw [Except.ok.inj (hother.1.symm.trans hpage.1)]
    | more hother hotherNext =>
      obtain rfl := Except.ok.inj (hother.1.symm.trans hpage.1)
      cases hotherNext.symm.trans hnext
  | more hpage hnext hrest ih =>
    cases hothers with
    | last hother hotherNext =>
      obtain rfl := Except.ok.inj (hother.1.symm.trans hpage.1)
      cases hotherNext.symm.trans hnext
    | more hother hotherNext hotherRest =>
      obtain rfl := Except.ok.inj (hother.1.symm.trans hpage.1)
      obtain rfl := Option.some.inj (hotherNext.symm.trans hnext)
      rw [ih hotherRest]

/-- A page behind `n` full ones holds the first of what they leave, and leads on exactly where its
window does not reach the total. -/
lemma Windows.exists_page {records : List Record} {total : Nat}
    (h : c.Windows m criteria records total) (htotal : total ≤ PageRequest.maxPosition)
    {perPage n : Nat} (hperPage : 1 ≤ perPage) (hstart : n = 0 ∨ n * perPage < total) :
    ∃ page, (c.paginate criteria ⟨n + 1, perPage⟩).Yields Memory.client m page m ∧
      page.items = (records.drop (n * perPage)).take perPage ∧ page.count = total ∧
      page.nextPage = if (n + 1) * perPage < total then some (n + 2) else none := by
  have hsmall : n * perPage ≤ PageRequest.maxPosition := by
    rcases hstart with rfl | hlt
    · rw [Nat.zero_mul]
      exact Nat.zero_le _
    · omega
  have hoffset : (⟨n + 1, perPage⟩ : PageRequest).offset = n * perPage := by
    rw [PageRequest.offset, Nat.add_sub_cancel, PageRequest.saturate_of_le hsmall]
  have hnumber : max (n + 1) 1 = n + 1 := Nat.max_eq_left (Nat.le_add_left 1 n)
  obtain ⟨page, hpage, hexact⟩ := PageRequest.exists_isExact ⟨n + 1, perPage⟩
    ((records.drop (n * perPage)).take perPage) htotal fun hmore => by
      rw [hnumber] at hmore ⊢
      exact PageRequest.lt_of_mul_lt hperPage htotal hmore
  refine ⟨page, h _ _ (hoffset.symm ▸ hpage), hexact.items_eq, hexact.count_eq, ?_⟩
  rw [hexact.nextPage_eq, hnumber]

/-- **Following the pages behind `n` full ones ends with the first whose window reaches the total,
and divides the records in all of their windows.** -/
theorem Windows.exists_pagesFrom_succ {records : List Record} {total : Nat}
    (h : c.Windows m criteria records total) (htotal : total ≤ PageRequest.maxPosition)
    (hlength : total ≤ records.length) {perPage : Nat} (hperPage : 1 ≤ perPage) (n : Nat)
    (hstart : n = 0 ∨ n * perPage < total) :
    ∃ pages, c.PagesFrom m criteria perPage (n + 1) pages ∧
      total ≤ (n + pages.length) * perPage ∧
      (n + pages.length = 1 ∨ (n + pages.length - 1) * perPage < total) ∧
      Divides perPage total ((records.drop (n * perPage)).take (pages.length * perPage)) pages := by
  -- The induction is on how much of the total the full pages leave.
  induction hleft : total - n * perPage using Nat.strong_induction_on generalizing n with
  | _ left ih =>
    obtain ⟨page, hpage, hitems, hpageCount, hnext⟩ := h.exists_page htotal hperPage hstart
    have hsucc : (n + 1) * perPage = n * perPage + perPage := Nat.succ_mul n perPage
    by_cases hmore : (n + 1) * perPage < total
    · rw [if_pos hmore] at hnext
      obtain ⟨pages, hpages, hreach, hlast, hdivides⟩ :=
        ih (total - (n + 1) * perPage) (by omega) (n + 1) (.inr hmore) rfl
      have hcount : n + (page :: pages).length = n + 1 + pages.length := by
        rw [List.length_cons]
        omega
      have hroom : (page :: pages).length * perPage = perPage + pages.length * perPage := by
        rw [List.length_cons, Nat.succ_mul, Nat.add_comm]
      rw [hsucc, ← List.drop_drop] at hdivides
      refine ⟨page :: pages, .more hpage hnext hpages, hcount ▸ hreach, hcount ▸ hlast, ?_⟩
      rw [hroom]
      refine .cons ?_ ?_ hpageCount hpages.ne_nil ?_
      · rw [hitems, List.take_take, Nat.min_eq_left (Nat.le_add_right _ _)]
      · rw [List.length_take, List.length_drop]
        omega
      · rw [List.drop_take, Nat.add_sub_cancel_left]
        exact hdivides
    · rw [if_neg hmore] at hnext
      refine ⟨[page], .last hpage hnext, ?_, ?_, .single ?_ hpageCount⟩
      · rw [List.length_singleton]
        omega
      · rw [List.length_singleton, Nat.add_sub_cancel]
        omega
      · rw [hitems, List.length_singleton, Nat.one_mul]

/-- The pages behind `n` full ones hold what these leave. -/
lemma exists_pagesFrom_succ {total perPage : Nat} {ds : List StoredDocument}
    (hlookup : criteria.idLookup? = none)
    (hcount : ((c.count criteria).run Memory.client m).result = .ok total)
    (hlisted : c.listed m criteria = .ok ds) (htotal : total ≤ PageRequest.maxPosition)
    (hperPage : 1 ≤ perPage) (n : Nat) (hstart : n = 0 ∨ n * perPage < total) :
    ∃ pages, c.PagesFrom m criteria perPage (n + 1) pages ∧
      Divides perPage total ((ds.drop (n * perPage)).map StoredDocument.toRecord) pages := by
  obtain ⟨-, -, -, hselection⟩ := exists_of_count hcount
  have hlength : (ds.map StoredDocument.toRecord).length = total := by
    rw [List.length_map, (sortDocuments_perm hlisted).length_eq, hselection]
  obtain ⟨pages, hpages, hreach, -, hdivides⟩ :=
    (windows_of_search hlookup hcount hlisted).exists_pagesFrom_succ htotal hlength.ge hperPage n
      hstart
  rw [Nat.add_mul] at hreach
  refine ⟨pages, hpages, ?_⟩
  rwa [List.take_of_length_le (by rw [List.length_drop]; omega), ← List.map_drop] at hdivides

/-- **Following the pages of a result ends, and divides the matching documents in their order,
unless every page panics.**  Pages panic only where many documents match that are in no consistent
order. -/
theorem exists_pagesFrom_or_panics (c : Collection) (m : Memory) (criteria : Criteria)
    (perPage : Nat) (total : UInt64) (hlookup : criteria.idLookup? = none) (hperPage : 1 ≤ perPage)
    (hcount : ((c.count criteria).run Memory.client m).result = .ok total.toNat) :
    let keys := criteria.sort.map SortKey.stored
    (∃ (pages : List (Page Record)) (ds : List StoredDocument),
      c.PagesFrom m criteria perPage 1 pages ∧
      (∀ others, c.PagesFrom m criteria perPage 1 others → others = pages) ∧
      pages.flatMap Page.items = ds.map StoredDocument.toRecord ∧
      (∀ page ∈ pages.dropLast, page.items.length = perPage) ∧
      (∀ page ∈ pages, page.count = ds.length) ∧ ds.length = total.toNat ∧
      (∀ d, d ∈ ds ↔ (m.documents c.address)[d.id]? = some d.body ∧
        (c.filterOf criteria).holds m.patterns d.id d.body = .ok true) ∧
      (ds.map StoredDocument.id).Nodup ∧
      (Consistent keys ds → ds.Pairwise (NoLater keys)) ∧
      ∀ limit, ds.length ≤ limit → ∃ found,
        ((c.find { criteria with limit := some limit, skip := none }).run Memory.client m).result =
          .ok found ∧ found.records = ds.map StoredDocument.toRecord) ∨
    (∀ p, ((c.paginate criteria p).run Memory.client m).result =
      .error (.store (.panicked .inconsistentOrder))) ∧
    insertionLimit < total.toNat ∧ ¬Consistent keys (c.selection m criteria) := by
  intro keys
  have htotal : total.toNat ≤ PageRequest.maxPosition := Nat.le_of_lt_succ total.toNat_lt
  obtain ⟨-, -, -, hselection⟩ := exists_of_count hcount
  cases hlisted : c.listed m criteria with
  | error failure =>
    obtain ⟨rfl, hmany, hinconsistent⟩ := sortDocuments_eq_error hlisted
    exact .inr ⟨result_paginate_of_listed_eq_error hlookup hcount hlisted,
      hselection ▸ hmany, hinconsistent⟩
  | ok ds =>
    have hperm := sortDocuments_perm hlisted
    have hlength : ds.length = total.toNat := by rw [hperm.length_eq, hselection]
    obtain ⟨pages, hpages, hdivides⟩ :=
      exists_pagesFrom_succ hlookup hcount hlisted htotal hperPage 0 (.inl rfl)
    refine .inl ⟨pages, ds, hpages, fun _ => hpages.unique, ?_, hdivides.full, ?_, hlength, ?_, ?_,
      ?_, ?_⟩
    · rw [hdivides.items_eq, Nat.zero_mul, List.drop_zero]
    · rw [hlength]
      exact hdivides.counted
    · intro d
      rw [hperm.mem_iff, selection, Documents.mem_selected]
    · exact (hperm.map _).nodup_iff.2 (Documents.nodup_ids_selected _ _)
    · exact pairwise_of_sortDocuments hlisted
    · intro limit hlimit
      obtain ⟨found, hfound, hrecords⟩ := exists_found_of_count hlookup hcount hlisted limit none
      refine ⟨found, hfound, ?_⟩
      rw [hrecords, Option.getD_none, List.drop_zero, List.take_of_length_le hlimit]

/-- Three documents, two to a page. -/
theorem exists_pagesFrom_or_panics_two_of_three :
    let c : Collection := { index := "app", schema := { typeName := "item" } }
    let m := ((({} : Memory).put c.address "a" [("n", .str "1")]).put c.address "b"
      [("n", .str "3")]).put c.address "c" [("n", .str "2")]
    let criteria : Criteria := { sort := [⟨"n", .desc⟩], limit := some 1 }
    criteria.idLookup? = none ∧
      ((c.count criteria).run Memory.client m).result = .ok (3 : UInt64).toNat ∧
      ∃ pages, c.PagesFrom m criteria 2 1 pages ∧ (pages.flatMap Page.items).length = 3 ∧
        (∀ page ∈ pages.dropLast, page.items.length = 2) ∧ ∀ page ∈ pages, page.count = 3 := by
  intro c m criteria
  have hcount : ((c.count criteria).run Memory.client m).result = .ok (3 : UInt64).toNat := by
    cbv
  rcases exists_pagesFrom_or_panics c m criteria 2 3 rfl (by decide) hcount with
    ⟨pages, ds, hpages, -, hitems, hfull, hcounted, hlength, -⟩ | ⟨-, hmany, -⟩
  · refine ⟨rfl, hcount, pages, hpages, ?_, hfull, fun page hpage => ?_⟩
    · rw [hitems, List.length_map, hlength]
      rfl
    · rw [hcounted page hpage, hlength]
      rfl
  · exact absurd hmany (by decide)

/-- The documents are counted, and no page of them is made. -/
theorem paginate_panics_after_count :
    let c : Collection := { index := "app", schema := { typeName := "item" } }
    let criteria : Criteria := { sort := [⟨"n", .asc⟩] }
    criteria.idLookup? = none ∧
      ((c.count criteria).run Memory.client .falling).result = .ok 21 ∧
      ∀ p, ((c.paginate criteria p).run Memory.client .falling).result =
        .error (.store (.panicked .inconsistentOrder)) := by
  intro c criteria
  have hcompile : c.compile criteria = .ok { typeName := "item", sort := [⟨"n", .asc⟩] } := rfl
  have hcount : ((c.count criteria).run Memory.client .falling).result = .ok 21 := by
    rw [count, hcompile]
    show ((Session.request c.address (.count _)).run Memory.client .falling).result = _
    rw [Session.result_request]
    show (Memory.falling.count c.address _).mapError SearchError.store = _
    rw [Memory.count_falling rfl]
    rfl
  have hselection : c.selection .falling criteria = Memory.fallingDocuments.toDocuments :=
    (Documents.eq_selected_of_matching (Memory.matching_falling c.address)).symm
  have hlisted : c.listed .falling criteria = .error (.panicked .inconsistentOrder) := by
    rw [listed, hselection]
    exact Memory.sortDocuments_falling
  exact ⟨rfl, hcount, fun p => result_paginate_of_listed_eq_error rfl hcount hlisted p⟩

end Collection

end CriteriaSearch

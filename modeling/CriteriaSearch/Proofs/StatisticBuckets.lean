import CriteriaSearch.Proofs.Records
import CriteriaSearch.Query.OfCriteria
import CriteriaSearch.SearchBody.Writer
import CriteriaSearch.Proofs.StoredDocuments
import Mathlib.Data.List.Permutation

/-!
# A bucket for every statistic

Statistics are asked for by metric and field, and answered under names that are put together from
the two.  The names of metrics have one length, so a name tells both (`bucketName_injective`).
Hence what is answered in memory, and what is written for a search server, has one entry for each
metric and field that are asked for together, however often (`every_statistic_has_its_bucket`).

In memory the values are what the metrics say of the numbers of a field (`Metric.Says`), over all
documents that match, before the window is cut out of them.
-/

namespace CriteriaSearch

/-! ## What is asked for -/

namespace AggregateOptions

/-- The metrics and fields that are asked for together, metric by metric and then in the order of
the fields. -/
def requested (o : AggregateOptions) : List (Metric × String) :=
  (o.sum.getD []).map (.sum, ·) ++ (o.average.getD []).map (.avg, ·) ++
    (o.min.getD []).map (.min, ·) ++ (o.max.getD []).map (.max, ·)

lemma aggregations_eq_map (o : AggregateOptions) :
    o.aggregations = o.requested.map fun r => Aggregation.of r.1 r.2 := by
  simp [aggregations, metrics, requested, fieldsOf, Function.comp_def]

lemma isVacuous_of_isSome {o : AggregateOptions} {metric : Metric}
    (h : (o.fieldsOf metric).isSome) : o.isVacuous = false := by
  have hmem : metric ∈ metrics := by
    cases metric <;> decide
  rw [isVacuous, List.all_eq_false]
  refine ⟨metric, hmem, ?_⟩
  rw [Bool.not_eq_true, Option.isNone_eq_false_iff]
  exact h

end AggregateOptions

/-! ## Names -/

/-- The name under which the statistic of a metric and a field is answered. -/
def bucketName (r : Metric × String) : String :=
  r.1.name ++ "_" ++ r.2

lemma Metric.length_name (metric : Metric) : metric.name.toList.length = 3 := by
  cases metric <;> rfl

lemma Metric.name_injective : Function.Injective Metric.name := by
  intro a b h
  cases a <;> cases b <;> first | rfl | exact absurd h (by decide)

/-- **The name of a statistic tells its metric and its field.** -/
lemma bucketName_injective : Function.Injective bucketName := by
  rintro ⟨metric, field⟩ ⟨metric', field'⟩ h
  have hparts : metric.name.toList ++ '_' :: field.toList =
      metric'.name.toList ++ '_' :: field'.toList := by
    simpa [bucketName] using congrArg String.toList h
  have hlength : metric.name.toList.length = metric'.name.toList.length := by
    rw [metric.length_name, metric'.length_name]
  obtain ⟨hname, hfield⟩ := List.append_inj hparts hlength
  rw [Metric.name_injective (String.toList_injective hname),
    String.toList_injective (List.cons.inj hfield).2]

/-! ## What a metric says of numbers -/

/-- Adding numbers to a first one, from left to right, each time rounded; none once a partial sum is
beyond the finite range. -/
inductive Binary64.SumsTo : Binary64 → List Binary64 → Option Binary64 → Prop
  | nil (x : Binary64) : SumsTo x [] (some x)
  | cons {x y next : Binary64} {rest : List Binary64} {total : Option Binary64}
    (hnext : x.add? y = some next) (hrest : SumsTo next rest total) : SumsTo x (y :: rest) total
  | beyond {x y : Binary64} (rest : List Binary64) (hnext : x.add? y = none) :
    SumsTo x (y :: rest) none

/-- The numbers that documents have at a field, one for each document that has one. -/
inductive NumbersAt (field : String) : List StoredDocument → List Binary64 → Prop
  | nil : NumbersAt field [] []
  | number {d : StoredDocument} {n : JsonNumber} {ds : List StoredDocument} {xs : List Binary64}
    (hnumber : d.body.resolve? field = some (.num n)) (hrest : NumbersAt field ds xs) :
    NumbersAt field (d :: ds) (n.toBinary64 :: xs)
  | other {d : StoredDocument} {ds : List StoredDocument} {xs : List Binary64}
    (hother : ∀ n, d.body.resolve? field ≠ some (.num n)) (hrest : NumbersAt field ds xs) :
    NumbersAt field (d :: ds) xs

/-- Whether a number, or none, is what a metric says of numbers: their sum, their sum divided by how
many they are, the least of them or the greatest.  Of no numbers only the sum says something. -/
inductive Metric.Says : Metric → List Binary64 → Option Binary64 → Prop
  | sum {xs : List Binary64} {total : Option Binary64}
    (htotal : Binary64.SumsTo (.zero true) xs total) : Says .sum xs total
  | avg {xs : List Binary64} {total : Option Binary64} (hsome : xs ≠ [])
    (htotal : Binary64.SumsTo (.zero true) xs total) :
    Says .avg xs (total.bind fun x => x.div? (.ofInt xs.length))
  | min {xs : List Binary64} {x : Binary64} (hx : x ∈ xs)
    (hleast : ∀ y ∈ xs, x.scaled ≤ y.scaled) : Says .min xs (some x)
  | max {xs : List Binary64} {x : Binary64} (hx : x ∈ xs)
    (hgreatest : ∀ y ∈ xs, y.scaled ≤ x.scaled) : Says .max xs (some x)
  | nothing {metric : Metric} (hsum : metric ≠ .sum) : Says metric [] none

lemma Binary64.sumsTo_foldlM (x : Binary64) (xs : List Binary64) :
    SumsTo x xs (xs.foldlM add? x) := by
  induction xs generalizing x with
  | nil => exact .nil x
  | cons y rest ih =>
    rw [List.foldlM_cons]
    cases hnext : x.add? y with
    | none => exact .beyond rest hnext
    | some next => exact .cons hnext (ih next)

lemma Binary64.SumsTo.eq_foldlM {x : Binary64} {xs : List Binary64} {total : Option Binary64}
    (h : SumsTo x xs total) : total = xs.foldlM add? x := by
  induction h with
  | nil x => rfl
  | cons hnext _ ih =>
    rw [List.foldlM_cons, hnext, ih]
    rfl
  | beyond rest hnext =>
    rw [List.foldlM_cons, hnext]
    rfl

/-- What a fold of minima keeps is one of the numbers, and none of them is less. -/
lemma Binary64.foldl_min_spec (x : Binary64) (xs : List Binary64) :
    xs.foldl Binary64.min x ∈ x :: xs ∧
      ∀ y ∈ x :: xs, (xs.foldl Binary64.min x).scaled ≤ y.scaled := by
  induction xs generalizing x with
  | nil => simp
  | cons y rest ih =>
    obtain ⟨hmem, hleast⟩ := ih (x.min y)
    rw [List.forall_mem_cons] at hleast
    have hboth : (x.min y).scaled ≤ x.scaled ∧ (x.min y).scaled ≤ y.scaled := by
      unfold Binary64.min
      split <;> omega
    have hone : x.min y = x ∨ x.min y = y := by
      unfold Binary64.min
      split <;> simp
    rw [List.foldl_cons]
    refine ⟨?_, List.forall_mem_cons.2 ⟨hleast.1.trans hboth.1,
      List.forall_mem_cons.2 ⟨hleast.1.trans hboth.2, hleast.2⟩⟩⟩
    rcases List.mem_cons.1 hmem with hmem | hmem
    · rw [hmem]
      rcases hone with hone | hone <;> simp [hone]
    · exact List.mem_cons_of_mem _ (List.mem_cons_of_mem _ hmem)

lemma Binary64.foldl_max_spec (x : Binary64) (xs : List Binary64) :
    xs.foldl Binary64.max x ∈ x :: xs ∧
      ∀ y ∈ x :: xs, y.scaled ≤ (xs.foldl Binary64.max x).scaled := by
  induction xs generalizing x with
  | nil => simp
  | cons y rest ih =>
    obtain ⟨hmem, hgreatest⟩ := ih (x.max y)
    rw [List.forall_mem_cons] at hgreatest
    have hboth : x.scaled ≤ (x.max y).scaled ∧ y.scaled ≤ (x.max y).scaled := by
      unfold Binary64.max
      split <;> omega
    have hone : x.max y = x ∨ x.max y = y := by
      unfold Binary64.max
      split <;> simp
    rw [List.foldl_cons]
    refine ⟨?_, List.forall_mem_cons.2 ⟨hboth.1.trans hgreatest.1,
      List.forall_mem_cons.2 ⟨hboth.2.trans hgreatest.1, hgreatest.2⟩⟩⟩
    rcases List.mem_cons.1 hmem with hmem | hmem
    · rw [hmem]
      rcases hone with hone | hone <;> simp [hone]
    · exact List.mem_cons_of_mem _ (List.mem_cons_of_mem _ hmem)

/-- **A statistic of numbers is what its metric says of them.** -/
theorem Metric.says_ofNumbers? (metric : Metric) (xs : List Binary64) :
    metric.Says xs (metric.ofNumbers? xs) := by
  have hsum := Binary64.sumsTo_foldlM (.zero true) xs
  cases metric with
  | sum => exact .sum hsum
  | avg =>
    cases xs with
    | nil => exact .nothing (by decide)
    | cons x rest => exact .avg (List.cons_ne_nil x rest) hsum
  | min =>
    cases xs with
    | nil => exact .nothing (by decide)
    | cons x rest =>
      obtain ⟨hmem, hleast⟩ := Binary64.foldl_min_spec x rest
      exact .min hmem hleast
  | max =>
    cases xs with
    | nil => exact .nothing (by decide)
    | cons x rest =>
      obtain ⟨hmem, hgreatest⟩ := Binary64.foldl_max_spec x rest
      exact .max hmem hgreatest

section Readings

variable {xs : List Binary64} {value : Option Binary64}

lemma Metric.Says.eq_sum (h : Metric.sum.Says xs value) : value = Binary64.sum? xs := by
  cases h with
  | sum htotal => exact htotal.eq_foldlM
  | nothing hsum => exact absurd rfl hsum

lemma Metric.Says.eq_avg (h : Metric.avg.Says xs value) (hsome : xs ≠ []) :
    value = Binary64.mean? xs := by
  cases h with
  | avg _ htotal =>
    rw [htotal.eq_foldlM]
    rfl
  | nothing => exact absurd rfl hsome

lemma Metric.Says.exists_max (h : Metric.max.Says xs value) (hsome : xs ≠ []) :
    ∃ x, value = some x ∧ x ∈ xs ∧ ∀ y ∈ xs, y.scaled ≤ x.scaled := by
  cases h with
  | max hx hgreatest => exact ⟨_, rfl, hx, hgreatest⟩
  | nothing => exact absurd rfl hsome

end Readings

lemma numbersAt_fieldNumbers (field : String) (ds : List StoredDocument) :
    NumbersAt field ds (fieldNumbers ds field) := by
  induction ds with
  | nil => exact .nil
  | cons d rest ih =>
    rw [fieldNumbers, List.filterMap_cons]
    split
    · next hnone =>
      refine .other (fun n hn => ?_) ih
      rw [hn] at hnone
      cases hnone
    · next x hx =>
      split at hx
      · next n hn => exact Option.some.inj hx ▸ .number hn ih
      · cases hx

/-- The numbers of a field are determined. -/
lemma NumbersAt.eq_fieldNumbers {field : String} {ds : List StoredDocument} {xs : List Binary64}
    (h : NumbersAt field ds xs) : xs = fieldNumbers ds field := by
  induction h with
  | nil => rfl
  | number hnumber _ ih =>
    rw [fieldNumbers, List.filterMap_cons, hnumber, ih]
    rfl
  | @other d _ _ hother _ ih =>
    rw [fieldNumbers, List.filterMap_cons]
    split
    · exact ih
    · next x hx =>
      split at hx
      · next n hn => exact absurd hn (hother n)
      · cases hx

/-! ## What is answered and written -/

/-- The object in which a statistic is answered; a number that there is not is null. -/
def Metric.bucket (value : Option Binary64) : Json :=
  .obj [("value", .orNull (value.map fun x => .num (.float x)))]

lemma aggregate_map (ds : List StoredDocument) (requests : List (Metric × String)) :
    aggregate ds (requests.map fun r => Aggregation.of r.1 r.2) =
      .obj (requests.eraseDups.map fun r =>
        (bucketName r, Metric.bucket (r.1.ofNumbers? (fieldNumbers ds r.2)))) := by
  rw [aggregate, List.map_map]
  exact congrArg Json.obj (Record.ofEntries_map bucketName_injective _ requests)

namespace SearchBody

lemma aggregationsBody_map (requests : List (Metric × String)) :
    aggregationsBody (requests.map fun r => Aggregation.of r.1 r.2) =
      .obj (requests.eraseDups.map fun r =>
        (bucketName r, .obj [(r.1.name, .obj [("field", .str r.2)])])) := by
  rw [aggregationsBody, List.map_map]
  exact congrArg Json.obj (Record.ofEntries_map bucketName_injective _ requests)

lemma keys_optionalEntry_subset (key : String) (value : Option Json) :
    (optionalEntry key value).map Prod.fst ⊆ [key] := by
  cases value with
  | none => exact List.nil_subset _
  | some v => exact List.Subset.refl _

/-- The statistics of a query stand under a key of their own. -/
lemma exists_ofQuery_get?_aggs {q : Query} {as : List Aggregation} (h : q.aggregations = some as) :
    ∃ body : Record, ofQuery q = .obj body ∧ body.get? "aggs" = some (aggregationsBody as) := by
  refine ⟨_, rfl, ?_⟩
  have hquery : (queryEntries q).map Prod.fst = ["query"] := rfl
  have haggs : optionalEntry "aggs" (q.aggregations.map aggregationsBody) =
      [("aggs", aggregationsBody as)] := by
    rw [h]
    rfl
  have hother (key : String) (value : Option Json) (hkey : key ≠ "aggs") :
      "aggs" ∉ (optionalEntry key value).map Prod.fst := by
    intro hmem
    exact hkey (List.mem_singleton.1 (keys_optionalEntry_subset key value hmem)).symm
  rw [haggs, List.append_assoc, List.append_assoc, List.singleton_append]
  refine Record.get?_append_cons_self ?_ _ _
  simp only [List.map_append, List.mem_append, not_or, hquery]
  exact ⟨⟨⟨by decide, hother _ _ (by decide)⟩, hother _ _ (by decide)⟩, hother _ _ (by decide)⟩

end SearchBody

/-- The query of criteria that ask for statistics, with a list of fields for at least one. -/
lemma Query.ofCriteria_of_aggregate {schema : Schema} {typeName : String} {c : Criteria}
    {o : AggregateOptions} (hc : c.aggregate = some o) (ho : o.isVacuous = false) :
    ofCriteria schema typeName c = .ok
      { typeName
        filter := Filter.ofWhere schema typeName c.clause
        sort := c.sort.map SortKey.stored
        size := c.limit
        start := c.skip
        aggregations := some o.aggregations
        facets := c.facets } := by
  rw [ofCriteria, hc, aggregationsOf, ho]
  rfl

/-- **Every statistic has a bucket of its own.**  What a search in memory answers, and what is
written for a search server, has one entry for each metric and field that are asked for together, in
the order of the metrics and of the first places in their lists; in memory it holds what the metric
says of the numbers that the field has, over all documents that match, in the order asked for,
whatever the window. -/
theorem every_statistic_has_its_bucket (schema : Schema) (typeName : String) (c : Criteria)
    (o : AggregateOptions) (hc : c.aggregate = some o)
    (hlist : ∃ metric, (o.fieldsOf metric).isSome) :
    (o.requested.eraseDups.map bucketName).Nodup ∧
    ∃ q, Query.ofCriteria schema typeName c = .ok q ∧
      (∀ (m : Memory) (address : Address) (matched ds : List StoredDocument),
        (m.documents address).matching m.patterns (Filter.ofWhere schema typeName c.clause) =
          .ok matched →
        sortDocuments m.sorting (c.sort.map SortKey.stored) matched = .ok ds →
        ds.Perm matched ∧ ∃ (response : SearchResponse) (value : Metric × String → Option Binary64),
          m.search address q = .ok response ∧
          response.aggregations = some (.obj (o.requested.eraseDups.map fun r =>
            (bucketName r, Metric.bucket (value r)))) ∧
          ∀ r ∈ o.requested, ∃ xs, NumbersAt r.2 ds xs ∧ r.1.Says xs (value r)) ∧
      ∃ body : Record, SearchBody.ofQuery q = .obj body ∧
        body.get? "aggs" = some (.obj (o.requested.eraseDups.map fun r =>
          (bucketName r, .obj [(r.1.name, .obj [("field", .str r.2)])]))) := by
  obtain ⟨metric, hmetric⟩ := hlist
  have ho := AggregateOptions.isVacuous_of_isSome hmetric
  refine ⟨(nodup_eraseDups _).map bucketName_injective, _, Query.ofCriteria_of_aggregate hc ho,
    ?_, ?_⟩
  · intro m address matched ds hmatched hsorted
    refine ⟨sortDocuments_perm hsorted, _, fun r => r.1.ofNumbers? (fieldNumbers ds r.2),
      bind_eq_ok_iff.2 ⟨matched, hmatched, bind_eq_ok_iff.2 ⟨ds, hsorted, rfl⟩⟩, ?_,
      fun r _ => ⟨_, numbersAt_fieldNumbers r.2 ds, r.1.says_ofNumbers? _⟩⟩
    rw [← aggregate_map, ← o.aggregations_eq_map]
    rfl
  · rw [← SearchBody.aggregationsBody_map, ← o.aggregations_eq_map]
    exact SearchBody.exists_ofQuery_get?_aggs rfl

/-- A field that is asked for twice, and one whose name begins like that of a bucket, while the
window is empty. -/
theorem every_statistic_has_its_bucket_repeated :
    let o : AggregateOptions :=
      { sum := some ["tax", "sum_tax", "tax"], average := some ["tax"], max := some ["tax"] }
    let c : Criteria := { aggregate := some o, limit := some 0 }
    let address : Address := ⟨"app", "item"⟩
    let first : StoredDocument := ⟨"a", [("tax", .nat 1)]⟩
    let second : StoredDocument := ⟨"b", [("tax", .nat 2), ("sum_tax", .nat 5)]⟩
    let m := (({} : Memory).put address first.id first.body).put address second.id second.body
    c.aggregate = some o ∧ (∃ metric, (o.fieldsOf metric).isSome) ∧
    (m.documents address).matching m.patterns (Filter.ofWhere {} "item" c.clause) =
      .ok [first, second] ∧
    sortDocuments m.sorting (c.sort.map SortKey.stored) [first, second] = .ok [first, second] ∧
    ∃ q response, Query.ofCriteria {} "item" c = .ok q ∧ m.search address q = .ok response ∧
      response.aggregations = some (.obj [("sum_tax", Metric.bucket (some (.ofInt 3))),
        ("sum_sum_tax", Metric.bucket (some (.ofInt 5))),
        ("avg_tax", Metric.bucket (some ⟨false, 0x18000000000000, -52, by decide⟩)),
        ("max_tax", Metric.bucket (some (.ofInt 2)))]) := by
  intro o c address first second m
  have hlist : ∃ metric, (o.fieldsOf metric).isSome := ⟨.sum, rfl⟩
  have hmatching : (m.documents address).matching m.patterns (Filter.ofWhere {} "item" c.clause) =
      .ok [first, second] := by
    cbv
  have hsorted : sortDocuments m.sorting (c.sort.map SortKey.stored) [first, second] =
      .ok [first, second] := by
    cbv
  have hrequested : o.requested.eraseDups =
      [(.sum, "tax"), (.sum, "sum_tax"), (.avg, "tax"), (.max, "tax")] := by
    decide
  obtain ⟨-, q, hq, hsearch, -⟩ := every_statistic_has_its_bucket {} "item" c o rfl hlist
  obtain ⟨-, response, value, hresponse, haggregations, hsays⟩ :=
    hsearch m address _ _ hmatching hsorted
  have htax {xs : List Binary64} (h : NumbersAt "tax" [first, second] xs) :
      xs = [.ofInt 1, .ofInt 2] :=
    h.eq_fieldNumbers.trans (by decide +kernel)
  have htaxes {xs : List Binary64} (h : NumbersAt "sum_tax" [first, second] xs) :
      xs = [.ofInt 5] :=
    h.eq_fieldNumbers.trans (by decide +kernel)
  have hsum : value (.sum, "tax") = some (.ofInt 3) := by
    obtain ⟨xs, hxs, hsum⟩ := hsays (.sum, "tax") (by decide)
    exact (htax hxs ▸ hsum.eq_sum).trans (by decide +kernel)
  have hother : value (.sum, "sum_tax") = some (.ofInt 5) := by
    obtain ⟨xs, hxs, hsum⟩ := hsays (.sum, "sum_tax") (by decide)
    exact (htaxes hxs ▸ hsum.eq_sum).trans (by decide +kernel)
  have havg : value (.avg, "tax") = some ⟨false, 0x18000000000000, -52, by decide⟩ := by
    obtain ⟨xs, hxs, havg⟩ := hsays (.avg, "tax") (by decide)
    obtain rfl := htax hxs
    exact (havg.eq_avg (List.cons_ne_nil _ _)).trans (by decide +kernel)
  have hmax : value (.max, "tax") = some (.ofInt 2) := by
    obtain ⟨xs, hxs, hmax⟩ := hsays (.max, "tax") (by decide)
    obtain rfl := htax hxs
    obtain ⟨x, hx, hmem, hgreatest⟩ := hmax.exists_max (List.cons_ne_nil _ _)
    rcases List.mem_pair.1 hmem with rfl | rfl
    · exact absurd (hgreatest (.ofInt 2) (by decide +kernel)) (by decide +kernel)
    · exact hx
  rw [hrequested] at haggregations
  simp only [List.map_cons, List.map_nil, hsum, hother, havg, hmax] at haggregations
  exact ⟨rfl, hlist, hmatching, hsorted, q, response, hq, hresponse, haggregations⟩

end CriteriaSearch

import CriteriaSearch.Proofs.Records
import CriteriaSearch.Proofs.Successes
import CriteriaSearch.SearchBody.Reader
import CriteriaSearch.SearchBody.Writer

/-!
# Unknown entries of search bodies

A search body is made of objects of a few kinds (`SearchBody.Node`), each with keys of its own, and
`SearchBody.Grows` says that one object somewhere in a body gains an entry.  Objects of some kinds
are read entry by entry, so they refuse what they do not know.  Of the others single keys are looked
up and the rest is read past: the wrappers of negations, combinators and constant scores, and the
options of terms, identifiers, match-alls and orders.

One rule of `Grows` after the other, reading responds to the entry as the kind of its object says
(`responds_of_grows`): what is read around it passes a refusal on and otherwise stays as it is.  So
a body that is read either is refused with the entry or comes to the same query
(`toQuery?_refuses_iff`).
-/

namespace CriteriaSearch.SearchBody

/-! ## Objects of a body -/

/-- The kinds of objects that filters, queries and orders of a body are made of. -/
inductive Node where
  | body
  | query
  | filtered
  | constantScore
  | filter
  | matchAll
  | termValue
  | ids
  | bounds
  | negation
  | members
  | bool
  | order
  deriving DecidableEq

/-- The filters that are known. -/
def operators : List String :=
  ["match_all", "term", "terms", "ids", "range", "not", "and", "or", "bool"]

namespace Node

/-- The keys that objects of a kind can have. -/
def vocabulary : Node → List String
  | body => ["query", "filter", "post_filter", "size", "from", "sort", "_source"]
  | query => "filtered" :: "constant_score" :: operators
  | filtered => ["filter", "query"]
  | constantScore => ["filter"]
  | filter => operators
  | matchAll => []
  | termValue => ["value"]
  | ids => ["values", "type"]
  | bounds => [RangeBound.gt, .gte, .lt, .lte].map RangeBound.name
  | negation => ["filter"]
  | members => ["filters"]
  | bool => occurrenceNames
  | order => ["order"]

/-- Whether objects of a kind are read entry by entry.  Of the others single keys are looked up. -/
def isStrict : Node → Bool
  | body | query | filtered | filter | bounds | bool => true
  | constantScore | matchAll | termValue | ids | negation | members | order => false

end Node

/-- The readers that a value can come to. -/
inductive Place where
  | body
  | query
  | filter
  | negated
  | members
  | oneOrMany
  | sort
  | sortKey

/-- One object of a kind inside a value gains an entry, in any position.  There is a rule for an
object of each kind and one for each spot in which such objects can be.  Literals are no such spot,
and a map that is keyed by the names of fields is no such object.

What a negation or a combinator holds is opened under `filter` or `filters` if it has that key, and
else it is a filter, or filters, by itself; the two keys are known there, so the rules for plain
contents leave out that they are gained. -/
inductive Grows (e : String × Json) : Place → Node → Json → Json → Prop
  -- Filters.
  | filter (a b : Record) : Grows e .filter .filter (.obj (a ++ b)) (.obj (a ++ e :: b))
  | matchAll (a b : Record) : Grows e .filter .matchAll (single "match_all" (.obj (a ++ b)))
    (single "match_all" (.obj (a ++ e :: b)))
  | termValue (field : String) (a b : Record) : Grows e .filter .termValue
    (single "term" (single field (.obj (a ++ b))))
    (single "term" (single field (.obj (a ++ e :: b))))
  | ids (a b : Record) : Grows e .filter .ids (single "ids" (.obj (a ++ b)))
    (single "ids" (.obj (a ++ e :: b)))
  | bounds (field : String) (a b : Record) : Grows e .filter .bounds
    (single "range" (single field (.obj (a ++ b))))
    (single "range" (single field (.obj (a ++ e :: b))))
  | bool (a b : Record) : Grows e .filter .bool (single "bool" (.obj (a ++ b)))
    (single "bool" (.obj (a ++ e :: b)))
  | inBool {n : Node} {v v' : Json} (h : Grows e .members n v v') (name : String) (a b : Record) :
    Grows e .filter n (single "bool" (.obj (a ++ (name, v) :: b)))
      (single "bool" (.obj (a ++ (name, v') :: b)))
  | inNot {n : Node} {v v' : Json} (h : Grows e .negated n v v') :
    Grows e .filter n (single "not" v) (single "not" v')
  | inAnd {n : Node} {v v' : Json} (h : Grows e .members n v v') :
    Grows e .filter n (single "and" v) (single "and" v')
  | inOr {n : Node} {v v' : Json} (h : Grows e .members n v v') :
    Grows e .filter n (single "or" v) (single "or" v')
  -- What a negation holds: an object with the filter under `filter`, or the filter itself.
  | negation (a b : Record) (h : "filter" ∈ (a ++ b).map Prod.fst) :
    Grows e .negated .negation (.obj (a ++ b)) (.obj (a ++ e :: b))
  | inNegation {n : Node} {v v' : Json} (h : Grows e .filter n v v') {a : Record}
    (ha : "filter" ∉ a.map Prod.fst) (b : Record) :
    Grows e .negated n (.obj (a ++ ("filter", v) :: b)) (.obj (a ++ ("filter", v') :: b))
  | negatedFilter {n : Node} {v v' : Json} (h : Grows e .filter n v v')
    (hv : field? v "filter" = none) (hv' : field? v' "filter" = none) : Grows e .negated n v v'
  -- What a combinator holds: an object with the members under `filters`, or the members themselves.
  | members (a b : Record) (h : "filters" ∈ (a ++ b).map Prod.fst) :
    Grows e .members .members (.obj (a ++ b)) (.obj (a ++ e :: b))
  | inMembers {n : Node} {v v' : Json} (h : Grows e .oneOrMany n v v') {a : Record}
    (ha : "filters" ∉ a.map Prod.fst) (b : Record) :
    Grows e .members n (.obj (a ++ ("filters", v) :: b)) (.obj (a ++ ("filters", v') :: b))
  | plainMembers {n : Node} {v v' : Json} (h : Grows e .oneOrMany n v v')
    (hv : field? v "filters" = none) (hv' : field? v' "filters" = none) : Grows e .members n v v'
  | one {n : Node} {r r' : Record} (h : Grows e .filter n (.obj r) (.obj r')) :
    Grows e .oneOrMany n (.obj r) (.obj r')
  | many {n : Node} {v v' : Json} (h : Grows e .filter n v v') (l m : List Json) :
    Grows e .oneOrMany n (.arr (l ++ v :: m)) (.arr (l ++ v' :: m))
  -- Queries.
  | query (a b : Record) : Grows e .query .query (.obj (a ++ b)) (.obj (a ++ e :: b))
  | filtered (a b : Record) : Grows e .query .filtered (single "filtered" (.obj (a ++ b)))
    (single "filtered" (.obj (a ++ e :: b)))
  | filteredFilter {n : Node} {v v' : Json} (h : Grows e .filter n v v') (a b : Record) :
    Grows e .query n (single "filtered" (.obj (a ++ ("filter", v) :: b)))
      (single "filtered" (.obj (a ++ ("filter", v') :: b)))
  | filteredQuery {n : Node} {v v' : Json} (h : Grows e .query n v v') (a b : Record) :
    Grows e .query n (single "filtered" (.obj (a ++ ("query", v) :: b)))
      (single "filtered" (.obj (a ++ ("query", v') :: b)))
  | constantScore (a b : Record) : Grows e .query .constantScore
    (single "constant_score" (.obj (a ++ b))) (single "constant_score" (.obj (a ++ e :: b)))
  | inConstantScore {n : Node} {v v' : Json} (h : Grows e .filter n v v') {a : Record}
    (ha : "filter" ∉ a.map Prod.fst) (b : Record) : Grows e .query n
      (single "constant_score" (.obj (a ++ ("filter", v) :: b)))
      (single "constant_score" (.obj (a ++ ("filter", v') :: b)))
  | plainQuery {n : Node} {operator : String} {v v' : Json} (hfiltered : operator ≠ "filtered")
    (hscore : operator ≠ "constant_score")
    (h : Grows e .filter n (single operator v) (single operator v')) :
    Grows e .query n (single operator v) (single operator v')
  -- Orders.
  | order (c d a b : Record) (field : String) : Grows e .sortKey .order
    (.obj (c ++ (field, .obj (a ++ b)) :: d)) (.obj (c ++ (field, .obj (a ++ e :: b)) :: d))
  | sortKey {n : Node} {r r' : Record} (h : Grows e .sortKey n (.obj r) (.obj r')) :
    Grows e .sort n (.obj r) (.obj r')
  | sortKeys {n : Node} {v v' : Json} (h : Grows e .sortKey n v v') (l m : List Json) :
    Grows e .sort n (.arr (l ++ v :: m)) (.arr (l ++ v' :: m))
  -- Bodies.
  | body (a b : Record) : Grows e .body .body (.obj (a ++ b)) (.obj (a ++ e :: b))
  | bodyQuery {n : Node} {v v' : Json} (h : Grows e .query n v v') (a b : Record) :
    Grows e .body n (.obj (a ++ ("query", v) :: b)) (.obj (a ++ ("query", v') :: b))
  | bodyFilter {n : Node} {key : String} {v v' : Json} (hkey : key = "filter" ∨ key = "post_filter")
    (h : Grows e .filter n v v') (a b : Record) :
    Grows e .body n (.obj (a ++ (key, v) :: b)) (.obj (a ++ (key, v') :: b))
  | bodySort {n : Node} {v v' : Json} (h : Grows e .sort n v v') (a b : Record) :
    Grows e .body n (.obj (a ++ ("sort", v) :: b)) (.obj (a ++ ("sort", v') :: b))

/-! ## Reading with one more entry -/

/-- How a reading responds to a change of what is read: a strict one turns from a success to a
refusal, any other stays as it is. -/
def Responds {α : Type} (strict : Bool) (r r' : Except StoreFailure α) : Prop :=
  if strict then (∃ a, r = .ok a) → ∃ what, r' = refuse what else r' = r

namespace Responds

variable {α β γ : Type} {strict : Bool} {r r' : Except StoreFailure α} {what : String}

lemma of_refuse (r : Except StoreFailure α) : Responds true r (refuse what) :=
  fun _ => ⟨what, rfl⟩

/-- What is refused stays as it is. -/
lemma of_error (failure : StoreFailure) :
    Responds strict (.error failure : Except StoreFailure α) (.error failure) := by
  cases strict with
  | false => exact rfl
  | true =>
    rintro ⟨a, ha⟩
    cases ha

lemma bind (h : Responds strict r r') (f : α → Except StoreFailure β) :
    Responds strict (r >>= f) (r' >>= f) := by
  cases strict with
  | false => exact congrArg (· >>= f) h
  | true =>
    rintro ⟨b, hb⟩
    obtain ⟨a, ha, -⟩ := bind_eq_ok_iff.1 hb
    obtain ⟨what, rfl⟩ := h ⟨a, ha⟩
    exact ⟨what, rfl⟩

lemma bind_right (r : Except StoreFailure α) {f f' : α → Except StoreFailure β}
    (h : ∀ a, Responds strict (f a) (f' a)) : Responds strict (r >>= f) (r >>= f') := by
  cases r with
  | ok a => exact h a
  | error e =>
    cases strict with
    | false => exact rfl
    | true =>
      rintro ⟨b, hb⟩
      cases hb

lemma map (h : Responds strict r r') (f : α → β) : Responds strict (r.map f) (r'.map f) := by
  cases strict with
  | false => exact congrArg (Except.map f) h
  | true =>
    rintro ⟨b, hb⟩
    obtain ⟨a, ha, -⟩ := exists_of_map_eq_ok hb
    obtain ⟨what, rfl⟩ := h ⟨a, ha⟩
    exact ⟨what, rfl⟩

/-- A list turns with one of its members. -/
lemma mapM {f : γ → Except StoreFailure α} {v v' : γ} (h : Responds strict (f v) (f v'))
    (before after : List γ) :
    Responds strict ((before ++ v :: after).mapM f) ((before ++ v' :: after).mapM f) := by
  rw [List.mapM_append, List.mapM_append, List.mapM_cons, List.mapM_cons]
  exact bind_right _ fun _ => (h.bind _).bind _

/-- A list that gains a member to be refused is refused. -/
lemma mapM_gain {f : γ → Except StoreFailure α} {v : γ} (h : f v = refuse what)
    (before after : List γ) :
    Responds true ((before ++ after).mapM f) ((before ++ v :: after).mapM f) := by
  rw [List.mapM_append, List.mapM_append, List.mapM_cons, h]
  exact bind_right _ fun _ => of_refuse _

lemma foldlM {f : β → γ → Except StoreFailure β} {v v' : γ}
    (h : ∀ b, Responds strict (f b v) (f b v')) (before after : List γ) (b : β) :
    Responds strict ((before ++ v :: after).foldlM f b) ((before ++ v' :: after).foldlM f b) := by
  rw [List.foldlM_append, List.foldlM_append]
  exact bind_right _ fun next => (h next).bind _

lemma foldlM_gain {f : β → γ → Except StoreFailure β} {v : γ} (h : ∀ b, f b v = refuse what)
    (before after : List γ) (b : β) :
    Responds true ((before ++ after).foldlM f b) ((before ++ v :: after).foldlM f b) := by
  rw [List.foldlM_append, List.foldlM_append]
  refine bind_right _ fun next => ?_
  rw [List.foldlM_cons, h]
  exact of_refuse _

end Responds

/-! ## Readers, member by member -/

lemma filtersOf_eq_mapM (items : List Json) : filtersOf items = items.mapM filterOf := by
  induction items with
  | nil => rw [filtersOf]; rfl
  | cons v rest ih => rw [filtersOf, ih, List.mapM_cons]

/-- Reads one filter, or every filter of a list. -/
def oneOrMany : Json → Except StoreFailure (List Filter)
  | .arr items => items.mapM filterOf
  | v => (filterOf v).map fun f => [f]

lemma filterListOf_eq (v : Json) : filterListOf v = oneOrMany ((field? v "filters").getD v) := by
  rw [filterListOf.eq_def]
  split
  · next items h =>
    rw [h, filtersOf_eq_mapM]
    rfl
  · next f hf h =>
    rw [h, Option.getD_some, oneOrMany]
    exact hf
  · next h =>
    simp only [h, Option.getD_none]
    cases v <;> simp [oneOrMany, filtersOf_eq_mapM]

/-- Reads one occurrence of a bool filter. -/
def occurrenceOf (e : String × Json) : Except StoreFailure (List Filter) :=
  if occurrenceNames.contains e.1 then (filterListOf e.2).map (occurrence e.1)
  else refuse (ticked e.1 ++ " in a bool filter")

lemma boolOf_eq_mapM (entries : Record) :
    boolOf entries = (entries.mapM occurrenceOf).map List.flatten := by
  induction entries with
  | nil => rw [boolOf]; rfl
  | cons e rest ih =>
    obtain ⟨name, v⟩ := e
    rw [boolOf, ih, List.mapM_cons, occurrenceOf]
    dsimp only
    split
    · cases filterListOf v with
      | error e => rfl
      | ok fs => cases rest.mapM occurrenceOf <;> rfl
    · rfl

/-- Reads one part of a filtered query. -/
def filteredPartOf (e : String × Json) : Except StoreFailure Filter :=
  if e.1 = "filter" then filterOf e.2
  else if e.1 = "query" then queryOf e.2
  else refuse (ticked e.1 ++ " in a filtered query")

lemma filteredOf_eq_mapM (entries : Record) :
    filteredOf entries = entries.mapM filteredPartOf := by
  induction entries with
  | nil => rw [filteredOf]; rfl
  | cons e rest ih =>
    obtain ⟨key, v⟩ := e
    rw [filteredOf, ih, List.mapM_cons, filteredPartOf]
    dsimp only
    split <;> [rfl; split <;> rfl]

/-- Reads one bound of a range. -/
def boundEntryOf (e : String × Json) : Except StoreFailure (RangeBound × Json) := do
  return (← boundOf e.1, e.2)

/-- Reads one field of a sort key. -/
def sortEntryOf (e : String × Json) : Except StoreFailure SortKey := do
  return ⟨e.1, ← directionOf e.2⟩

section Operators

variable {entries : Record} {v : Json}

lemma filterOf_single_matchAll : filterOf (single "match_all" v) = .ok .matchAll := by
  rw [single, filterOf.eq_def]
  simp only [if_true]

lemma filterOf_single_term : filterOf (single "term" v) = termOf v := by
  rw [single, filterOf.eq_def]
  simp only [String.reduceEq, if_false, if_true]

lemma filterOf_single_ids : filterOf (single "ids" v) = idsOf v := by
  rw [single, filterOf.eq_def]
  simp only [String.reduceEq, if_false, if_true]

lemma filterOf_single_range : filterOf (single "range" v) = rangeOf v := by
  rw [single, filterOf.eq_def]
  simp only [String.reduceEq, if_false, if_true]

lemma filterOf_single_not :
    filterOf (single "not" v) = (filterOf ((field? v "filter").getD v)).map .not := by
  rw [single, filterOf.eq_def]
  simp only [String.reduceEq, if_false, if_true]
  cases field? v "filter" <;> rfl

lemma filterOf_single_and : filterOf (single "and" v) = (filterListOf v).map .and := by
  rw [single, filterOf.eq_def]
  simp only [String.reduceEq, if_false, if_true]

lemma filterOf_single_or : filterOf (single "or" v) = (filterListOf v).map .or := by
  rw [single, filterOf.eq_def]
  simp only [String.reduceEq, if_false, if_true]

lemma filterOf_single_bool : filterOf (single "bool" (.obj entries)) =
    ((entries.mapM occurrenceOf).map List.flatten).map .all := by
  rw [single, filterOf.eq_def]
  simp only [String.reduceEq, if_false, if_true, boolOf_eq_mapM]

lemma queryOf_single_filtered : queryOf (single "filtered" (.obj entries)) =
    (entries.mapM filteredPartOf).map .all := by
  rw [single, queryOf.eq_def]
  simp only [if_true, filteredOf_eq_mapM]

lemma queryOf_single_constantScore : queryOf (single "constant_score" v) =
    (field? v "filter").elim (refuse "a constant_score query without filter") filterOf := by
  rw [single, queryOf.eq_def]
  simp only [String.reduceEq, if_false, if_true]
  cases field? v "filter" <;> rfl

lemma queryOf_single {operator : String} (hfiltered : operator ≠ "filtered")
    (hscore : operator ≠ "constant_score") :
    queryOf (single operator v) = filterOf (single operator v) := by
  rw [single, queryOf.eq_def]
  simp only [if_neg hfiltered, if_neg hscore]

/-- A filter is an object of one entry. -/
lemma filterOf_obj_of_length_ne (h : entries.length ≠ 1) :
    filterOf (.obj entries) = refuse ("filter " ++ (Json.obj entries).text) := by
  rw [filterOf]
  rintro operator body hv
  obtain rfl := Json.obj.inj hv
  exact h rfl

/-- A query is an object of one entry. -/
lemma queryOf_obj_of_length_ne (h : entries.length ≠ 1) :
    queryOf (.obj entries) = refuse ("query " ++ (Json.obj entries).text) := by
  rw [queryOf]
  rintro operator body hv
  obtain rfl := Json.obj.inj hv
  exact h rfl

end Operators

/-! ## One more entry -/

section Gains

variable {e : String × Json} (a b : Record)

/-- What reads objects of one entry only is strict. -/
lemma responds_of_length {α : Type} {read : Record → Except StoreFailure α} {what : Record → String}
    (h : ∀ r, r.length ≠ 1 → read r = refuse (what r)) :
    Responds true (read (a ++ b)) (read (a ++ e :: b)) := by
  rintro ⟨x, hx⟩
  have hone : (a ++ b).length = 1 := by
    by_contra hlength
    rw [h _ hlength] at hx
    cases hx
  refine ⟨_, h _ ?_⟩
  simp only [List.length_append, List.length_cons] at hone ⊢
  omega

lemma termOf_gain (field : String) (h : e.1 ≠ "value") :
    termOf (single field (.obj (a ++ e :: b))) = termOf (single field (.obj (a ++ b))) := by
  simp only [termOf, single, singleEntry, bind, Except.bind, Record.get?_append_cons_of_ne h]

lemma idsOf_gain (hvalues : e.1 ≠ "values") (htype : e.1 ≠ "type") :
    idsOf (.obj (a ++ e :: b)) = idsOf (.obj (a ++ b)) := by
  simp only [idsOf, field?, Record.get?_append_cons_of_ne hvalues,
    Record.get?_append_cons_of_ne htype]

lemma directionOf_gain (h : e.1 ≠ "order") :
    directionOf (.obj (a ++ e :: b)) = directionOf (.obj (a ++ b)) := by
  simp only [directionOf, Record.get?_append_cons_of_ne h]

lemma rangeOf_gain (field : String)
    (h : e.1 ∉ [RangeBound.gt, .gte, .lt, .lte].map RangeBound.name) :
    Responds true (rangeOf (single field (.obj (a ++ b))))
      (rangeOf (single field (.obj (a ++ e :: b)))) := by
  have hbound : boundOf e.1 = refuse ("the " ++ ticked e.1 ++ " range bound") := by
    have hnone : [RangeBound.gt, .gte, .lt, .lte].find? (·.name == e.1) = none := by
      rw [List.find?_eq_none]
      intro bound hbound hname
      exact h (beq_iff_eq.1 hname ▸ List.mem_map_of_mem hbound)
    rw [boundOf, hnone]
  have hentry : boundEntryOf e = refuse ("the " ++ ticked e.1 ++ " range bound") := by
    rw [boundEntryOf, hbound]
    rfl
  exact (Responds.mapM_gain hentry a b).bind _

end Gains

lemma field?_append_cons_self {a : Record} {key : String} (ha : key ∉ a.map Prod.fst) {v : Json}
    {b : Record} : field? (.obj (a ++ (key, v) :: b)) key = some v :=
  Record.get?_append_cons_self ha v b

/-- What an object that has a key is opened to does not change with an entry under another. -/
lemma getD_field?_gain {e : String × Json} {a b : Record} {key : String}
    (h : key ∈ (a ++ b).map Prod.fst) (he : e.1 ≠ key) :
    (field? (.obj (a ++ e :: b)) key).getD (.obj (a ++ e :: b)) =
      (field? (.obj (a ++ b)) key).getD (.obj (a ++ b)) := by
  have hsome : Record.get? (a ++ b) key ≠ none := fun hnone => Record.get?_eq_none_iff.1 hnone h
  obtain ⟨w, hw⟩ := Option.ne_none_iff_exists'.1 hsome
  simp only [field?, Record.get?_append_cons_of_ne he, hw, Option.getD_some]

lemma responds_occurrenceOf {strict : Bool} {v v' : Json}
    (h : Responds strict (filterListOf v) (filterListOf v')) (name : String) :
    Responds strict (occurrenceOf (name, v)) (occurrenceOf (name, v')) := by
  unfold occurrenceOf
  dsimp only
  split
  · exact h.map _
  · exact .of_error _

lemma readEntry_of_not_mem {e : String × Json} (h : e.1 ∉ Node.body.vocabulary)
    (state : Query × List Filter) : readEntry state e = refuse (ticked e.1) := by
  obtain ⟨key, v⟩ := e
  simp only [Node.vocabulary, List.mem_cons, List.not_mem_nil, or_false, not_or] at h
  obtain ⟨hquery, hfilter, hpost, hsize, hfrom, hsort, hsource⟩ := h
  simp [readEntry, *]

/-- How the reading of a value in a place responds when it becomes another. -/
def Place.Responds (place : Place) (strict : Bool) (v v' : Json) : Prop :=
  match place with
  | body => ∀ typeName, SearchBody.Responds strict (toQuery? typeName v) (toQuery? typeName v')
  | query => SearchBody.Responds strict (queryOf v) (queryOf v')
  | filter => SearchBody.Responds strict (filterOf v) (filterOf v')
  | negated => SearchBody.Responds strict (filterOf (single "not" v)) (filterOf (single "not" v'))
  | members => SearchBody.Responds strict (filterListOf v) (filterListOf v')
  | oneOrMany => SearchBody.Responds strict (SearchBody.oneOrMany v) (SearchBody.oneOrMany v')
  | sort => SearchBody.Responds strict (sortOf v) (sortOf v')
  | sortKey => SearchBody.Responds strict (sortKeysOf v) (sortKeysOf v')

/-- **Reading responds to an unknown entry as the kind of its object says**, wherever the object
is. -/
theorem responds_of_grows {e : String × Json} {place : Place} {n : Node} {v v' : Json}
    (h : Grows e place n v v') (hkey : e.1 ∉ n.vocabulary) : place.Responds n.isStrict v v' := by
  induction h with
  | filter a b => exact responds_of_length a b fun _ => filterOf_obj_of_length_ne
  | matchAll a b =>
    change filterOf _ = filterOf _
    rw [filterOf_single_matchAll, filterOf_single_matchAll]
  | termValue field a b =>
    change filterOf _ = filterOf _
    have hne : "value" ≠ e.1 := ne_of_mem_of_not_mem (by decide) hkey
    rw [filterOf_single_term, filterOf_single_term, termOf_gain a b field hne.symm]
  | ids a b =>
    change filterOf _ = filterOf _
    simp only [Node.vocabulary, List.mem_cons, List.not_mem_nil, or_false, not_or] at hkey
    rw [filterOf_single_ids, filterOf_single_ids, idsOf_gain a b hkey.1 hkey.2]
  | bounds field a b =>
    change SearchBody.Responds true (filterOf _) (filterOf _)
    rw [filterOf_single_range, filterOf_single_range]
    exact rangeOf_gain a b field hkey
  | bool a b =>
    change SearchBody.Responds true (filterOf _) (filterOf _)
    rw [filterOf_single_bool, filterOf_single_bool]
    have hrefuse : occurrenceOf e = refuse (ticked e.1 ++ " in a bool filter") :=
      if_neg (by simpa [Node.vocabulary] using hkey)
    exact ((Responds.mapM_gain hrefuse a b).map _).map _
  | inBool _ name a b ih =>
    change SearchBody.Responds _ (filterOf _) (filterOf _)
    rw [filterOf_single_bool, filterOf_single_bool]
    exact (((responds_occurrenceOf (ih hkey) name).mapM a b).map _).map _
  | inNot _ ih => exact ih hkey
  | inAnd _ ih =>
    change SearchBody.Responds _ (filterOf _) (filterOf _)
    rw [filterOf_single_and, filterOf_single_and]
    exact (ih hkey).map _
  | inOr _ ih =>
    change SearchBody.Responds _ (filterOf _) (filterOf _)
    rw [filterOf_single_or, filterOf_single_or]
    exact (ih hkey).map _
  | negation a b h =>
    change filterOf _ = filterOf _
    have hne : "filter" ≠ e.1 := ne_of_mem_of_not_mem (by decide) hkey
    rw [filterOf_single_not, filterOf_single_not, getD_field?_gain h hne.symm]
  | inNegation _ ha b ih =>
    change SearchBody.Responds _ (filterOf _) (filterOf _)
    rw [filterOf_single_not, filterOf_single_not, field?_append_cons_self ha,
      field?_append_cons_self ha]
    exact (ih hkey).map _
  | negatedFilter _ hv hv' ih =>
    change SearchBody.Responds _ (filterOf _) (filterOf _)
    rw [filterOf_single_not, filterOf_single_not, hv, hv']
    exact (ih hkey).map _
  | members a b h =>
    change filterListOf _ = filterListOf _
    have hne : "filters" ≠ e.1 := ne_of_mem_of_not_mem (by decide) hkey
    rw [filterListOf_eq, filterListOf_eq, getD_field?_gain h hne.symm]
  | inMembers _ ha b ih =>
    change SearchBody.Responds _ (filterListOf _) (filterListOf _)
    rw [filterListOf_eq, filterListOf_eq, field?_append_cons_self ha, field?_append_cons_self ha]
    exact ih hkey
  | plainMembers _ hv hv' ih =>
    change SearchBody.Responds _ (filterListOf _) (filterListOf _)
    rw [filterListOf_eq, filterListOf_eq, hv, hv']
    exact ih hkey
  | one _ ih => exact (ih hkey).map _
  | many _ l m ih => exact (ih hkey).mapM l m
  | query a b => exact responds_of_length a b fun _ => queryOf_obj_of_length_ne
  | filtered a b =>
    change SearchBody.Responds true (queryOf _) (queryOf _)
    rw [queryOf_single_filtered, queryOf_single_filtered]
    simp only [Node.vocabulary, List.mem_cons, List.not_mem_nil, or_false, not_or] at hkey
    have hrefuse : filteredPartOf e = refuse (ticked e.1 ++ " in a filtered query") := by
      rw [filteredPartOf, if_neg hkey.1, if_neg hkey.2]
    exact (Responds.mapM_gain hrefuse a b).map _
  | @filteredFilter n v v' _ a b ih =>
    have hpart : SearchBody.Responds n.isStrict (filteredPartOf ("filter", v))
        (filteredPartOf ("filter", v')) := ih hkey
    change SearchBody.Responds _ (queryOf _) (queryOf _)
    rw [queryOf_single_filtered, queryOf_single_filtered]
    exact (hpart.mapM a b).map _
  | @filteredQuery n v v' _ a b ih =>
    have hpart : SearchBody.Responds n.isStrict (filteredPartOf ("query", v))
        (filteredPartOf ("query", v')) := ih hkey
    change SearchBody.Responds _ (queryOf _) (queryOf _)
    rw [queryOf_single_filtered, queryOf_single_filtered]
    exact (hpart.mapM a b).map _
  | constantScore a b =>
    change queryOf _ = queryOf _
    have hne : "filter" ≠ e.1 := ne_of_mem_of_not_mem (by decide) hkey
    rw [queryOf_single_constantScore, queryOf_single_constantScore, field?, field?,
      Record.get?_append_cons_of_ne hne.symm]
  | inConstantScore _ ha b ih =>
    change SearchBody.Responds _ (queryOf _) (queryOf _)
    rw [queryOf_single_constantScore, queryOf_single_constantScore, field?_append_cons_self ha,
      field?_append_cons_self ha]
    exact ih hkey
  | plainQuery hfiltered hscore _ ih =>
    change SearchBody.Responds _ (queryOf _) (queryOf _)
    rw [queryOf_single hfiltered hscore, queryOf_single hfiltered hscore]
    exact ih hkey
  | order c d a b field =>
    change sortKeysOf _ = sortKeysOf _
    have hne : "order" ≠ e.1 := ne_of_mem_of_not_mem (by decide) hkey
    have hentry : SearchBody.Responds false (sortEntryOf (field, .obj (a ++ b)))
        (sortEntryOf (field, .obj (a ++ e :: b))) := by
      rw [sortEntryOf, sortEntryOf, directionOf_gain a b hne.symm]
      exact rfl
    exact hentry.mapM c d
  | sortKey _ ih => exact ih hkey
  | sortKeys _ l m ih => exact ((ih hkey).mapM l m).bind _
  | body a b =>
    intro typeName
    exact (Responds.foldlM_gain (readEntry_of_not_mem hkey) a b _).bind _
  | bodyQuery _ a b ih =>
    intro typeName
    exact (Responds.foldlM (fun state => (ih hkey).bind _) a b _).bind _
  | bodyFilter hname _ a b ih =>
    intro typeName
    obtain rfl | rfl := hname
    · exact (Responds.foldlM (fun state => (ih hkey).bind _) a b _).bind _
    · exact (Responds.foldlM (fun state => (ih hkey).bind _) a b _).bind _
  | bodySort _ a b ih =>
    intro typeName
    exact (Responds.foldlM (fun state => (ih hkey).bind _) a b _).bind _

/-! ## Orders -/

/-- The order that stands beside a field: the value itself, or what an object of options has under
`order`. -/
def orderOf? : Json → Option Json
  | .obj options => Record.get? options "order"
  | v => some v

/-- Whether an order stands in a body, beside some field of a sort key. -/
inductive HasOrder : Json → Json → Prop
  | of {entries fields : Record} {sort order : Json} {e : String × Json}
    (hsort : ("sort", sort) ∈ entries)
    (hfields : sort = .obj fields ∨ ∃ keys, sort = .arr keys ∧ .obj fields ∈ keys)
    (he : e ∈ fields) (horder : orderOf? e.2 = some order) : HasOrder (.obj entries) order

lemma eq_asc_or_desc_of_directionOf {v : Json} {s : String} {direction : SortDirection}
    (h : directionOf v = .ok direction) (horder : orderOf? v = some (.str s)) :
    s = "asc" ∨ s = "desc" := by
  have hname : directionOf v =
      if s = "desc" then .ok .desc else if s = "asc" then .ok .asc
      else refuse ("the " ++ ticked s ++ " sort order") := by
    cases v with
    | obj options =>
      rw [orderOf?] at horder
      rw [directionOf]
      simp only [horder, Option.bind_some, Json.str?]
    | str text =>
      obtain rfl := Json.str.inj (Option.some.inj horder)
      rfl
    | _ => cases horder
  rw [hname] at h
  split at h
  · exact .inr ‹_›
  split at h
  · exact .inl ‹_›
  · cases h

lemma exists_sortKeysOf {sort : Json} {keys : List SortKey} {fields : Record}
    (h : sortOf sort = .ok keys)
    (hfields : sort = .obj fields ∨ ∃ keys, sort = .arr keys ∧ .obj fields ∈ keys) :
    ∃ ks, sortKeysOf (.obj fields) = .ok ks := by
  obtain rfl | ⟨items, rfl, hmem⟩ := hfields
  · exact ⟨keys, h⟩
  · obtain ⟨lists, hlists, -⟩ := bind_eq_ok_iff.1 h
    exact exists_ok_of_mapM hlists _ hmem

/-- A named order of a body that is read is one of the two directions. -/
lemma eq_asc_or_desc_of_hasOrder {typeName : String} {body : Json} {q : Query} {s : String}
    (h : toQuery? typeName body = .ok q) (horder : HasOrder body (.str s)) :
    s = "asc" ∨ s = "desc" := by
  obtain ⟨hsort, hfields, he, horder⟩ := horder
  obtain ⟨state, hstate, -⟩ := bind_eq_ok_iff.1 h
  obtain ⟨before, after, hentry⟩ := exists_step_of_foldlM hstate _ hsort
  obtain ⟨keys, hkeys, -⟩ := bind_eq_ok_iff.1 hentry
  obtain ⟨ks, hks⟩ := exists_sortKeysOf hkeys hfields
  obtain ⟨k, hk⟩ := exists_ok_of_mapM hks _ he
  obtain ⟨direction, hdirection, -⟩ := bind_eq_ok_iff.1 hk
  exact eq_asc_or_desc_of_directionOf hdirection horder

/-- **A body that is read is refused with one more entry exactly where the entry stands in an object
that is read entry by entry**; in any other object an unknown entry is read past, and the query
stays the same.  The orders in the body are `asc` and `desc` wherever they are texts. -/
theorem toQuery?_refuses_iff {typeName : String} {body : Json} {q : Query}
    (h : toQuery? typeName body = .ok q) :
    (∀ e n body', Grows e .body n body body' → e.1 ∉ n.vocabulary →
      ((∃ what, toQuery? typeName body' = .error (.unsupportedBody what)) ↔ n.isStrict = true) ∧
        (n.isStrict = false → toQuery? typeName body' = .ok q)) ∧
      ∀ order, HasOrder body order →
        ((order = .str "asc" ∨ order = .str "desc") ↔ ∃ s, order = .str s) := by
  refine ⟨fun e n body' hgrows hkey => ?_, fun order horder => ?_⟩
  · have hresponds := responds_of_grows hgrows hkey typeName
    cases hstrict : n.isStrict with
    | true =>
      rw [hstrict] at hresponds
      refine ⟨iff_of_true (hresponds ⟨q, h⟩) rfl, fun hfalse => ?_⟩
      cases hfalse
    | false =>
      rw [hstrict] at hresponds
      have hread : toQuery? typeName body' = .ok q := hresponds.trans h
      refine ⟨⟨?_, ?_⟩, fun _ => hread⟩
      · rintro ⟨what, hwhat⟩
        rw [hread] at hwhat
        cases hwhat
      · intro htrue
        cases htrue
  · constructor
    · rintro (rfl | rfl)
      · exact ⟨"asc", rfl⟩
      · exact ⟨"desc", rfl⟩
    · rintro ⟨s, rfl⟩
      obtain rfl | rfl := eq_asc_or_desc_of_hasOrder h horder
      · exact .inl rfl
      · exact .inr rfl

/-- A combinator refuses `minimum_should_match`, and the negation inside it reads past `_cache`. -/
theorem toQuery?_refuses_iff_nested :
    let negation (options : Record) : Json :=
      single "not" (.obj (("filter", single "match_all" (.obj [])) :: options))
    let body (options more : Record) : Json := .obj
      [("query", single "bool" (.obj (("must", .arr [negation options]) :: more))),
       ("sort", single "n" (single "order" (.str "desc")))]
    let q : Query := { typeName := "item", filter := .not .matchAll, sort := [⟨"n", .desc⟩] }
    toQuery? "item" (body [] []) = .ok q ∧
      (∃ what, toQuery? "item" (body [] [("minimum_should_match", .nat 1)]) =
        .error (.unsupportedBody what)) ∧
      toQuery? "item" (body [("_cache", .bool true)] []) = .ok q := by
  intro negation body q
  have hfilter : filterOf (negation []) = .ok (.not .matchAll) := by
    rw [filterOf_single_not, field?, Record.get?, if_pos rfl, Option.getD_some,
      filterOf_single_matchAll]
    rfl
  have hmust : filterListOf (.arr [negation []]) = .ok [.not .matchAll] := by
    have hlist : filterListOf (.arr [negation []]) = [negation []].mapM filterOf :=
      filterListOf_eq _
    rw [hlist, List.mapM_cons, hfilter]
    rfl
  have hquery : queryOf (single "bool" (.obj [("must", .arr [negation []])])) =
      .ok (.not .matchAll) := by
    rw [queryOf_single (by decide) (by decide), filterOf_single_bool, List.mapM_cons,
      occurrenceOf, if_pos (by decide), hmust]
    rfl
  have hbody : toQuery? "item" (body [] []) = .ok q := by
    simp only [toQuery?, body, List.foldlM_cons]
    rw [readEntry, if_pos rfl, hquery]
    · rfl
    · intro b hb
      cases hb
  refine ⟨hbody, ?_, ?_⟩
  · have hgrows : Grows ("minimum_should_match", .nat 1) .body .bool (body [] [])
        (body [] [("minimum_should_match", .nat 1)]) := by
      refine .bodyQuery (.plainQuery (by decide) (by decide) ?_) [] _
      exact .bool [("must", .arr [negation []])] []
    exact (((toQuery?_refuses_iff hbody).1 _ _ _ hgrows (by decide)).1).2 rfl
  · have hgrows : Grows ("_cache", .bool true) .body .negation (body [] [])
        (body [("_cache", .bool true)] []) := by
      refine .bodyQuery (.plainQuery (by decide) (by decide) ?_) [] _
      refine .inBool (.plainMembers (.many (.inNot ?_) [] []) rfl rfl) "must" [] []
      exact .negation [("filter", single "match_all" (.obj []))] [] (by decide)
    exact ((toQuery?_refuses_iff hbody).1 _ _ _ hgrows (by decide)).2 rfl

/-- Options of an order beside `order` itself are read past, and so is an order that is no text. -/
theorem toQuery?_reads_past_options :
    let body (options : Record) : Json := .obj [("sort", .arr [single "n" (.obj options)])]
    (Grows ("mode", .str "max") .body .order (body [("order", .str "desc")])
        (body [("order", .str "desc"), ("mode", .str "max")]) ∧
      "mode" ∉ Node.order.vocabulary ∧
      toQuery? "item" (body [("order", .str "desc")]) =
        .ok { typeName := "item", sort := [⟨"n", .desc⟩] } ∧
      toQuery? "item" (body [("order", .str "desc"), ("mode", .str "max")]) =
        .ok { typeName := "item", sort := [⟨"n", .desc⟩] }) ∧
      HasOrder (body [("order", .nat 5)]) (.nat 5) ∧
      toQuery? "item" (body [("order", .nat 5)]) =
        .ok { typeName := "item", sort := [⟨"n", .asc⟩] } := by
  intro body
  have hgrows : Grows ("mode", .str "max") .body .order (body [("order", .str "desc")])
      (body [("order", .str "desc"), ("mode", .str "max")]) := by
    refine .bodySort (.sortKeys ?_ [] []) [] []
    exact .order [] [] [("order", .str "desc")] [] "n"
  have horder : HasOrder (body [("order", .nat 5)]) (.nat 5) :=
    .of List.mem_cons_self (.inr ⟨_, rfl, List.mem_cons_self⟩) List.mem_cons_self rfl
  exact ⟨⟨hgrows, by decide, rfl, rfl⟩, horder, rfl⟩

end CriteriaSearch.SearchBody

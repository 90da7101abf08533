import CriteriaSearch.Pattern

/-!
# Filters

The store-neutral form of a where-clause.  Each filter says something about one stored document;
`passThrough` carries an operator that only some stores know.
-/

namespace CriteriaSearch

/-- A condition on a stored document. -/
inductive Filter where
  | matchAll
  | term (field : String) (value : Json)
  | terms (field : String) (values : List Json)
  | ids (values : List Json) (typeName : Option String)
  | range (field : String) (bounds : List (RangeBound × Json))
  | regexp (field : String) (pattern : Pattern)
  | not (inner : Filter)
  | and (filters : List Filter)
  | or (filters : List Filter)
  | passThrough (field operator : String) (value : Json)

namespace Filter

/-- The operator of a filter, under which fragments on one field replace each other. -/
def operatorKey : Filter → String
  | matchAll => "match_all"
  | term _ _ => "term"
  | terms _ _ => "terms"
  | ids _ _ => "ids"
  | range _ _ => "range"
  | regexp _ _ => "regexp"
  | not _ => "not"
  | and _ => "and"
  | or _ => "or"
  | passThrough _ operator _ => operator

/-- Whether the filter is the one that holds of every document by its form. -/
def isMatchAll : Filter → Bool
  | matchAll => true
  | _ => false

/-- The conjunction of a list, without a node of its own where none is needed. -/
def all : List Filter → Filter
  | [] => matchAll
  | [f] => f
  | fs => .and fs

/-- Sets a bound: an existing one keeps its place, a new one goes last. -/
def setBound (bounds : List (RangeBound × Json)) (bound : RangeBound) (value : Json) :
    List (RangeBound × Json) :=
  match bounds with
  | [] => [(bound, value)]
  | (b, v) :: rest =>
    if b = bound then (b, value) :: rest else (b, v) :: setBound rest bound value

/-- A fragment put in the place of another of the same operator: two ranges merge their bounds,
anything else is replaced. -/
def supersede : Filter → Filter → Filter
  | range field bounds, range _ added =>
    range field (added.foldl (fun bs e => setBound bs e.1 e.2) bounds)
  | _, fragment => fragment

/-- Takes a fragment into a list that has at most one of each operator. -/
def foldIn (folded : List Filter) (fragment : Filter) : List Filter :=
  match folded with
  | [] => [fragment]
  | f :: rest =>
    if f.operatorKey = fragment.operatorKey then supersede f fragment :: rest
    else f :: foldIn rest fragment

/-- The conjunction of the fragments of one field, one for each operator. -/
def foldFragments (fragments : List Filter) : Filter :=
  all (fragments.foldl foldIn [])

end Filter

end CriteriaSearch

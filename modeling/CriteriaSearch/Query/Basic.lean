import CriteriaSearch.Criteria.Basic
import CriteriaSearch.Filter

/-!
# Queries

What a store is asked: a filter, an order, a window, statistics and facets, for the documents of
one type.
-/

namespace CriteriaSearch

/-- A statistic over one field, under the name of its result. -/
structure Aggregation where
  name : String
  metric : Metric
  field : String
  deriving DecidableEq

/-- The name of a statistic in queries. -/
def Metric.name : Metric → String
  | sum => "sum"
  | avg => "avg"
  | min => "min"
  | max => "max"

/-- The statistic over a field, named after both. -/
def Aggregation.of (metric : Metric) (field : String) : Aggregation :=
  ⟨metric.name ++ "_" ++ field, metric, field⟩

/-- A query to a store. -/
structure Query where
  typeName : String
  filter : Filter := .matchAll
  sort : List SortKey := []
  size : Option Nat := none
  start : Option Nat := none
  aggregations : Option (List Aggregation) := none
  facets : Option Json := none
  fetchSource : Bool := true

namespace Query

/-- Whether statistics are asked for. -/
def isAggregate (q : Query) : Bool :=
  q.aggregations.isSome

/-- Whether anything beside documents is asked for. -/
def hasPayloads (q : Query) : Bool :=
  q.aggregations.isSome || q.facets.isSome

/-- The query for identifiers only. -/
def withoutSource (q : Query) : Query :=
  { q with fetchSource := false }

/-- The query with a size where it has none. -/
def withDefaultSize (q : Query) (limit : Nat) : Query :=
  { q with size := some (q.size.getD limit) }

end Query

end CriteriaSearch

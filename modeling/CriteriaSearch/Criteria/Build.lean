import CriteriaSearch.Criteria.Basic

/-!
# Building criteria

Clauses and criteria put together by hand instead of read from JSON.
-/

namespace CriteriaSearch

namespace Clause

/-- Equality. -/
def eq (field : String) (value : Json) : Clause :=
  ofField field (.literal value)

/-- Membership. -/
def oneOf (field : String) (values : List Json) : Clause :=
  ofField field (.oneOf values)

/-- Inequality. -/
def ne (field : String) (value : Json) : Clause :=
  ofModifier field (.not (.literal value))

/-- The opposite of membership. -/
def notOneOf (field : String) (values : List Json) : Clause :=
  ofModifier field (.not (.oneOf values))

/-- One bound of a range. -/
def bounded (bound : RangeBound) (field : String) (value : Json) : Clause :=
  ofModifier field (.range bound value)

/-- A comparison with a text. -/
def textual (how : TextMatch) (field : String) (text : String) : Clause :=
  ofModifier field (.text how (.str text))

end Clause

namespace Criteria

/-- The criteria with another where-clause. -/
def filter (c : Criteria) (clause : Clause) : Criteria :=
  { c with clause := some clause }

/-- The criteria with at most `n` results. -/
def take (c : Criteria) (n : Nat) : Criteria :=
  { c with limit := some n }

/-- The criteria without the first `n` results. -/
def drop (c : Criteria) (n : Nat) : Criteria :=
  { c with skip := some n }

/-- The criteria with one more key of the order. -/
def thenBy (c : Criteria) (field : String) (direction : SortDirection) : Criteria :=
  { c with sort := c.sort ++ [⟨field, direction⟩] }

/-- The criteria with a statistic of one more field. -/
def measure (c : Criteria) (metric : Metric) (field : String) : Criteria :=
  { c with aggregate := some ((c.aggregate.getD {}).addField metric field) }

/-- The criteria with facets. -/
def withFacets (c : Criteria) (facets : Record) : Criteria :=
  { c with facets := some (.obj facets) }

end Criteria

end CriteriaSearch

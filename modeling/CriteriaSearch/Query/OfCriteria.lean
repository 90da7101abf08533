import CriteriaSearch.Coercion
import CriteriaSearch.Query.Basic

/-!
# Queries of criteria

Turns criteria into a query under a schema.  Values are coerced to the declared types of their
fields; equality and membership on the identifier become a look-up of identifiers, and an equality
with no identifier holds of every document.
-/

namespace CriteriaSearch

namespace Filter

/-- Equality with a coerced value. -/
def ofLiteral (schema : Schema) (typeName field : String) (v : Json) : Filter :=
  let value := schema.coerce field v
  if Schema.isIdField field then
    if value.isTruthy then ids [value] (some typeName) else matchAll
  else term field value

/-- Membership in a list of coerced values. -/
def ofList (schema : Schema) (typeName field : String) (vs : List Json) : Filter :=
  let values := vs.map (schema.coerce field)
  if Schema.isIdField field then ids values (some typeName) else terms field values

/-- A text comparison: a pattern where the operand is text, else left to the store. -/
def ofTextMatch (schema : Schema) (field : String) (how : TextMatch) : Json → Filter
  | .str s => regexp field (Pattern.ofMatch how s.toList)
  | v => passThrough field how.name (schema.coerce field v)

mutual

/-- The filter of an expression on a field. -/
def ofExpression (schema : Schema) (typeName field : String) : Expression → Filter
  | .literal v => ofLiteral schema typeName field v
  | .oneOf vs => ofList schema typeName field vs
  | .modifiers ms => foldFragments (ofModifiers schema typeName field ms)

/-- The filters of modifiers on a field, one for each. -/
def ofModifiers (schema : Schema) (typeName field : String) : List Modifier → List Filter
  | [] => []
  | m :: rest =>
    (match m with
      | .not inner => Filter.not (ofExpression schema typeName field inner)
      | .range bound v => range field [(bound, schema.coerce field v)]
      | .text how v => ofTextMatch schema field how v
      | .other operator v => passThrough field operator (schema.coerce field v)) ::
      ofModifiers schema typeName field rest

end

mutual

/-- The filter of a clause. -/
def ofClause (schema : Schema) (typeName : String) : Clause → Filter
  | .fields fields => all (fields.map fun e => ofExpression schema typeName e.1 e.2)
  | .and cs => .and (ofClauses schema typeName cs)
  | .or cs => .or (ofClauses schema typeName cs)
  | .all cs => all (ofClauses schema typeName cs)

/-- The filters of clauses. -/
def ofClauses (schema : Schema) (typeName : String) : List Clause → List Filter
  | [] => []
  | c :: rest => ofClause schema typeName c :: ofClauses schema typeName rest

end

/-- The filter of an optional where-clause. -/
def ofWhere (schema : Schema) (typeName : String) : Option Clause → Filter
  | none => matchAll
  | some c => if c.asksNoId then matchAll else ofClause schema typeName c

end Filter

namespace AggregateOptions

/-- The order in which statistics are listed. -/
def metrics : List Metric := [.sum, .avg, .min, .max]

/-- Whether no statistic has a list of fields. -/
def isVacuous (o : AggregateOptions) : Bool :=
  metrics.all fun m => (o.fieldsOf m).isNone

/-- The statistics asked for, by metric and then in the order of their fields. -/
def aggregations (o : AggregateOptions) : List Aggregation :=
  metrics.flatMap fun m => ((o.fieldsOf m).getD []).map (Aggregation.of m)

end AggregateOptions

/-- The key of an order as the store knows it. -/
def SortKey.stored (k : SortKey) : SortKey :=
  if k.field = Schema.idField then { k with field := Schema.storedIdField } else k

namespace Query

/-- The statistics of a query; asking for statistics without any list of fields is an error. -/
def aggregationsOf : Option AggregateOptions → Except SearchError (Option (List Aggregation))
  | none => .ok none
  | some o => if o.isVacuous then .error .invalidGroupBy else .ok (some o.aggregations)

/-- The query of criteria. -/
def ofCriteria (schema : Schema) (typeName : String) (c : Criteria) :
    Except SearchError Query := do
  return {
    typeName
    aggregations := ← aggregationsOf c.aggregate
    filter := Filter.ofWhere schema typeName c.clause
    sort := c.sort.map SortKey.stored
    size := c.limit
    start := c.skip
    facets := c.facets }

end Query

end CriteriaSearch

import CriteriaSearch.Collection.Operations
import CriteriaSearch.Model.Basic

/-!
# Typed collections

The operations of a collection on the values of a model.  A stored record that stands for no value
of the model fails the operation after everything was sent.
-/

namespace CriteriaSearch

/-- A collection that holds values of a model. -/
structure TypedCollection where
  model : Model
  collection : Collection

/-- The definition of the collection of a model. -/
def Model.definition (m : Model) : CollectionDefinition :=
  { identity := m.identity, schema := m.schema }

namespace TypedCollection

/-- The collection of a model in an index. -/
def of (index : String) (m : Model) (options : CollectionOptions) : TypedCollection :=
  ⟨m, ⟨index, m.definition.normalize, options⟩⟩

/-- The values of records. -/
def valuesOf (t : TypedCollection) (rs : List Record) : Session (List Json) :=
  Session.ofExcept (rs.mapM t.model.ofRecord)

/-- Finds values. -/
def find (t : TypedCollection) (criteria : Criteria) : Session (List Json) := do
  t.valuesOf (← t.collection.find criteria).records

/-- Writes values. -/
def insert (t : TypedCollection) (values : List Json) : Session (List Json) := do
  let records ← Session.ofExcept (values.mapM t.model.toRecord)
  t.valuesOf (← t.collection.insert records)

/-- Writes a value. -/
def insertOne (t : TypedCollection) (value : Json) : Session Json := do
  let r ← Session.ofExcept (t.model.toRecord value)
  Session.ofExcept (t.model.ofRecord (← t.collection.insertOne r))

/-- Updates the values that match. -/
def update (t : TypedCollection) (criteria : Criteria) (values : Record) :
    Session (List Json) := do
  t.valuesOf (← t.collection.update criteria values)

/-- Removes the values that match; tells their identifiers. -/
def destroy (t : TypedCollection) (criteria : Criteria) : Session (List String) := do
  return (← t.collection.destroy criteria).filterMap fun r =>
    (r.get? Schema.idField).bind Json.str?

/-- Counts the values that match. -/
def count (t : TypedCollection) (criteria : Criteria) : Session Nat :=
  t.collection.count criteria

/-- Finds a page of values. -/
def paginate (t : TypedCollection) (criteria : Criteria) (p : PageRequest) :
    Session (Page Json) := do
  let page ← t.collection.paginate criteria p
  let items ← t.valuesOf page.items
  return { items, count := page.count, nextPage := page.nextPage
           previousPage := page.previousPage }

end TypedCollection

end CriteriaSearch

import CriteriaSearch.Schema
import CriteriaSearch.Text.Case

/-!
# Collection definitions

A collection is declared by an identity, an optional type name and a schema.  Normalizing fixes the
type name under which the store keeps its documents and the types of its keys: store identifiers
are text, so an integer primary key `id` and every foreign key become strings, and no attribute
counts by itself.
-/

namespace CriteriaSearch

/-- A collection as its owner declares it. -/
structure CollectionDefinition where
  identity : String
  typeName : Option String := none
  schema : Schema := {}

/-- A collection as the store knows it. -/
structure CollectionSchema where
  typeName : String
  schema : Schema := {}

/-- The declaration of an attribute under normalized keys. -/
def Attribute.normalize (name : String) (a : Attribute) : Attribute :=
  let integerId := name == Schema.idField && a.primaryKey && a.type == .integer
  { a with
    type := if integerId || a.foreignKey then .string else a.type
    autoIncrement := false }

/-- Every attribute normalized. -/
def Schema.normalize (s : Schema) : Schema :=
  ⟨s.attributes.map Attribute.normalize⟩

/-- Fixes the type name and the types of the keys. -/
def CollectionDefinition.normalize (d : CollectionDefinition) : CollectionSchema where
  typeName := d.typeName.getD (Text.lowercase d.identity)
  schema := d.schema.normalize

/-- What callers may tune. -/
structure CollectionOptions where
  /-- How many updates of a batch may be under way at once; zero counts as one. -/
  updateConcurrency : Nat := 16
  /-- How many documents an update or a removal captures when its criteria set no limit. -/
  matchLimit : Nat := 10000
  deriving DecidableEq

end CriteriaSearch

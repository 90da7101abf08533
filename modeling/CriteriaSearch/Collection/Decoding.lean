import CriteriaSearch.Collection.Definition
import CriteriaSearch.Json.Decoding
import CriteriaSearch.Page

/-!
# Reading definitions

Definitions of collections, their options and requests for pages, from JSON.
-/

namespace CriteriaSearch

/-- Reads a type: its name, or an object that maps its name to null. -/
def AttributeType.decode : Json.Decoder AttributeType
  | .scalar (.str s) => some (.ofName s)
  | .obj [(some name, .scalar .null)] => some (.ofName name)
  | _ => none

/-- Reads the declaration of an attribute. -/
def Attribute.decode : Json.Decoder Attribute := fun v => do
  let g ← Json.Given.of? ["type", "primaryKey", "foreignKey", "autoIncrement"] v
  return {
    type := ← g.required "type" AttributeType.decode
    primaryKey := ← g.withDefault "primaryKey" Json.asBool false
    foreignKey := ← g.withDefault "foreignKey" Json.asBool false
    autoIncrement := ← g.withDefault "autoIncrement" Json.asBool false }

/-- Reads a schema. -/
def Schema.decode : Json.Decoder Schema := fun v =>
  (Json.asEntries Attribute.decode v).map Schema.ofList

/-- Reads the definition of a collection. -/
def CollectionDefinition.decode : Json.Decoder CollectionDefinition := fun v => do
  let g ← Json.Given.of? ["identity", "tableName", "attributes"] v
  return {
    identity := ← g.required "identity" Json.asText
    typeName := ← g.withDefault "tableName" (Json.asNullable Json.asText) none
    schema := ← g.withDefault "attributes" Schema.decode {} }

/-- Reads options. -/
def CollectionOptions.decode : Json.Decoder CollectionOptions := fun v => do
  let g ← Json.Given.of? ["updateConcurrency", "matchLimit"] v
  let base : CollectionOptions := {}
  return {
    updateConcurrency := ← g.withDefault "updateConcurrency" Json.asUnsigned base.updateConcurrency
    matchLimit := ← g.withDefault "matchLimit" Json.asUnsigned base.matchLimit }

/-- Reads a request for a page. -/
def PageRequest.decode : Json.Decoder PageRequest := fun v => do
  let g ← Json.Given.of? ["page", "per_page"] v
  return {
    page := ← g.required "page" Json.asUnsigned
    perPage := ← g.required "per_page" Json.asUnsigned }

end CriteriaSearch

import CriteriaSearch.Json.Decoding
import CriteriaSearch.Store.Protocol

/-!
# Reading operations and answers

Bulk operations and the answers of a store, from JSON in the form that callers use.
-/

namespace CriteriaSearch

/-- A document to write, with the identifier to write it under if there is one. -/
structure IndexDocument where
  id : Option String
  source : Record

/-- The operation that writes a document. -/
def IndexDocument.operation (d : IndexDocument) : BulkOperation :=
  .index d.id d.source

/-- Reads a document to write. -/
def IndexDocument.decode : Json.Decoder IndexDocument := fun v => do
  let g ← Json.Given.of? ["id", "source"] v
  return {
    id := ← g.optional "id" Json.asText
    source := ← g.required "source" Json.asRecord }

/-- Reads the fields of the bulk operation of a name. -/
def BulkOperation.decodeAs (name : String) (v : Json.Written) : Option BulkOperation :=
  match name with
  | "index" => (IndexDocument.decode v).map fun d => .index d.id d.source
  | "create" => (IndexDocument.decode v).map fun d => .create d.id d.source
  | "update" => do
    let g ← Json.Given.of? ["id", "partial"] v
    return .update (← g.required "id" Json.asText) (← g.required "partial" Json.asRecord)
  | "delete" => do
    let g ← Json.Given.of? ["id"] v
    return .delete (← g.required "id" Json.asText)
  | _ => none

/-- Reads a bulk operation: an object that names it under `op`, or a list that begins with its
name. -/
def BulkOperation.decode : Json.Decoder BulkOperation := fun w => do
  match ← w.toJson? with
  | .obj entries =>
    match Record.get? entries "op" with
    | some (.str name) => decodeAs name (.ofJson (.obj (entries.filter (·.1 != "op"))))
    | _ => none
  | .arr (.str name :: rest) => decodeAs name (.ofJson (.arr rest))
  | _ => none

/-- Reads the answer for one identifier. -/
def MultiGetItem.decode : Json.Decoder MultiGetItem := fun v => do
  let g ← Json.Given.of? ["id", "found", "source"] v
  return {
    id := ← g.required "id" Json.asText
    found := ← g.required "found" Json.asBool
    source := ← g.optional "source" Json.asRecord }

/-- Reads a document of a search result. -/
def Hit.decode : Json.Decoder Hit := fun v => do
  let g ← Json.Given.of? ["id", "source"] v
  return {
    id := ← g.required "id" Json.asText
    source := ← g.optional "source" Json.asRecord }

/-- Reads the documents of a search result. -/
def Hits.decode : Json.Decoder Hits := fun v => do
  let g ← Json.Given.of? ["total", "hits"] v
  return {
    total := ← g.required "total" Json.asUnsigned
    hits := ← g.required "hits" (Json.asList Hit.decode) }

/-- Reads the answer to a search. -/
def SearchResponse.decode : Json.Decoder SearchResponse := fun v => do
  let g ← Json.Given.of? ["hits", "aggregations", "facets"] v
  return {
    hits := ← g.optional "hits" Hits.decode
    aggregations := ← g.optional "aggregations" Json.asAny
    facets := ← g.optional "facets" Json.asAny }

/-- Reads the outcome of one operation. -/
def BulkItem.decode : Json.Decoder BulkItem := fun v => do
  let g ← Json.Given.of? ["id", "error"] v
  return {
    id := ← g.optional "id" Json.asText
    error := ← g.optional "error" Json.asText }

/-- Reads the answer to a bulk request. -/
def BulkResponse.decode : Json.Decoder BulkResponse := fun v => do
  let g ← Json.Given.of? ["items"] v
  return { items := ← g.required "items" (Json.asList BulkItem.decode) }

end CriteriaSearch

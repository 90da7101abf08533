import CriteriaSearch.Json.Decoding
import CriteriaSearch.Json.Printer
import CriteriaSearch.Store.Protocol

/-!
# Bodies on the wire

How the answers of a search server are read, and how bulk operations are written: one line of JSON
for each action and one more for its document, every line closed by a line feed.
-/

namespace CriteriaSearch.Wire

/-! ## Answers -/

/-- Reads the answer to a look-up by identifiers. -/
def multiGetItem : Json.Decoder MultiGetItem := fun v => do
  let g ← Json.Given.of? ["_id", "found", "_source"] v
  return {
    id := ← g.required "_id" Json.asText
    found := ← g.withDefault "found" Json.asBool false
    source := ← g.optional "_source" Json.asRecord }

/-- Reads the answers to a look-up. -/
def multiGet : Json.Decoder (List MultiGetItem) := fun v => do
  let g ← Json.Given.of? ["docs"] v
  g.withDefault "docs" (Json.asList multiGetItem) []

/-- Reads how many documents matched: a number, or an object that holds it and nothing faulty.  The
object cannot be given as a list of its values. -/
def total : Json.Decoder Nat := fun w =>
  match Json.asUnsigned w with
  | some n => some n
  | none => do
    let _ ← Json.asAny w
    let _ ← w.entries?
    (← Json.Given.of? ["value"] w).required "value" Json.asUnsigned

/-- Reads one document of a search result. -/
def hit : Json.Decoder Hit := fun v => do
  let g ← Json.Given.of? ["_id", "_source"] v
  return {
    id := ← g.required "_id" Json.asText
    source := ← g.optional "_source" Json.asRecord }

/-- Reads the documents of a search result. -/
def hits : Json.Decoder Hits := fun v => do
  let g ← Json.Given.of? ["total", "hits"] v
  return {
    total := ← g.required "total" total
    hits := ← g.withDefault "hits" (Json.asList hit) [] }

/-- Reads the answer to a search. -/
def search : Json.Decoder SearchResponse := fun v => do
  let g ← Json.Given.of? ["hits", "aggregations", "facets"] v
  return {
    hits := ← g.optional "hits" hits
    aggregations := ← g.optional "aggregations" Json.asAny
    facets := ← g.optional "facets" Json.asAny }

/-- Reads the answer to a count. -/
def count : Json.Decoder Nat := fun v => do
  (← Json.Given.of? ["count"] v).required "count" Json.asUnsigned

/-- The text of an error: a text itself, the type and reason of an object that has both as texts, or
else its JSON. -/
def describeError (v : Json) : String :=
  match v with
  | .str s => s
  | .obj entries =>
    match Record.get? entries "type", Record.get? entries "reason" with
    | some (.str kind), some (.str reason) => kind ++ ": " ++ reason
    | _, _ => v.text
  | v => v.text

/-- Reads the outcome of one operation. -/
def bulkItem : Json.Decoder BulkItem := fun v => do
  let g ← Json.Given.of? ["_id", "error"] v
  return {
    id := ← g.optional "_id" Json.asText
    error := (← g.optional "error" Json.asAny).map describeError }

/-- The orders in which hash tables list their keys: every table lists all of them, each in an order
of its own. -/
structure TableOrder where
  list : Nat → List String → List String := fun _ names => names
  perm : ∀ table names, (list table names).Perm names := by exact fun _ _ => .refl _

/-- The outcome under the action that the table of a member lists first, the last one where the
action is repeated. -/
def outcome? (order : TableOrder) (entries : List (String × BulkItem)) (member : Nat) :
    Option BulkItem :=
  (order.list member (entries.map Prod.fst).eraseDups).head?.bind fun action =>
    entries.reverse.lookup action

/-- The answer with these members.  One without an action is skipped. -/
def responseOf (order : TableOrder) (members : List (List (String × BulkItem))) : BulkResponse :=
  ⟨members.zipIdx.filterMap fun member => outcome? order member.1 member.2⟩

/-- Reads the members of the answer to a bulk request.  An outcome stands under the name of its
action. -/
def bulkMembers : Json.Decoder (List (List (String × BulkItem))) := fun v => do
  let g ← Json.Given.of? ["items"] v
  g.withDefault "items" (Json.asList (Json.asEntries bulkItem)) []

/-- Reads the answer to a bulk request. -/
def bulk (order : TableOrder) : Json.Decoder BulkResponse := fun v =>
  (bulkMembers v).map (responseOf order)

/-! ## Bulk lines -/

/-- The line of an action. -/
def actionLine (name : String) (id : Option String) : Json :=
  .obj [(name, .obj (match id with | some id => [("_id", .str id)] | none => []))]

/-- The lines of an operation. -/
def operationLines : BulkOperation → List Json
  | .index id source => [actionLine "index" id, .obj source]
  | .create id source => [actionLine "create" id, .obj source]
  | .update id partialSource => [actionLine "update" (some id), .obj [("doc", .obj partialSource)]]
  | .delete id => [actionLine "delete" (some id)]

/-- The body of a bulk request. -/
def bulkLines (operations : List BulkOperation) : String :=
  String.join ((operations.flatMap operationLines).map fun line => line.text ++ "\n")

end CriteriaSearch.Wire

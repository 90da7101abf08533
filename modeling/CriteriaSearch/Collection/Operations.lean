import CriteriaSearch.Collection.Definition
import CriteriaSearch.Document
import CriteriaSearch.Page
import CriteriaSearch.Query.OfCriteria
import CriteriaSearch.Store.Session

/-!
# Operations on a collection

A collection is a schema at an address of a store.  Its operations are sessions: a write is followed
by a look-up of what was written, an update or removal by criteria first captures the identifiers of
the documents that match, and criteria that only name identifiers are answered by a look-up.

Criteria and documents are checked before anything is sent, so a faulty request sends nothing.
-/

namespace CriteriaSearch

/-- A collection in an index of a store. -/
structure Collection where
  index : String
  schema : CollectionSchema
  options : CollectionOptions := {}

/-- What was found: documents, and for queries with statistics or facets their results. -/
inductive FindResult where
  | documents (documents : List Record)
  | aggregate (documents : List Record) (aggregations facets : Option Json)

/-- The documents that were found. -/
def FindResult.records : FindResult → List Record
  | documents ds => ds
  | aggregate ds _ _ => ds

/-- How far a batch of updates came: the identifiers that were updated, and why it stopped. -/
structure UpdateBatch where
  completed : List String := []
  failure : Option StoreFailure := none

/-- The identifiers of a batch that did not stop early. -/
def UpdateBatch.result (b : UpdateBatch) : Except SearchError (List String) :=
  match b.failure with
  | some failure => .error (.store failure)
  | none => .ok b.completed

namespace Collection

/-- Where the documents are kept. -/
def address (c : Collection) : Address :=
  ⟨c.index, c.schema.typeName⟩

/-- The query of criteria. -/
def compile (c : Collection) (criteria : Criteria) : Except SearchError Query :=
  Query.ofCriteria c.schema.schema c.schema.typeName criteria

/-- A record prepared for writing. -/
def prepare (c : Collection) (r : Record) : Except SearchError PreparedDocument :=
  match Document.prepare c.schema.schema r with
  | .ok d => .ok d
  | .error cause => .error (.invalidDocument cause)

/-- The records of the documents that were found. -/
def recordsOf (items : List MultiGetItem) : List Record :=
  (items.filter (·.found)).map fun item => Document.hydrate item.id (item.source.getD [])

/-- Looks documents up by identifier; asks nothing for no identifiers. -/
def fetch (c : Collection) (ids : List String) : Session (List Record) :=
  if ids.isEmpty then pure []
  else do return recordsOf (← Session.request c.address (.multiGet ids))

/-- Finds documents. -/
def find (c : Collection) (criteria : Criteria) : Session FindResult :=
  match criteria.idLookup? with
  | some ids => do return .documents (← c.fetch ids)
  | none => do
    let q ← Session.ofExcept (c.compile criteria)
    let response ← Session.request c.address (.search q)
    let hits := (response.hits.map Hits.hits).getD []
    let documents := hits.map fun hit => Document.hydrate hit.id (hit.source.getD [])
    if q.hasPayloads then return .aggregate documents response.aggregations response.facets
    else return .documents documents

/-- The failure of the first operation that failed. -/
def firstFailure? (response : BulkResponse) : Option StoreFailure :=
  response.firstError?.map fun item => .notIndexed item.id (item.error.getD "")

/-- Writes documents and looks up what was written. -/
def insert (c : Collection) (records : List Record) : Session (List Record) :=
  if records.isEmpty then pure []
  else do
    let prepared ← Session.ofExcept (records.mapM c.prepare)
    let operations := prepared.map fun d => BulkOperation.index d.id d.body
    let response ← Session.request c.address (.bulk operations)
    match firstFailure? response with
    | some failure => Session.fail (.store failure)
    | none => c.fetch response.ids

/-- Writes a document and looks it up. -/
def insertOne (c : Collection) (r : Record) : Session Record := do
  match ← c.insert [r] with
  | written :: _ => return written
  | [] => Session.fail (.notFound c.schema.typeName)

/-- Sends a partial update for each identifier that is taken up or still waiting, up to the first
that fails.  No more than `limit` are taken up at a time; what was taken up first is sent first. -/
def sendUpdates (c : Collection) (partialSource : Record) (limit : Nat)
    (takenUp waiting : List String) : Session UpdateBatch :=
  let room := limit - takenUp.length
  match _ : takenUp ++ waiting.take room with
  | [] => pure {}
  | id :: rest => do
    match ← Session.attempt c.address (.update id partialSource) with
    | .error failure => return { failure := some failure }
    | .ok _ =>
      let batch ← c.sendUpdates partialSource limit rest (waiting.drop room)
      return { batch with completed := id :: batch.completed }
termination_by takenUp.length + waiting.length
decreasing_by
  have hlength := congrArg List.length ‹takenUp ++ waiting.take _ = id :: rest›
  simp only [List.length_append, List.length_take, List.length_cons, List.length_drop] at *
  omega

/-- Sends one partial update for each identifier, up to the first that fails. -/
def updateBatch (c : Collection) (partialSource : Record) (ids : List String) :
    Session UpdateBatch :=
  c.sendUpdates partialSource (max c.options.updateConcurrency 1) [] ids

/-- The query that captures the identifiers of the documents that match. -/
def capture (c : Collection) (q : Query) : Query :=
  (q.withDefaultSize c.options.matchLimit).withoutSource

/-- Updates the documents that match, and looks them up. -/
def update (c : Collection) (criteria : Criteria) (values : Record) : Session (List Record) := do
  let prepared ← Session.ofExcept (c.prepare values)
  let q ← Session.ofExcept (c.compile criteria)
  let response ← Session.request c.address (.search (c.capture q))
  if response.hits.isNone then Session.fail (.notFound c.schema.typeName)
  else
    let batch ← c.updateBatch prepared.body response.ids
    c.fetch (← Session.ofExcept batch.result)

/-- The record that tells of a removed document. -/
def removedRecord (id : String) : Record :=
  [(Schema.idField, .str id)]

/-- Removes the documents that match, and tells which were there. -/
def destroy (c : Collection) (criteria : Criteria) : Session (List Record) := do
  let q ← Session.ofExcept (c.compile criteria)
  let remove (ids : List String) : Session (List Record) := do
    Session.request c.address (.deleteByQuery q)
    return ids.map removedRecord
  match criteria.idLookup? with
  | some [] => return []
  | some ids =>
    let items ← Session.request c.address (.multiGet ids)
    remove ((items.filter (·.found)).map MultiGetItem.id)
  | none =>
    let response ← Session.request c.address (.search (c.capture q))
    remove response.ids

/-- Counts the documents that match. -/
def count (c : Collection) (criteria : Criteria) : Session Nat := do
  let q ← Session.ofExcept (c.compile criteria)
  Session.request c.address (.count q)

/-- Sends bulk operations as they are. -/
def bulk (c : Collection) (operations : List BulkOperation) : Session BulkResponse :=
  Session.request c.address (.bulk operations)

/-- Sends a search body as it is. -/
def searchRaw (c : Collection) (body : Json) : Session SearchResponse :=
  Session.request c.address (.rawSearch body)

/-- Finds a page of the documents that match. -/
def paginate (c : Collection) (criteria : Criteria) (p : PageRequest) : Session (Page Record) := do
  let total ← c.count criteria
  let found ← c.find (p.window criteria)
  let items :=
    if criteria.idLookup?.isSome then (found.records.drop p.offset).take p.perPage
    else found.records
  Session.ofExcept ((p.toPage items total).mapError .panicked)

end Collection

end CriteriaSearch

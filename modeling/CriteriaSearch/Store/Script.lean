import CriteriaSearch.Store.Session

/-!
# A scripted store

A client that gives prepared answers, for observing what an operation sends: documents by
identifier, one answer each for searches, counts and bulk requests, and failures by kind of request
or by the identifier of an update.
-/

namespace CriteriaSearch

/-- The kinds of request. -/
inductive RequestKind where
  | multiGet
  | search
  | rawSearch
  | update
  | deleteByQuery
  | count
  | bulk
  deriving DecidableEq

/-- The kind of a request. -/
def Request.kind : Request → RequestKind
  | multiGet _ => .multiGet
  | search _ => .search
  | rawSearch _ => .rawSearch
  | update _ _ => .update
  | deleteByQuery _ => .deleteByQuery
  | count _ => .count
  | bulk _ => .bulk

/-- Prepared answers. -/
structure Script where
  documents : List (String × Record) := []
  multiGet : Option (List MultiGetItem) := none
  search : SearchResponse := {}
  bulk : Option BulkResponse := none
  count : Nat := 0
  failures : List (RequestKind × String) := []
  failingUpdates : List String := []

namespace Script

/-- The success of a bulk operation. -/
def success : BulkOperation → BulkItem
  | .index id _ => ⟨some (id.getD "generated"), none⟩
  | .create id _ => ⟨some (id.getD "generated"), none⟩
  | .update id _ => ⟨some id, none⟩
  | .delete id => ⟨some id, none⟩

/-- The prepared answer to a request that does not fail. -/
def prepared (s : Script) : (request : Request) → Except StoreFailure request.Answer
  | .multiGet ids =>
    .ok (s.multiGet.getD (ids.map fun id =>
      let source := s.documents.lookup id
      ⟨id, source.isSome, source⟩))
  | .search _ => .ok s.search
  | .rawSearch _ => .ok s.search
  | .update id _ => if s.failingUpdates.contains id then .error (.versionConflict id) else .ok ()
  | .deleteByQuery _ => .ok ()
  | .count _ => .ok s.count
  | .bulk operations => .ok (s.bulk.getD ⟨operations.map success⟩)

/-- The prepared answer to a request. -/
def answer (s : Script) (request : Request) : Except StoreFailure request.Answer :=
  match s.failures.lookup request.kind with
  | some text => .error (.reported text)
  | none => s.prepared request

/-- A scripted store as a client. -/
def client (s : Script) : Client Unit :=
  ⟨fun _ request state => (s.answer request, state)⟩

end Script

end CriteriaSearch

import CriteriaSearch.Query.Basic

/-!
# Requests to a store

The seven requests that a store answers for the documents of one type in one index, and the form of
each answer.
-/

namespace CriteriaSearch

/-- Where documents are kept: an index and a type of it. -/
structure Address where
  index : String
  typeName : String
  deriving DecidableEq

/-- The answer for one identifier. -/
structure MultiGetItem where
  id : String
  found : Bool
  source : Option Record

/-- One document of a search result. -/
structure Hit where
  id : String
  source : Option Record

/-- The documents of a search result and how many matched in all. -/
structure Hits where
  total : Nat
  hits : List Hit

/-- The answer to a search. -/
structure SearchResponse where
  hits : Option Hits := none
  aggregations : Option Json := none
  facets : Option Json := none

/-- The identifiers of the documents found. -/
def SearchResponse.ids (r : SearchResponse) : List String :=
  ((r.hits.map Hits.hits).getD []).map Hit.id

/-- One operation of a bulk request. -/
inductive BulkOperation where
  | index (id : Option String) (source : Record)
  | create (id : Option String) (source : Record)
  | update (id : String) (partialSource : Record)
  | delete (id : String)

/-- The outcome of one operation of a bulk request. -/
structure BulkItem where
  id : Option String
  error : Option String := none
  deriving DecidableEq

/-- The answer to a bulk request. -/
structure BulkResponse where
  items : List BulkItem := []
  deriving DecidableEq

namespace BulkResponse

/-- The first operation that failed. -/
def firstError? (r : BulkResponse) : Option BulkItem :=
  r.items.find? (·.error.isSome)

/-- The identifiers of the operations that succeeded. -/
def ids (r : BulkResponse) : List String :=
  (r.items.filter (·.error.isNone)).filterMap BulkItem.id

end BulkResponse

/-- A request to a store. -/
inductive Request where
  | multiGet (ids : List String)
  | search (query : Query)
  | rawSearch (body : Json)
  | update (id : String) (partialSource : Record)
  | deleteByQuery (query : Query)
  | count (query : Query)
  | bulk (operations : List BulkOperation)

/-- What a request is answered with. -/
abbrev Request.Answer : Request → Type
  | multiGet _ => List MultiGetItem
  | search _ => SearchResponse
  | rawSearch _ => SearchResponse
  | update _ _ => Unit
  | deleteByQuery _ => Unit
  | count _ => Nat
  | bulk _ => BulkResponse

end CriteriaSearch

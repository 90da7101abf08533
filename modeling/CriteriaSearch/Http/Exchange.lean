import CriteriaSearch.Json.Printer

/-!
# Exchanges

Requests and responses as values.  A `Playback` answers requests with prepared responses in order
and remembers what was sent; after the last response it goes on with empty successes.
-/

namespace CriteriaSearch.Http

/-- What a request asks the server to do. -/
inductive Method where
  | head
  | put
  | post
  | delete
  deriving DecidableEq

/-- The name of a method. -/
def Method.name : Method → String
  | head => "HEAD"
  | put => "PUT"
  | post => "POST"
  | delete => "DELETE"

/-- A request. -/
structure Request where
  method : Method
  target : String
  authorization : Option String := none
  contentType : Option String := none
  body : String := ""
  deriving DecidableEq

/-- A response. -/
structure Response where
  status : Nat := 200
  body : String := "{}"

/-- Prepared responses, and the requests that were sent, last first. -/
structure Playback where
  responses : List Response
  sent : List Request := []

namespace Playback

/-- Answers one request. -/
def exchange (p : Playback) (request : Request) : Response × Playback :=
  match p.responses with
  | response :: rest => (response, ⟨rest, request :: p.sent⟩)
  | [] => ({}, ⟨[], request :: p.sent⟩)

end Playback

end CriteriaSearch.Http

import CriteriaSearch.Connection.Config
import CriteriaSearch.Connection.Wire
import CriteriaSearch.Http.Exchange
import CriteriaSearch.Http.Status
import CriteriaSearch.Http.Url
import CriteriaSearch.SearchBody.Writer
import CriteriaSearch.Store.Session

/-!
# The search server as a store

Every request to a store is one exchange with the server, at a path of index, type and action.  A
response that does not report success is a failure with its status and text, and so is one whose
body does not read.  A bulk request without operations is answered without an exchange.

Connecting checks that the configured index is there, and creates it when it is not.
-/

namespace CriteriaSearch

/-- An open connection.  Which of several actions of one outcome counts is up to the order of hash
tables. -/
structure Connection where
  url : Http.Url
  indexName : String
  authorization : Option String := none
  tables : Wire.TableOrder := {}

namespace Connection

/-! ## Credentials -/

/-- The authorization of a user; a missing password counts as empty. -/
def basicAuthorization (username : String) (password : Option String) : String :=
  "Basic " ++ String.ofList (Http.base64 (Http.octets (username ++ ":" ++ password.getD "")))

/-- The authorization that an address carries: its credentials, as far as their octets are text.
Without a user and a password there is none. -/
def urlAuthorization (url : Http.Url) : Option String := do
  let read (s : List Char) : Option String := Http.textOfOctets? (Http.percentDecode s)
  let username ← read url.username
  let password := url.password.bind read
  if username.isEmpty && password.isNone then none
  else some (basicAuthorization username password)

/-! ## Requests -/

/-- A request for a path of segments. -/
def httpRequest (c : Connection) (method : Http.Method) (segments : List String)
    (body : Option Json) : Http.Request :=
  { method
    target := String.ofList (c.url.withSegments segments).target
    authorization := c.authorization
    contentType := body.map fun _ => "application/json"
    body := (body.map Json.text).getD "" }

/-- The request of bulk lines. -/
def bulkRequest (c : Connection) (segments : List String) (lines : String) : Http.Request :=
  { c.httpRequest .post segments none with
    contentType := some "application/x-ndjson", body := lines }

/-- The exchange that a request to the store needs, if it needs one. -/
def requestFor (c : Connection) (address : Address) (request : Request) : Option Http.Request :=
  let path (rest : List String) : List String := address.index :: address.typeName :: rest
  match request with
  | .multiGet ids =>
    some (c.httpRequest .post (path ["_mget"]) (some (.obj [("ids", .arr (ids.map .str))])))
  | .search q => some (c.httpRequest .post (path ["_search"]) (some (SearchBody.ofQuery q)))
  | .rawSearch body => some (c.httpRequest .post (path ["_search"]) (some body))
  | .update id partialSource =>
    some (c.httpRequest .post (path [id, "_update"]) (some (.obj [("doc", .obj partialSource)])))
  | .deleteByQuery q =>
    some (c.httpRequest .delete (path ["_query"]) (some (SearchBody.ofFilter q)))
  | .count q => some (c.httpRequest .post (path ["_count"]) (some (SearchBody.ofFilter q)))
  | .bulk operations =>
    if operations.isEmpty then none
    else some (c.bulkRequest (path ["_bulk"]) (Wire.bulkLines operations))

/-! ## Responses -/

/-- Reads the body of a successful response. -/
def readResponse {α : Type} (dec : Json.Decoder α) (response : Http.Response) :
    Except StoreFailure α :=
  if Http.isSuccess response.status then
    match dec.ofText? response.body with
    | some a => .ok a
    | none => .error .undecodable
  else .error (.status response.status (Http.reasonPhrase response.status) response.body)

/-- Reads the answer to a request. -/
def readAnswer (tables : Wire.TableOrder) :
    (request : Request) → Http.Response → Except StoreFailure request.Answer
  | .multiGet _, r => readResponse Wire.multiGet r
  | .search _, r => readResponse Wire.search r
  | .rawSearch _, r => readResponse Wire.search r
  | .update _ _, r => (readResponse Json.asAny r).map fun _ => ()
  | .deleteByQuery _, r => (readResponse Json.asAny r).map fun _ => ()
  | .count _, r => readResponse Wire.count r
  | .bulk _, r => readResponse (Wire.bulk tables) r

/-- The answer to a request that needs no exchange. -/
def emptyAnswer : (request : Request) → Except StoreFailure request.Answer
  | .bulk _ => .ok {}
  | .multiGet _ | .search _ | .rawSearch _ | .update _ _ | .deleteByQuery _ | .count _ =>
    .error .undecodable

/-- Answers a request by an exchange. -/
def answer (c : Connection) (address : Address) (request : Request) (server : Http.Playback) :
    Except StoreFailure request.Answer × Http.Playback :=
  match c.requestFor address request with
  | none => (emptyAnswer request, server)
  | some sent =>
    let (response, server) := server.exchange sent
    (readAnswer c.tables request response, server)

/-- The server as a client. -/
def client (c : Connection) : Client Http.Playback :=
  ⟨c.answer⟩

/-! ## Connecting -/

/-- The connection that settings describe. -/
def ofConfig? (config : ConnectionConfig) : Except ConnectionError Connection :=
  match config.baseUrl with
  | none => .error .noHost
  | some base =>
    match Http.Url.ofText? base with
    | .error cause => .error (.invalidHost base cause.message)
    | .ok url =>
      let configured := config.username.map fun u => basicAuthorization u config.password
      .ok { url, indexName := config.indexName
            authorization := urlAuthorization url <|> configured }

/-- Creates the index of a connection. -/
def createIndex (c : Connection) (settings : Option Json) (server : Http.Playback) :
    Except ConnectionError Unit × Http.Playback :=
  let request := c.httpRequest .put [c.indexName] (some (settings.getD (.obj [])))
  let (response, server) := server.exchange request
  match readResponse Json.asAny response with
  | .ok _ => (.ok (), server)
  | .error failure => (.error (.indexNotCreated failure), server)

/-- Connects: finds the index, or creates it. -/
def connect (config : ConnectionConfig) (server : Http.Playback) :
    Except ConnectionError Connection × Http.Playback :=
  match ofConfig? config with
  | .error cause => (.error cause, server)
  | .ok c =>
    let (response, server) := server.exchange (c.httpRequest .head [c.indexName] none)
    if response.status = 404 then
      let (created, server) := c.createIndex config.indexSettings server
      (created.map fun _ => c, server)
    else if Http.isSuccess response.status then (.ok c, server)
    else
      (.error (.unexpectedStatus response.status (Http.reasonPhrase response.status) c.indexName),
        server)

end Connection

end CriteriaSearch

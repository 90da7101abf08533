import CriteriaSearch.Json.Decoding
import CriteriaSearch.Text.Blank
import CriteriaSearch.Text.Split

/-!
# Connection settings

Which server to talk to, in which index, and as whom.  Settings come from JSON or from variables of
the environment; what is not set takes a default.
-/

namespace CriteriaSearch

/-- The settings of a connection. -/
structure ConnectionConfig where
  hosts : List String := ["127.0.0.1:9200"]
  indexName : String := "searchlayer"
  username : Option String := none
  password : Option String := none
  timeoutSecs : Nat := 30
  indexSettings : Option Json := none

namespace ConnectionConfig

/-- Reads settings. -/
def decode : Json.Decoder ConnectionConfig := fun v => do
  let g ← Json.Given.of?
    ["hosts", "indexName", "username", "password", "timeoutSecs", "indexSettings"] v
  let base : ConnectionConfig := {}
  return {
    hosts := ← g.withDefault "hosts" (Json.asList Json.asText) base.hosts
    indexName := ← g.withDefault "indexName" Json.asText base.indexName
    username := ← g.withDefault "username" (Json.asNullable Json.asText) none
    password := ← g.withDefault "password" (Json.asNullable Json.asText) none
    timeoutSecs := ← g.withDefault "timeoutSecs" Json.asUnsigned base.timeoutSecs
    indexSettings := ← g.withDefault "indexSettings" (Json.asNullable Json.asAny) none }

/-- The hosts of a list with commas: trimmed, without empty ones. -/
def hostsOf (list : String) : List String :=
  ((Text.splitAt ',' list.toList).map Text.trim).filter (fun h => !h.isEmpty)
    |>.map String.ofList

/-- The settings that variables of the environment give. -/
def ofEnvironment (lookup : String → Option String) : ConnectionConfig :=
  let base : ConnectionConfig := {}
  let hosts := hostsOf ((lookup "SEARCHLAYER_ES_HOSTS").getD "")
  { base with
    hosts := if hosts.isEmpty then base.hosts else hosts
    indexName := (lookup "SEARCHLAYER_ES_INDEX").getD base.indexName
    username := lookup "SEARCHLAYER_ES_USERNAME"
    password := lookup "SEARCHLAYER_ES_PASSWORD" }

/-- Sets user and password. -/
def withCredentials (c : ConnectionConfig) (username password : String) : ConnectionConfig :=
  { c with username := some username, password := some password }

/-- The address of the first host, without slashes at its end and with a scheme in front. -/
def baseUrl (c : ConnectionConfig) : Option String :=
  c.hosts.head?.map fun host =>
    let trimmed := (host.toList.reverse.dropWhile (· == '/')).reverse
    if "http://".toList.isPrefixOf trimmed || "https://".toList.isPrefixOf trimmed then
      String.ofList trimmed
    else "http://" ++ String.ofList trimmed

end ConnectionConfig

end CriteriaSearch

import CriteriaSearch.Query.Basic

/-!
# Writing search bodies

The JSON body of a query in the filter language of the `filtered` query: one object for each
filter, named by its operator.  Patterns are written unanchored, because the language matches them
against whole terms, and with both cases of every letter, because it has no caseless mode.
-/

namespace CriteriaSearch.SearchBody

/-- An object of one entry. -/
def single (key : String) (value : Json) : Json :=
  .obj [(key, value)]

/-- A regular expression that matches in any letter case: a letter stands as a class of both its
cases, and the character behind a backslash stays. -/
def foldCase : List Char → List Char
  | [] => []
  | '\\' :: c :: rest => '\\' :: c :: foldCase rest
  | c :: rest =>
    match Text.casePair? c with
    | some (l, u) => '[' :: l :: u :: ']' :: foldCase rest
    | none => c :: foldCase rest

/-- The bounds of a range; a repeated bound keeps its first place and its last value. -/
def boundsBody (bounds : List (RangeBound × Json)) : Json :=
  .obj (Record.ofEntries (bounds.map fun e => (e.1.name, e.2)))

mutual

/-- The body of a filter. -/
def filterBody : Filter → Json
  | .matchAll => single "match_all" (.obj [])
  | .term field v => single "term" (single field v)
  | .terms field vs => single "terms" (single field (.arr vs))
  | .ids vs typeName =>
    single "ids" (.obj (("values", .arr vs) ::
      match typeName with
      | some t => [("type", .str t)]
      | none => []))
  | .range field bounds => single "range" (single field (boundsBody bounds))
  | .regexp field pattern =>
    single "regexp" (single field (single "value" (.str (String.ofList (foldCase pattern.body)))))
  | .not f => single "not" (filterBody f)
  | .and fs => single "and" (.arr (filterBodies fs))
  | .or fs => single "or" (.arr (filterBodies fs))
  | .passThrough field operator v => single operator (single field v)

/-- The bodies of filters. -/
def filterBodies : List Filter → List Json
  | [] => []
  | f :: rest => filterBody f :: filterBodies rest

end

/-- The filter of a query as a body of its own. -/
def queryEntries (q : Query) : Record :=
  [("query", single "filtered" (single "filter" (filterBody q.filter)))]

/-- The body that asks which documents match. -/
def ofFilter (q : Query) : Json :=
  .obj (queryEntries q)

/-- The name of a direction. -/
def directionName : SortDirection → String
  | .asc => "asc"
  | .desc => "desc"

/-- The body of one key of an order. -/
def sortKeyBody (k : SortKey) : Json :=
  single k.field (single "order" (.str (directionName k.direction)))

/-- The body of statistics, by name; a repeated name keeps its first place and its last value. -/
def aggregationsBody (aggregations : List Aggregation) : Json :=
  .obj (Record.ofEntries (aggregations.map fun a =>
    (a.name, single a.metric.name (single "field" (.str a.field)))))

/-- An entry for an optional part. -/
def optionalEntry (key : String) (value : Option Json) : Record :=
  match value with
  | some v => [(key, v)]
  | none => []

/-- The body of a search. -/
def ofQuery (q : Query) : Json :=
  .obj <|
    queryEntries q ++
    optionalEntry "size" (q.size.map Json.nat) ++
    optionalEntry "from" (q.start.map Json.nat) ++
    optionalEntry "sort" (if q.sort.isEmpty then none else some (.arr (q.sort.map sortKeyBody))) ++
    optionalEntry "aggs" (q.aggregations.map aggregationsBody) ++
    optionalEntry "facets" q.facets ++
    optionalEntry "_source" (if q.fetchSource then none else some (.bool false))

end CriteriaSearch.SearchBody

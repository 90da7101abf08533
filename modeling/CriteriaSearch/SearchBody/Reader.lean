import CriteriaSearch.Error
import CriteriaSearch.Query.Basic

/-!
# Reading search bodies

Reads a search body written by hand into a query, as far as filters, window, order and source
switch go.  Whatever it does not know it refuses, naming the first thing it met.

Filters nest inside objects, so the readers recurse on the size of the body; a value that was
looked up in an object is smaller than the object.
-/

namespace CriteriaSearch

theorem Record.sizeOf_get?_lt {r : Record} {key : String} {v : Json} (h : r.get? key = some v) :
    sizeOf v < sizeOf r := by
  induction r with
  | nil => simp at h
  | cons e rest ih =>
    obtain ⟨k, w⟩ := e
    simp only [Record.get?] at h
    split at h
    · cases h; simp +arith
    · have := ih h
      simp only [List.cons.sizeOf_spec]; omega

namespace SearchBody

/-- Refuses a body for something it holds. -/
def refuse {α : Type} (what : String) : Except StoreFailure α :=
  .error (.unsupportedBody what)

/-- A name in backticks. -/
def ticked (s : String) : String :=
  "`" ++ s ++ "`"

/-- The value of a key, where the value is an object that has it. -/
def field? (v : Json) (key : String) : Option Json :=
  match v with
  | .obj entries => Record.get? entries key
  | _ => none

theorem sizeOf_field?_lt {v w : Json} {key : String} (h : field? v key = some w) :
    sizeOf w < sizeOf v := by
  cases v with
  | obj entries =>
    have := Record.sizeOf_get?_lt (r := entries) h
    simp only [Json.obj.sizeOf_spec]; omega
  | _ => simp [field?] at h

/-- The entry of an object that has no other. -/
def singleEntry (v : Json) (context : String) : Except StoreFailure (String × Json) :=
  match v with
  | .obj [entry] => .ok entry
  | v => refuse (context ++ " " ++ v.text)

/-! ## Filters -/

/-- Reads a term filter: a value, or an object that holds it. -/
def termOf (body : Json) : Except StoreFailure Filter := do
  let (field, v) ← singleEntry body "term filter"
  match v with
  | .obj entries =>
    match Record.get? entries "value" with
    | some w => return .term field w
    | none => refuse "a term filter without value"
  | v => return .term field v

/-- Reads a terms filter. -/
def termsOf (body : Json) : Except StoreFailure Filter := do
  let (field, v) ← singleEntry body "terms filter"
  match v with
  | .arr vs => return .terms field vs
  | _ => refuse ("a terms filter on " ++ ticked field ++ " without a list")

/-- Reads an identifier filter. -/
def idsOf (body : Json) : Except StoreFailure Filter :=
  match field? body "values" with
  | some (.arr vs) => .ok (.ids vs ((field? body "type").bind Json.str?))
  | _ => refuse "an ids filter without values"

/-- Reads the name of a bound. -/
def boundOf (name : String) : Except StoreFailure RangeBound :=
  match [RangeBound.gt, .gte, .lt, .lte].find? (·.name == name) with
  | some b => .ok b
  | none => refuse ("the " ++ ticked name ++ " range bound")

/-- Reads a range filter. -/
def rangeOf (body : Json) : Except StoreFailure Filter := do
  let (field, v) ← singleEntry body "range filter"
  match v with
  | .obj entries => return .range field (← entries.mapM fun e => do return (← boundOf e.1, e.2))
  | _ => refuse ("a range filter on " ++ ticked field ++ " without bounds")

/-- The filters that an occurrence of a bool filter contributes. -/
def occurrence (name : String) (filters : List Filter) : List Filter :=
  if name = "must_not" then filters.map .not
  else if name = "should" then (if filters.isEmpty then [] else [.or filters])
  else filters

/-- The occurrences of a bool filter. -/
def occurrenceNames : List String := ["must", "filter", "must_not", "should"]

mutual

/-- Reads a filter. -/
def filterOf (v : Json) : Except StoreFailure Filter :=
  match v with
  | .obj [(operator, body)] =>
    if operator = "match_all" then .ok .matchAll
    else if operator = "term" then termOf body
    else if operator = "terms" then termsOf body
    else if operator = "ids" then idsOf body
    else if operator = "range" then rangeOf body
    else if operator = "not" then
      match _h : field? body "filter" with
      | some inner => (filterOf inner).map .not
      | none => (filterOf body).map .not
    else if operator = "and" then (filterListOf body).map .and
    else if operator = "or" then (filterListOf body).map .or
    else if operator = "bool" then
      match body with
      | .obj entries => (boolOf entries).map .all
      | _ => refuse "a non-object bool filter"
    else refuse ("the " ++ ticked operator ++ " filter")
  | v => refuse ("filter " ++ v.text)
termination_by 2 * sizeOf v
decreasing_by
  all_goals
    try have hlt := sizeOf_field?_lt _h
    simp only [Json.obj.sizeOf_spec, List.cons.sizeOf_spec, List.nil.sizeOf_spec,
      Prod.mk.sizeOf_spec] at *
    omega

/-- Reads the members of a combinator: a list, alone or under `filters`, or one filter. -/
def filterListOf (v : Json) : Except StoreFailure (List Filter) :=
  match _h : field? v "filters" with
  | some (.arr items) => filtersOf items
  | some f => (filterOf f).map fun f => [f]
  | none =>
    match v with
    | .arr items => filtersOf items
    | v => (filterOf v).map fun f => [f]
termination_by 2 * sizeOf v + 1
decreasing_by
  all_goals
    try have hlt := sizeOf_field?_lt _h
    try simp only [Json.arr.sizeOf_spec] at *
    omega

/-- Reads filters one after another. -/
def filtersOf (items : List Json) : Except StoreFailure (List Filter) :=
  match items with
  | [] => .ok []
  | v :: rest => do
    let f ← filterOf v
    return f :: (← filtersOf rest)
termination_by 2 * sizeOf items
decreasing_by
  all_goals
    simp only [List.cons.sizeOf_spec]
    omega

/-- Reads the occurrences of a bool filter. -/
def boolOf (entries : List (String × Json)) : Except StoreFailure (List Filter) :=
  match entries with
  | [] => .ok []
  | (name, v) :: rest =>
    if occurrenceNames.contains name then do
      let filters ← filterListOf v
      return occurrence name filters ++ (← boolOf rest)
    else refuse (ticked name ++ " in a bool filter")
termination_by 2 * sizeOf entries
decreasing_by
  all_goals
    simp only [List.cons.sizeOf_spec, Prod.mk.sizeOf_spec]
    omega

end

/-! ## Queries -/

mutual

/-- Reads a query: a filtered one, one of constant score, or a filter. -/
def queryOf (v : Json) : Except StoreFailure Filter :=
  match v with
  | .obj [(operator, body)] =>
    if operator = "filtered" then
      match body with
      | .obj entries => (filteredOf entries).map .all
      | _ => refuse "a non-object filtered query"
    else if operator = "constant_score" then
      match field? body "filter" with
      | some f => filterOf f
      | none => refuse "a constant_score query without filter"
    else filterOf v
  | v => refuse ("query " ++ v.text)

/-- Reads the parts of a filtered query. -/
def filteredOf (entries : List (String × Json)) : Except StoreFailure (List Filter) :=
  match entries with
  | [] => .ok []
  | (key, v) :: rest => do
    let f ←
      if key = "filter" then filterOf v
      else if key = "query" then queryOf v
      else refuse (ticked key ++ " in a filtered query")
    return f :: (← filteredOf rest)

end

/-! ## Orders -/

/-- Reads a direction: its name, or an object that may name it. -/
def directionOf (v : Json) : Except StoreFailure SortDirection :=
  let order :=
    match v with
    | .obj entries => (Record.get? entries "order").bind Json.str?
    | v => v.str?
  match order with
  | none => .ok .asc
  | some name =>
    if name = "desc" then .ok .desc
    else if name = "asc" then .ok .asc
    else refuse ("the " ++ ticked name ++ " sort order")

/-- Reads one key of an order, which may name several fields. -/
def sortKeysOf : Json → Except StoreFailure (List SortKey)
  | .str field => .ok [⟨field, .asc⟩]
  | .obj entries => entries.mapM fun e => do return ⟨e.1, ← directionOf e.2⟩
  | v => refuse ("the sort key " ++ v.text)

/-- Reads an order: one key or a list of keys. -/
def sortOf : Json → Except StoreFailure (List SortKey)
  | .arr keys => do return (← keys.mapM sortKeysOf).flatten
  | key => sortKeysOf key

/-! ## Bodies -/

/-- Reads a bound of the window. -/
def countOf (key : String) (v : Json) : Except StoreFailure Nat :=
  match v.unsigned? with
  | some n => .ok n
  | none => refuse ("a non-numeric " ++ ticked key)

/-- Takes one entry of a body into the query; filters are collected in order. -/
def readEntry (state : Query × List Filter) (entry : String × Json) :
    Except StoreFailure (Query × List Filter) := do
  let (q, filters) := state
  let (key, v) := entry
  if key = "query" then return (q, filters ++ [← queryOf v])
  else if key = "filter" || key = "post_filter" then return (q, filters ++ [← filterOf v])
  else if key = "size" then return ({ q with size := some (← countOf key v) }, filters)
  else if key = "from" then return ({ q with start := some (← countOf key v) }, filters)
  else if key = "sort" then return ({ q with sort := ← sortOf v }, filters)
  else if key = "_source" then
    match v with
    | .bool b => return ({ q with fetchSource := b }, filters)
    | _ => refuse "source filtering"
  else refuse (ticked key)

/-- Reads a search body for documents of a type. -/
def toQuery? (typeName : String) : Json → Except StoreFailure Query
  | .obj entries => do
    let (q, filters) ← entries.foldlM readEntry ({ typeName }, [])
    return { q with filter := .all filters }
  | _ => refuse "a non-object body"

end SearchBody

end CriteriaSearch

import CriteriaSearch.Criteria.Clause

/-!
# Criteria

What a caller asks of a collection: a where-clause, an order, a window, statistics and facets.
Criteria are read once, from an object whose unknown keys are ignored; null stands for no criteria.
-/

namespace CriteriaSearch

/-- The direction of an order. -/
inductive SortDirection where
  | asc
  | desc
  deriving DecidableEq

/-- One key of an order. -/
structure SortKey where
  field : String
  direction : SortDirection
  deriving DecidableEq

/-- The statistics of an aggregate query. -/
inductive Metric where
  | sum
  | avg
  | min
  | max
  deriving DecidableEq

/-- The fields of which each statistic is asked. -/
structure AggregateOptions where
  sum : Option (List String) := none
  average : Option (List String) := none
  min : Option (List String) := none
  max : Option (List String) := none
  deriving DecidableEq

/-- The criteria of a request. -/
structure Criteria where
  clause : Option Clause := none
  sort : List SortKey := []
  limit : Option Nat := none
  skip : Option Nat := none
  aggregate : Option AggregateOptions := none
  facets : Option Json := none

namespace AggregateOptions

/-- The fields of one statistic. -/
def fieldsOf (o : AggregateOptions) : Metric → Option (List String)
  | .sum => o.sum
  | .avg => o.average
  | .min => o.min
  | .max => o.max

/-- Sets the fields of one statistic. -/
def setFields (o : AggregateOptions) (fields : Option (List String)) : Metric → AggregateOptions
  | .sum => { o with sum := fields }
  | .avg => { o with average := fields }
  | .min => { o with min := fields }
  | .max => { o with max := fields }

/-- Asks a statistic of one more field. -/
def addField (o : AggregateOptions) (metric : Metric) (field : String) : AggregateOptions :=
  o.setFields (some (((o.fieldsOf metric).getD []) ++ [field])) metric

end AggregateOptions

/-- The statistic that a key of criteria asks for. -/
def Metric.ofKey? (key : String) : Option Metric :=
  if key = "sum" then some .sum
  else if key = "average" then some .avg
  else if key = "min" then some .min
  else if key = "max" then some .max
  else none

/-- Zero and minus one stand for the descending direction, every other value for the ascending
one. -/
def SortDirection.ofJson : Json → SortDirection
  | .num n =>
    let x := n.toBinary64
    if x.isZero || x.sameValue (Binary64.ofInt (-1)) then .desc else .asc
  | _ => .asc

namespace Criteria

/-- Reads an order: an object from fields to directions, or null. -/
def sortOf : Json → Except CompilationError (List SortKey)
  | .null => .ok []
  | .obj entries => .ok (entries.map fun e => ⟨e.1, .ofJson e.2⟩)
  | v => .error (.sortNotObject v)

/-- Reads a bound of the window: an unsigned integer, or null. -/
def windowOf (key : String) : Json → Except CompilationError (Option Nat)
  | .null => .ok none
  | v =>
    match v.unsigned? with
    | some n => .ok (some n)
    | none => .error (.windowNotUnsigned key v)

/-- Reads a field name. -/
def fieldNameOf (key : String) : Json → Except CompilationError String
  | .str s => .ok s
  | v => .error (.notFieldName key v)

/-- Reads the fields of a statistic; a value that is not a list asks for nothing. -/
def fieldListOf (key : String) : Json → Except CompilationError (Option (List String))
  | .arr items => (items.mapM (fieldNameOf key)).map some
  | _ => .ok none

/-- Takes one entry into the criteria. -/
def readEntry (c : Criteria) (entry : String × Json) : Except CompilationError Criteria := do
  let (key, value) := entry
  if key = "where" then
    match value with
    | .null => return { c with clause := none }
    | v => return { c with clause := some (← Clause.ofJson? v) }
  else if key = "sort" then return { c with sort := ← sortOf value }
  else if key = "limit" then return { c with limit := ← windowOf key value }
  else if key = "skip" then return { c with skip := ← windowOf key value }
  else if key = "facets" then
    match value with
    | .null => return c
    | v => return { c with facets := some v }
  else
    match Metric.ofKey? key with
    | some metric =>
      let fields ← fieldListOf key value
      return { c with aggregate := some ((c.aggregate.getD {}).setFields fields metric) }
    | none => return c

/-- Reads criteria; the first bad entry decides the error. -/
def ofJson? : Json → Except CompilationError Criteria
  | .null => .ok {}
  | .obj entries => entries.foldlM readEntry {}
  | v => .error (.criteriaNotObject v)

/-- The identifiers that the where-clause names, where it names nothing else. -/
def idLookup? (c : Criteria) : Option (List String) :=
  c.clause.bind Clause.idLookup?

end Criteria

end CriteriaSearch

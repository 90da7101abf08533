import CriteriaSearch.Criteria.Expression
import CriteriaSearch.Error
import CriteriaSearch.Identifier
import CriteriaSearch.Schema
import CriteriaSearch.Text.Case

/-!
# Where-clauses

A clause combines statements about fields.  It is read from an object whose keys are fields, except
for the combinators `and` and `or`, which hold lists of clauses, and `like` in any letter case,
which maps fields to patterns.  A combinator whose value is not a list says nothing.

`Clause.idLookup?` recognizes the clauses that name documents by identifier alone.
-/

namespace CriteriaSearch

/-- A where-clause. -/
inductive Clause where
  | fields (fields : List (String × Expression))
  | and (clauses : List Clause)
  | or (clauses : List Clause)
  | all (clauses : List Clause)

namespace Clause

/-! ## Reading -/

/-- The fields and the combinators of an object, each in order. -/
structure Parts where
  fields : List (String × Expression) := []
  combinators : List Clause := []

/-- The parts of two runs of entries, one after the other. -/
def Parts.append (a b : Parts) : Parts :=
  ⟨a.fields ++ b.fields, a.combinators ++ b.combinators⟩

/-- The clause that an object of these parts stands for: fields come first. -/
def Parts.toClause (p : Parts) : Clause :=
  match p.fields, p.combinators with
  | fs, [] => .fields fs
  | [], [c] => c
  | [], cs => .all cs
  | fs, cs => .all (.fields fs :: cs)

/-- The fields of a `like` entry. -/
def likeFields (patterns : List (String × Json)) : List (String × Expression) :=
  patterns.map fun e => (e.1, .modifiers [.text .like e.2])

mutual

/-- Reads a clause. -/
def ofJson? : Json → Except CompilationError Clause
  | .obj entries => (partsOf entries).map Parts.toClause
  | v => .error (.clauseNotObject v)

/-- Reads the entries of an object, in order; the first bad one decides the error. -/
def partsOf : List (String × Json) → Except CompilationError Parts
  | [] => .ok {}
  | (key, value) :: rest => do
    let here : Parts ←
      if key = "and" || key = "or" then
        match value with
        | .arr items => do
          let children ← ofItems items
          pure { combinators := [if key = "and" then .and children else .or children] }
        | _ => pure {}
      else if Text.asciiLowercase key = "like" then
        match value with
        | .obj patterns => pure { fields := likeFields patterns }
        | _ => .error .likeNotObject
      else pure { fields := [(key, Expression.ofJson value)] }
    return here.append (← partsOf rest)

/-- Reads the members of a combinator. -/
def ofItems : List Json → Except CompilationError (List Clause)
  | [] => .ok []
  | v :: rest => do
    let c ← ofJson? v
    return c :: (← ofItems rest)

end

/-! ## Combining -/

/-- A conjunction; one more member where the first clause already is a conjunction. -/
def conj : Clause → Clause → Clause
  | .and cs, other => .and (cs ++ [other])
  | c, other => .and [c, other]

/-- A disjunction; one more member where the first clause already is a disjunction. -/
def disj : Clause → Clause → Clause
  | .or cs, other => .or (cs ++ [other])
  | c, other => .or [c, other]

/-- A clause that says one thing about one field. -/
def ofField (field : String) (e : Expression) : Clause :=
  .fields [(field, e)]

/-- A clause with one modifier on one field. -/
def ofModifier (field : String) (m : Modifier) : Clause :=
  ofField field (.modifiers [m])

/-! ## Identifiers -/

/-- The identifiers that a clause names, where it is nothing but an equality or a membership on
`id` over values that are identifiers. -/
def idLookup? : Clause → Option (List String)
  | .fields [(field, e)] =>
    if field = Schema.idField then
      match e with
      | .literal v => if v.isTruthy then v.idText?.map fun id => [id] else none
      | .oneOf vs => vs.mapM Json.idText?
      | .modifiers _ => none
    else none
  | _ => none

/-- Whether a clause is nothing but an equality of the identifier with no identifier. -/
def asksNoId : Clause → Bool
  | .fields [(field, .literal v)] => Schema.isIdField field && !v.isTruthy
  | _ => false

end Clause

end CriteriaSearch

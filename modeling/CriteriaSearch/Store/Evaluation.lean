import CriteriaSearch.Error
import CriteriaSearch.Identifier
import CriteriaSearch.Query.Basic

/-!
# Filters on stored documents

Decides whether a filter holds of a document, given its identifier and its body.  A condition on a
field holds of a list when it holds of one of its items, and never holds of a field that is missing.
Identifiers live outside the body, so no field leads to them.

An operator that is passed through has no meaning here: meeting it is a failure.  So is a pattern
that the library of regular expressions refuses, where the field of the pattern has a value.
Conjunctions and disjunctions are decided from left to right and stop at the first part that settles
them.
-/

namespace CriteriaSearch

namespace Record

/-- Follows names into nested objects. -/
def follow (r : Record) : List String → Option Json
  | [] => none
  | [name] => r.get? name
  | name :: rest =>
    match r.get? name with
    | some (.obj inner) => follow inner rest
    | _ => none

/-- The value of a field: the entry of that name, or else what its names between dots lead to. -/
def resolve? (r : Record) (field : String) : Option Json :=
  if field = Schema.storedIdField then none
  else
    match r.get? field with
    | some v => some v
    | none => r.follow (Text.splitString '.' field)

end Record

namespace Json

/-- Whether a value, or an item of a list, passes a check. -/
def anyItem (check : Json → Bool) : Json → Bool
  | arr items => items.any check
  | v => check v

end Json

/-- Whether an order of two values is on the side of a bound. -/
def RangeBound.admits : RangeBound → Ordering → Bool
  | gt, o => o == .gt
  | gte, o => o != .lt
  | lt, o => o == .lt
  | lte, o => o != .gt

/-- Whether a value is within a bound; values of different kinds never are. -/
def RangeBound.holds (bound : RangeBound) (stored limit : Json) : Bool :=
  match stored.order? limit with
  | some o => bound.admits o
  | none => false

namespace Filter

/-- Whether a field of a document has a value, or an item of a list, that passes a check. -/
def fieldHolds (body : Record) (field : String) (check : Json → Bool) : Bool :=
  match body.resolve? field with
  | some v => v.anyItem check
  | none => false

/-- Why a pattern on a field cannot be looked for.  It is compiled only where the field has a value.
-/
def refusal? (library : PatternLibrary) (body : Record) (field : String) (pattern : Pattern) :
    Option String :=
  (body.resolve? field).bind fun _ => library.refusal? pattern.source

mutual

/-- Whether a filter holds of a document. -/
def holds (library : PatternLibrary) (id : String) (body : Record) :
    Filter → Except StoreFailure Bool
  | matchAll => .ok true
  | term field v => .ok (fieldHolds body field fun item => item.alike v)
  | terms field vs => .ok (fieldHolds body field fun item => vs.any fun v => item.alike v)
  | ids vs _ => .ok ((vs.filterMap Json.idText?).contains id)
  | range field bounds =>
    .ok (fieldHolds body field fun item => bounds.all fun b => b.1.holds item b.2)
  | regexp field pattern =>
    match refusal? library body field pattern with
    | some reason => .error (.patternRefused reason)
    | none =>
      .ok (fieldHolds body field fun item =>
        match item with
        | .str s => pattern.matchesText s
        | _ => false)
  | not f => (holds library id body f).map fun b => !b
  | and fs => allHold library id body fs
  | or fs => someHolds library id body fs
  | passThrough field operator _ => .error (.unsupportedOperator operator field)

/-- Whether all filters hold, up to the first that does not. -/
def allHold (library : PatternLibrary) (id : String) (body : Record) :
    List Filter → Except StoreFailure Bool
  | [] => .ok true
  | f :: rest => do
    if ← holds library id body f then allHold library id body rest else return false

/-- Whether some filter holds, up to the first that does. -/
def someHolds (library : PatternLibrary) (id : String) (body : Record) :
    List Filter → Except StoreFailure Bool
  | [] => .ok false
  | f :: rest => do
    if ← holds library id body f then return true else someHolds library id body rest

end

end Filter

end CriteriaSearch

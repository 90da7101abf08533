import CriteriaSearch.Binary64.Decimal
import CriteriaSearch.Error
import CriteriaSearch.Json.Decoding
import CriteriaSearch.Schema

/-!
# Models

A model names a collection and says which values its documents stand for.  The values of a model
are kept in their written form: a decoder takes any JSON to the written form of the value that it
stands for, if it stands for one.

A `Shape` is a model of structures: fields in order, each of a kind, with unknown fields dropped and
missing optional ones null.
-/

namespace CriteriaSearch

/-- A kind of values, the collection that holds them, and its schema. -/
structure Model where
  identity : String
  schema : Schema := {}
  decode : Json.Decoder Json

namespace Model

/-- The record of a value. -/
def toRecord (m : Model) : Json → Except SearchError Record
  | .obj entries => .ok entries
  | v => .error (.invalidDocument (.notSerialized m.identity v))

/-- The value of a record. -/
def ofRecord (m : Model) (r : Record) : Except SearchError Json :=
  match m.decode.ofValue? (.obj r) with
  | some v => .ok v
  | none => .error .serialization

/-- The model of all JSON values. -/
def anything (identity : String) : Model :=
  { identity, decode := Json.asAny }

end Model

/-- The kinds of fields. -/
inductive FieldKind where
  | text
  | optionalText
  | integer
  | optionalNumber
  | boolean
  | texts
  | any
  deriving DecidableEq

/-- A field of a structure: whether it is written when it is null, and how the schema declares it,
if it does. -/
structure FieldShape where
  name : String
  kind : FieldKind
  omitNull : Bool := false
  declaredAs : Option Attribute := none

/-- The shape of a structure. -/
structure Shape where
  identity : String
  fields : List FieldShape

namespace Shape

/-- The written form of a field. -/
def decodeField (g : Json.Given) (f : FieldShape) : Option Json :=
  match f.kind with
  | .text => (g.required f.name Json.asText).map .str
  | .optionalText => (g.optional f.name Json.asText).map Json.strOrNull
  | .integer => (g.required f.name Json.asSigned).map fun n => .num (.int n)
  | .optionalNumber =>
    (g.optional f.name Json.asNumber).map fun x => .orNull (x.map fun x => .num (.float x))
  | .boolean => (g.required f.name Json.asBool).map .bool
  | .texts => (g.required f.name (Json.asList Json.asText)).map fun ss => .arr (ss.map .str)
  | .any => g.withDefault f.name Json.asAny .null

/-- The entry of a field, unless it is left out. -/
def entryOf (g : Json.Given) (f : FieldShape) : Option (List (String × Json)) :=
  (decodeField g f).map fun
    | .null => if f.omitNull then [] else [(f.name, .null)]
    | v => [(f.name, v)]

/-- The written form of a structure. -/
def decode (s : Shape) : Json.Decoder Json := fun v => do
  let g ← Json.Given.of? (s.fields.map FieldShape.name) v
  return .obj (← s.fields.mapM (entryOf g)).flatten

/-- The attributes that the fields declare. -/
def schema (s : Shape) : Schema :=
  Schema.ofList (s.fields.filterMap fun f => f.declaredAs.map fun a => (f.name, a))

/-- The model of a shape. -/
def toModel (s : Shape) : Model :=
  { identity := s.identity, schema := s.schema, decode := s.decode }

end Shape

end CriteriaSearch

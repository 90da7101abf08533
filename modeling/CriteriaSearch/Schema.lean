import Std.Data.TreeMap

/-!
# Schemas

A schema declares, for the attributes of a collection, their types and key flags, in the order of
their names.  Attributes that it does not name are stored and searched as they come.
-/

namespace CriteriaSearch

/-- The declared type of an attribute. -/
inductive AttributeType where
  | string
  | text
  | integer
  | float
  | boolean
  | date
  | datetime
  | json
  | array
  | other
  deriving DecidableEq

namespace AttributeType

/-- The name of a type. -/
def name : AttributeType → String
  | string => "string"
  | text => "text"
  | integer => "integer"
  | float => "float"
  | boolean => "boolean"
  | date => "date"
  | datetime => "datetime"
  | json => "json"
  | array => "array"
  | other => "other"

/-- The type of a name; every unknown name is `other`. -/
def ofName (s : String) : AttributeType :=
  ([string, text, integer, float, boolean, date, datetime, json, array].find? (·.name == s)).getD
    other

/-- Types whose values stay text. -/
def isTextual (t : AttributeType) : Bool :=
  t == string || t == text

/-- Types whose values are points in time. -/
def isTemporal (t : AttributeType) : Bool :=
  t == date || t == datetime

theorem ofName_name (t : AttributeType) : ofName t.name = t := by
  cases t <;> decide

end AttributeType

/-- The declaration of an attribute. -/
structure Attribute where
  type : AttributeType
  primaryKey : Bool := false
  foreignKey : Bool := false
  autoIncrement : Bool := false
  deriving DecidableEq

/-- Attributes by name, in the order of names. -/
structure Schema where
  attributes : Std.TreeMap String Attribute := ∅

namespace Schema

/-- The name under which callers see the identifier of a document. -/
def idField : String := "id"

/-- The name under which a store keeps the identifier of a document. -/
def storedIdField : String := "_id"

/-- Whether a field names the identifier. -/
def isIdField (field : String) : Bool :=
  field == idField || field == storedIdField

/-- The schema of a list of declarations; a later one replaces an earlier one of its name. -/
def ofList (attributes : List (String × Attribute)) : Schema :=
  ⟨attributes.foldl (fun m e => m.insert e.1 e.2) ∅⟩

/-- The declarations in the order of names. -/
def toList (s : Schema) : List (String × Attribute) :=
  s.attributes.toList

/-- The declared type of an attribute. -/
def declaredType? (s : Schema) (field : String) : Option AttributeType :=
  s.attributes[field]?.map (·.type)

/-- The first attribute flagged as primary key, or `id`. -/
def primaryKey (s : Schema) : String :=
  match s.toList.find? (·.2.primaryKey) with
  | some (name, _) => name
  | none => idField

end Schema

end CriteriaSearch

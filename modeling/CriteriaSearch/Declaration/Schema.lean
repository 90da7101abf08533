import CriteriaSearch.Declaration.Basic
import CriteriaSearch.Declaration.Casing

/-!
# The model that a declaration declares

The fields of a structure become the attributes of a collection, in order, unless they are skipped.
The type of an attribute follows the type of its field.  Its name is the name under which the field
is serialized: the field's own, in the casing that the structure asks for, unless the field is
renamed.  Where serializing and deserializing use two names, the first one counts.

Tags are read in order, those of the structure before everything else, and the first error
ends the reading.
-/

namespace CriteriaSearch

/-! ## Settings -/

/-- What a reader makes of a setting, and whether it came to the end of the setting. -/
structure Reading (α : Type) where
  result : α
  isComplete : Bool := true

namespace SettingValue

/-- The value of a setting that has to be a text. -/
def asText : SettingValue → Except DeclarationError (Reading String)
  | text s => .ok { result := s }
  | expression e =>
    match e.opening with
    | some s => .ok { result := s, isComplete := false }
    | none => .error (.expectedText e.isMissing)
  | bare _ | list _ | stray => .error (.expectedMark "=")

/-- A setting that is a flag has no value. -/
def isBare : SettingValue → Bool
  | bare _ => true
  | _ => false

end SettingValue

namespace Setting

/-- A reader of settings, which goes from state to state. -/
abbrev Reader (σ : Type) :=
  σ → Option String → SettingValue → Except DeclarationError (Reading σ)

/-- Reads a setting: what its reader makes of it, and no more after that. -/
def read {σ : Type} (onSetting : Reader σ) (state : σ) : Setting → Except DeclarationError σ
  | malformed e => .error e
  | named name value trailing => do
    let reading ← onSetting state name value
    if trailing || !reading.isComplete then .error .expectedComma else .ok reading.result

/-- Reads settings in order. -/
def readAll {σ : Type} (onSetting : Reader σ) (state : σ) (settings : List Setting) :
    Except DeclarationError σ :=
  settings.foldlM (read onSetting) state

/-- Keeps the last name for serializing among the names of a setting. -/
def keepSerialized : Reader (Option String) := fun found name value => do
  let reading ← value.asText
  return { reading with
    result := if name = some "serialize" then some reading.result else found }

mutual

/-- Passes over settings that say nothing about the schema. -/
def passAll : List Setting → Except DeclarationError Unit
  | [] => .ok ()
  | s :: rest => do
    pass s
    passAll rest

/-- Passes over a setting. -/
def pass : Setting → Except DeclarationError Unit
  | malformed e => .error e
  | named _ value trailing => do
    let reading ← passValue value
    if trailing || !reading.isComplete then .error .expectedComma else .ok ()

/-- Passes over what follows the name of a setting. -/
def passValue : SettingValue → Except DeclarationError (Reading Unit)
  | .bare _ | .text _ => .ok { result := () }
  | .expression e =>
    match e.failure with
    | some failure => .error failure
    | none => .ok { result := () }
  | .list settings => do
    passAll settings
    return { result := () }
  | .stray => .ok { result := (), isComplete := false }

end

mutual

/-- The brackets of the first group in settings that goes on where it has to end. -/
def unfinished? : List Setting → Option Bracket
  | [] => none
  | malformed _ :: rest => unfinished? rest
  | named _ value _ :: rest => unfinishedIn? value <|> unfinished? rest

/-- The same in what follows the name of a setting. -/
def unfinishedIn? : SettingValue → Option Bracket
  | .expression e => e.unfinished
  | .list settings => unfinished? settings
  | .bare _ | .text _ | .stray => none

end

end Setting

namespace SettingValue

/-- The name for serializing that a setting gives: its text, or the text of the setting
`serialize` in its parentheses. -/
def serializedName : SettingValue → Except DeclarationError (Reading String)
  | list settings => do
    match ← Setting.readAll Setting.keepSerialized none settings with
    | some s => .ok { result := s }
    | none => .error .noSerializedName
  | bare atEnd => .error (.expectedGroup .round atEnd)
  | stray => .error (.expectedGroup .round false)
  | value => value.asText

end SettingValue

/-! ## Tags -/

namespace Tag

/-- The settings of a tag with a name. -/
def settings (name : String) : TagArguments → Except DeclarationError (List Setting)
  | .none => .error (.noArguments name)
  | .assigned => .error (.assignedArguments name)
  | .list settings => .ok settings

/-- Reads the settings of a tag with a name.  A group that goes on where it has to end counts after
everything else. -/
def read {σ : Type} (name : String) (onSetting : Setting.Reader σ) (state : σ)
    (arguments : TagArguments) : Except DeclarationError σ := do
  let settings ← settings name arguments
  let state ← Setting.readAll onSetting state settings
  match Setting.unfinished? settings with
  | some b => .error (.unfinished b)
  | none => .ok state

/-- Reads tags: settings of models and settings of serialization, with a reader for each.
Every other tag says nothing about the schema. -/
def readAll {σ : Type} (onModel onSerialization : Setting.Reader σ) (state : σ) (tags : List Tag) :
    Except DeclarationError σ :=
  tags.foldlM
    (fun state a =>
      match a.name with
      | some "model" => read "model" onModel state a.arguments
      | some "serde" => read "serde" onSerialization state a.arguments
      | _ => .ok state)
    state

end Tag

/-! ## Structures and fields -/

namespace Declaration

/-- What the tags of a structure say. -/
structure Heading where
  identity : String
  casing : Option Casing := none

namespace Heading

/-- A setting of the model. -/
def onModel : Setting.Reader Heading := fun h name value => do
  if name = some "identity" then
    let reading ← value.asText
    return { reading with result := { h with identity := reading.result } }
  else .error .unsupportedOption

/-- A setting of serialization. -/
def onSerialization : Setting.Reader Heading := fun h name value => do
  if name = some "rename_all" then
    let reading ← value.serializedName
    match Casing.ofName? reading.result with
    | some casing => return { reading with result := { h with casing := some casing } }
    | none => .error .unknownCaseRule
  else
    let reading ← Setting.passValue value
    return { reading with result := h }

end Heading

/-- What the tags of a field say. -/
structure FieldRole where
  name : String
  primaryKey : Bool := false
  foreignKey : Bool := false
  skipped : Bool := false

namespace FieldRole

/-- A setting of the model. -/
def onModel : Setting.Reader FieldRole := fun r name value =>
  let flagged (r : FieldRole) : Except DeclarationError (Reading FieldRole) :=
    .ok { result := r, isComplete := value.isBare }
  match name with
  | some "primary_key" => flagged { r with primaryKey := true }
  | some "foreign_key" => flagged { r with foreignKey := true }
  | some "skip" => flagged { r with skipped := true }
  | _ => .error .unsupportedFieldOption

/-- A setting of serialization. -/
def onSerialization : Setting.Reader FieldRole := fun r name value => do
  if name = some "rename" then
    let reading ← value.serializedName
    return { reading with result := { r with name := reading.result } }
  else
    let reading ← Setting.passValue value
    return { reading with result := r }

end FieldRole

/-- The name of a field without the marks of a raw identifier. -/
def plainName : List Char → List Char
  | 'r' :: '#' :: rest => plainName rest
  | s => s

/-- The name of a field before any renaming of its own. -/
def casedName (casing : Option Casing) (name : String) : String :=
  let plain := plainName name.toList
  String.ofList (match casing with
    | some c => c.apply plain
    | none => plain)

end Declaration

/-- The type of the attribute for a field: wrappers that serialize as what they hold count as
that, and types that are not known count as JSON. -/
def FieldType.attributeType : FieldType → AttributeType
  | sequence => .array
  | reference t | parenthesized t => t.attributeType
  | named name argument =>
    if ["Option", "Box"].contains name then
      match argument with
      | some t => t.attributeType
      | none => .json
    else if ["String", "str", "char", "Uuid"].contains name then .string
    else if ["i8", "i16", "i32", "i64", "i128", "isize", "u8", "u16", "u32", "u64", "u128",
        "usize"].contains name then .integer
    else if ["f32", "f64"].contains name then .float
    else if name = "bool" then .boolean
    else if ["Vec", "VecDeque", "HashSet", "BTreeSet"].contains name then .array
    else if name = "NaiveDate" then .date
    else if ["DateTime", "NaiveDateTime"].contains name then .datetime
    else .json
  | other => .json

/-- The attribute of a field, unless the field is skipped. -/
def FieldDeclaration.attribute? (casing : Option Casing) (f : FieldDeclaration) :
    Except DeclarationError (Option (String × Attribute)) := do
  let role ← Tag.readAll Declaration.FieldRole.onModel Declaration.FieldRole.onSerialization
    { name := Declaration.casedName casing f.name } f.tags
  return if role.skipped then none
    else some (role.name,
      { type := f.type.attributeType, primaryKey := role.primaryKey
        foreignKey := role.foreignKey })

/-- A model by its declaration: the identity of its collection and the attributes of its fields, in
order. -/
structure DeclaredModel where
  identity : String
  attributes : List (String × Attribute)

/-- The schema of a declared model. -/
def DeclaredModel.schema (m : DeclaredModel) : Schema :=
  Schema.ofList m.attributes

namespace Declaration

/-- The model that a declaration declares. -/
def model (d : Declaration) : Except DeclarationError DeclaredModel := do
  let heading ← Tag.readAll Heading.onModel Heading.onSerialization
    { identity := d.name } d.tags
  match d.shape with
  | .structure fields =>
    let attributes ← fields.mapM (FieldDeclaration.attribute? heading.casing)
    return { identity := heading.identity, attributes := attributes.filterMap id }
  | .unnamed => .error .unnamedFields
  | .other => .error .notAStructure

end Declaration

end CriteriaSearch

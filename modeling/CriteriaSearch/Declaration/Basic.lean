import CriteriaSearch.Schema

/-!
# Declarations of structures

A model can be declared as a structure: fields with types, and tags that say how fields are
called and which of them are keys.  This module holds the declaration as data; `Reader` takes it
from source text, and `Schema` says which model it declares.

A setting of a tag is a name, then nothing, a value behind an equals sign, or settings in
parentheses, up to a comma.  Text outside of the grammar is kept as what it is, because whether it
is an error, and which one, depends on who asks for the setting.
-/

namespace CriteriaSearch

/-- The kinds of brackets. -/
inductive Bracket where
  | round
  | square
  | curly
  deriving DecidableEq

namespace Bracket

/-- The closing bracket. -/
def closing : Bracket → String
  | round => ")"
  | square => "]"
  | curly => "\x7d"

/-- What a pair of brackets is called. -/
def name : Bracket → String
  | round => "parentheses"
  | square => "square brackets"
  | curly => "curly braces"

end Bracket

/-! ## Errors -/

/-- What is wrong with a declaration.  A flag `atEnd` tells that the text ends where something else
was expected. -/
inductive DeclarationError where
  | unsupportedOption
  | unsupportedFieldOption
  | unknownCaseRule
  | noSerializedName
  | unnamedFields
  | notAStructure
  | noSetting
  | literalSetting
  | straySetting
  | noArguments (tag : String)
  | assignedArguments (tag : String)
  /-- Something else stands where the grammar asks for this. -/
  | expected (what : String) (atEnd : Bool)
  /-- Something stands where this has to end. -/
  | unexpected (wanted : String)
  | chainedComparison
  | castFollowedBy (what : String)
  | suffixedIndex
  | oversizedIndex
  | labelWithoutParentheses
  | noTraitInObject
  | noTraitInBounds
  | tagInTag
  | tagOnRange
  deriving DecidableEq

namespace DeclarationError

/-- Source text between backquotes. -/
def quoted (s : String) : String :=
  "`" ++ s ++ "`"

/-- A mark is missing. -/
def expectedMark (s : String) : DeclarationError :=
  expected (quoted s) false

/-- A comma is missing. -/
def expectedComma : DeclarationError :=
  expectedMark ","

/-- A text is missing. -/
def expectedText (atEnd : Bool) : DeclarationError :=
  expected "string literal" atEnd

/-- The brackets of a group are missing. -/
def expectedGroup (b : Bracket) (atEnd : Bool) : DeclarationError :=
  expected b.name atEnd

/-- A group goes on where it has to end. -/
def unfinished (b : Bracket) : DeclarationError :=
  unexpected (quoted b.closing)

/-- The text of an error. -/
def message : DeclarationError → String
  | unsupportedOption => "unsupported model option"
  | unsupportedFieldOption => "unsupported model field option"
  | unknownCaseRule => "unknown rename_all rule"
  | noSerializedName => "expected a serialize name"
  | unnamedFields => "Model can only be derived for structs with named fields"
  | notAStructure => "Model can only be derived for structs"
  | noSetting => "unexpected end of input, expected nested attribute"
  | literalSetting => "unexpected literal in nested attribute, expected ident"
  | straySetting => "unexpected token in nested attribute, expected ident"
  | noArguments tag =>
    "expected attribute arguments in parentheses: #[" ++ tag ++ "(...)]"
  | assignedArguments tag => "expected parentheses: #[" ++ tag ++ "(...)]"
  | expected what atEnd =>
    (if atEnd then "unexpected end of input, expected " else "expected ") ++ what
  | unexpected wanted => "unexpected token, expected " ++ wanted
  | chainedComparison => "comparison operators cannot be chained"
  | castFollowedBy what => "casts cannot be followed by " ++ what
  | suffixedIndex => "expected unsuffixed integer"
  | oversizedIndex => "number too large to fit in target type"
  | labelWithoutParentheses => "parentheses required"
  | noTraitInObject => "at least one trait is required for an object type"
  | noTraitInBounds => "at least one trait must be specified"
  | tagInTag => "unexpected attribute inside of attribute"
  | tagOnRange => "attributes are not allowed on range expressions starting with `..`"

end DeclarationError

/-! ## Tags -/

/-- What stands behind an equals sign and is more, or something else, than a text. -/
structure AssignedExpression where
  /-- The text that it begins with. -/
  opening : Option String := none
  /-- Whether nothing stands behind the equals sign. -/
  isMissing : Bool := false
  /-- Why it is not an expression. -/
  failure : Option DeclarationError := none
  /-- The brackets of the first group in it that goes on where it has to end. -/
  unfinished : Option Bracket := none

mutual

/-- A setting of a tag. -/
inductive Setting where
  /-- Text that does not begin with a name. -/
  | malformed (error : DeclarationError)
  /-- A name, kept if it is one word; what follows it; and whether more follows that. -/
  | named (name : Option String) (value : SettingValue) (trailing : Bool)

/-- What follows the name of a setting. -/
inductive SettingValue where
  /-- Nothing. -/
  | bare (atEnd : Bool)
  /-- An equals sign and a text. -/
  | text (s : String)
  /-- An equals sign and anything else. -/
  | expression (e : AssignedExpression)
  /-- Settings in parentheses. -/
  | list (settings : List Setting)
  /-- Anything else. -/
  | stray

end

/-- The arguments of a tag. -/
inductive TagArguments where
  | none
  | assigned
  | list (settings : List Setting)

/-- A tag of a structure or of a field; its name is kept if it is one word. -/
structure Tag where
  name : Option String
  arguments : TagArguments

/-! ## Structures -/

/-- The type of a field. -/
inductive FieldType where
  /-- A type by the last part of its name, with the first of its arguments. -/
  | named (name : String) (argument : Option FieldType)
  | reference (target : FieldType)
  | parenthesized (inner : FieldType)
  | sequence
  | other

/-- A field of a structure. -/
structure FieldDeclaration where
  name : String
  type : FieldType
  tags : List Tag

/-- What is declared. -/
inductive DeclarationShape where
  | structure (fields : List FieldDeclaration)
  | unnamed
  | other

/-- A declaration with a name. -/
structure Declaration where
  name : String
  tags : List Tag
  shape : DeclarationShape

end CriteriaSearch

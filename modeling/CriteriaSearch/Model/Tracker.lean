import CriteriaSearch.Model.Basic

/-!
# Models of a ticket tracker

Three models to try typed collections with: tickets, sprints, and values without any shape.
-/

namespace CriteriaSearch.Model

/-- The identifier of a structure, left out while it has none. -/
def identifierField : FieldShape :=
  { name := "id", kind := .optionalText, omitNull := true,
    declaredAs := some { type := .string, primaryKey := true } }

/-- The shape of a ticket. -/
def ticketShape : Shape :=
  { identity := "Ticket"
    fields :=
      [identifierField,
       { name := "title", kind := .text, declaredAs := some { type := .string } },
       { name := "priority", kind := .integer, declaredAs := some { type := .integer } },
       { name := "tagList", kind := .texts, declaredAs := some { type := .array } },
       { name := "estimate", kind := .optionalNumber, declaredAs := some { type := .float } },
       { name := "urgent", kind := .boolean, declaredAs := some { type := .boolean } },
       { name := "owner", kind := .optionalText,
         declaredAs := some { type := .string, foreignKey := true } },
       { name := "notes", kind := .any }] }

/-- A ticket. -/
def ticket : Model := ticketShape.toModel

/-- A sprint. -/
def sprint : Model :=
  Shape.toModel
    { identity := "Sprint"
      fields :=
        [identifierField,
         { name := "storyPoints", kind := .integer, declaredAs := some { type := .integer } },
         { name := "goal", kind := .text, declaredAs := some { type := .string } }] }

/-- Any value. -/
def raw : Model := anything "Raw"

/-- The model of an identity. -/
def ofIdentity? (identity : String) : Option Model :=
  [ticket, sprint, raw].find? (·.identity == identity)

end CriteriaSearch.Model

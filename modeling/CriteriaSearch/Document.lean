import CriteriaSearch.Coercion
import CriteriaSearch.Error
import CriteriaSearch.Identifier
import CriteriaSearch.Timestamp.Reader

/-!
# Documents on their way in and out

On its way to a store a record loses its identifier fields, of which `id` becomes the identifier of
the document, and its values are coerced to their declared types, points in time to their canonical
text.  On its way back a body gets the store identifier under the name `id`.
-/

namespace CriteriaSearch

/-- A document ready to be written: its identifier, which the store chooses when it is missing, and
its body. -/
structure PreparedDocument where
  id : Option String
  body : Record

namespace Document

/-- The record that a caller sent. -/
def recordOf? : Json → Except DocumentError Record
  | .obj entries => .ok entries
  | v => .error (.notObject v)

/-- A value of a temporal attribute in canonical form: null, a text that reads as a point in time,
or a number of milliseconds. -/
def canonicalDate (field : String) (v : Json) : Except DocumentError Json :=
  let written (t : Option Timestamp) : Except DocumentError Json :=
    match t with
    | some t => .ok (.str t.text)
    | none => .error (.notDate field v)
  match v with
  | .null => .ok .null
  | .str s => written (Timestamp.ofText? s)
  | .num n => written (n.toSigned?.bind Timestamp.ofMillis?)
  | _ => written none

/-- The value of a field as it is stored. -/
def storedValue (schema : Schema) (field : String) (v : Json) : Except DocumentError Json :=
  let coerced := schema.coerce field v
  match schema.declaredType? field with
  | some type => if type.isTemporal then canonicalDate field coerced else .ok coerced
  | none => .ok coerced

/-- Takes one field of a record into the prepared document. -/
def prepareField (schema : Schema) (p : PreparedDocument) (entry : String × Json) :
    Except DocumentError PreparedDocument :=
  let (field, v) := entry
  if field = Schema.storedIdField then .ok p
  else if field = Schema.idField then .ok { p with id := v.idText? }
  else (storedValue schema field v).map fun w => { p with body := p.body.insert field w }

/-- Prepares a record for writing; the first bad field decides the error. -/
def prepare (schema : Schema) (r : Record) : Except DocumentError PreparedDocument :=
  r.foldlM (prepareField schema) ⟨none, []⟩

/-- Moves the store identifier of a record to the name that callers use. -/
def exposeId (r : Record) : Record :=
  match r.swapRemove Schema.storedIdField with
  | some (id, rest) => rest.insert Schema.idField id
  | none => r

/-- The record that a caller gets for a stored body. -/
def hydrate (id : String) (body : Record) : Record :=
  exposeId (body.insert Schema.storedIdField (.str id))

end Document

end CriteriaSearch

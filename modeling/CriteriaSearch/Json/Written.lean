import CriteriaSearch.Json.Basic

/-!
# JSON as written

What a text of JSON says before it is taken for a value.  Objects keep every entry in its place, a
repeated key included.  A part can follow the grammar and still stand for no value: a number beyond
the finite range, a text with half of a surrogate pair, or a container inside too many others.  Such
a part is `faulty`, and does no harm where nobody asks for its value.

`Written.toJson?` is the value of what is written, with the first place and the last value of every
repeated key; `Written.ofJson` writes a value down.
-/

namespace CriteriaSearch.Json

/-- JSON as written. -/
inductive Written where
  | faulty
  | scalar (v : Json)
  | arr (items : List Written)
  | obj (entries : List (Option String × Written))

namespace Written

mutual

/-- The value that is written, unless some part of it is faulty. -/
def toJson? : Written → Option Json
  | faulty => none
  | scalar v => some v
  | arr items => (toItems? items).map .arr
  | obj entries => (toEntries? entries).map fun es => .obj (Record.ofEntries es)

/-- The values of items. -/
def toItems? : List Written → Option (List Json)
  | [] => some []
  | w :: rest => do
    let v ← toJson? w
    return v :: (← toItems? rest)

/-- The entries of an object, as often as they were written. -/
def toEntries? : List (Option String × Written) → Option (List (String × Json))
  | [] => some []
  | (key, w) :: rest => do
    let k ← key
    let v ← toJson? w
    return (k, v) :: (← toEntries? rest)

end

mutual

/-- A value written down. -/
def ofJson : Json → Written
  | .arr items => arr (ofItems items)
  | .obj entries => obj (ofEntries entries)
  | v => scalar v

/-- Items written down. -/
def ofItems : List Json → List Written
  | [] => []
  | v :: rest => ofJson v :: ofItems rest

/-- Entries written down. -/
def ofEntries : List (String × Json) → List (Option String × Written)
  | [] => []
  | (k, v) :: rest => (some k, ofJson v) :: ofEntries rest

end

/-- The entries of an object whose keys all stand for texts. -/
def entries? : Written → Option (List (String × Written))
  | obj entries => entries.mapM fun e => e.1.map fun k => (k, e.2)
  | _ => none

end Written

end CriteriaSearch.Json

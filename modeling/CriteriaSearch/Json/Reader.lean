import CriteriaSearch.Json.Lexer
import CriteriaSearch.Json.Written

/-!
# Reading JSON text

A text is read in one pass over its tokens by a machine that keeps the containers it is inside of.
Containers inside 127 others and more follow the grammar, but stand for no value.
-/

namespace CriteriaSearch.Json.Written

/-- A container that is being read: what is done already, last first, and for an object the key
whose value is being read. -/
inductive Frame where
  | array (done : List Written)
  | object (done : List (Option String × Written)) (key : Option String)

/-- What may come next. -/
inductive Expect where
  | value
  | firstItem
  | firstKey
  | key (done : List (Option String × Written))
  | colon (done : List (Option String × Written)) (key : Option String)
  | after (value : Written)

/-- The greatest depth of nesting. -/
def maxDepth : Nat := 127

/-- The containers that are open, innermost first, and what may come next. -/
structure ReaderState where
  frames : List Frame
  expect : Expect

/-- Starts a value inside the given containers. -/
def startValue (frames : List Frame) : Token → Option ReaderState
  | .text s => some ⟨frames, .after (s.elim faulty fun s => scalar (.str s))⟩
  | .scalar v => some ⟨frames, .after (v.elim faulty scalar)⟩
  | .openArray => some ⟨frames, .firstItem⟩
  | .openObject => some ⟨frames, .firstKey⟩
  | _ => none

/-- Ends a container inside the given ones. -/
def endContainer (frames : List Frame) (container : Written) : ReaderState :=
  ⟨frames, .after (if frames.length < maxDepth then container else faulty)⟩

/-- One token. -/
def readToken (state : ReaderState) (token : Token) : Option ReaderState :=
  match state.expect, token with
  | .value, t => startValue state.frames t
  | .firstItem, .closeArray => some (endContainer state.frames (arr []))
  | .firstItem, t => startValue (.array [] :: state.frames) t
  | .firstKey, .closeObject => some (endContainer state.frames (obj []))
  | .firstKey, .text k => some ⟨state.frames, .colon [] k⟩
  | .key done, .text k => some ⟨state.frames, .colon done k⟩
  | .colon done k, .colon => some ⟨.object done k :: state.frames, .value⟩
  | .after v, t =>
    match state.frames, t with
    | .array done :: frames, .comma => some ⟨.array (v :: done) :: frames, .value⟩
    | .array done :: frames, .closeArray => some (endContainer frames (arr (v :: done).reverse))
    | .object done k :: frames, .comma => some ⟨frames, .key ((k, v) :: done)⟩
    | .object done k :: frames, .closeObject =>
      some (endContainer frames (obj ((k, v) :: done).reverse))
    | _, _ => none
  | _, _ => none

/-- Reads a text that holds one value and nothing else. -/
def ofText? (s : String) : Option Written := do
  let tokens ← tokens? s.toList
  match ← tokens.foldlM readToken ⟨[], .value⟩ with
  | ⟨[], .after v⟩ => some v
  | _ => none

end CriteriaSearch.Json.Written

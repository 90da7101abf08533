import CriteriaSearch.Criteria.Expression
import CriteriaSearch.Text.Case
import CriteriaSearch.Text.Split

/-!
# Text patterns

A pattern is a list of literal pieces with anything between them: a text matches when it is the
pieces in order, in any letter case, with any text free of line feeds between two neighbours.

`Pattern.body` writes a pattern as a regular expression, every metacharacter of a piece behind a
backslash and `.*` between pieces.  A library that compiles expressions may refuse one, for being
too large when compiled; which ones is the library's own affair (`PatternLibrary`).

`Pattern.matchSteps` says directly which texts match.  `Pattern.matchesText` decides the same in time
proportional to the text and the pattern, from the end of the text to its front (`matchesText_eq`).
-/

namespace CriteriaSearch

/-- Literal pieces with anything between neighbours. -/
structure Pattern where
  pieces : List (List Char)
  deriving DecidableEq

namespace Pattern

/-! ## The four kinds of pattern -/

/-- The literal text anywhere. -/
def contains (literal : List Char) : Pattern :=
  ⟨[[], literal, []]⟩

/-- The text with anything in place of each percent sign. -/
def like (text : List Char) : Pattern :=
  ⟨Text.splitAt '%' text⟩

/-- The literal text in front. -/
def startsWith (literal : List Char) : Pattern :=
  ⟨[literal, []]⟩

/-- The literal text at the end. -/
def endsWith (literal : List Char) : Pattern :=
  ⟨[[], literal]⟩

/-- The pattern of a text comparison. -/
def ofMatch : TextMatch → List Char → Pattern
  | .contains => contains
  | .like => like
  | .startsWith => startsWith
  | .endsWith => endsWith

/-- Letter case never matters. -/
def ignoresCase (_ : Pattern) : Bool := true

/-! ## As a regular expression -/

/-- The characters that mean something in a regular expression. -/
def metacharacters : List Char :=
  ['-', '[', ']', Char.ofNat 0x7B, Char.ofNat 0x7D, '(', ')', '+', '?', '*', '.', '\\', '/', ',',
    '^', '$', '|', '#']

/-- A literal text with every metacharacter behind a backslash. -/
def escape (literal : List Char) : List Char :=
  literal.flatMap fun c => if metacharacters.contains c then ['\\', c] else [c]

theorem escape_cons (c : Char) (literal : List Char) :
    escape (c :: literal) =
      (if metacharacters.contains c then ['\\', c] else [c]) ++ escape literal :=
  List.flatMap_cons

/-- The regular expression of the pattern. -/
def body (p : Pattern) : List Char :=
  Text.joinWith ['.', '*'] (p.pieces.map escape)

/-- The regular expression between its anchors. -/
def anchored (p : Pattern) : List Char :=
  '^' :: p.body ++ ['$']

/-- The text of the expression that is compiled for a pattern, with its flag in front. -/
def source (p : Pattern) : List Char :=
  (if p.ignoresCase then ['(', '?', 'i', ')'] else []) ++ p.anchored

/-! ## Matching -/

/-- What a pattern asks of a text, step by step. -/
inductive Step where
  | literal (c : Char)
  | anything
  deriving DecidableEq

/-- The steps of pieces. -/
def stepsOf : List (List Char) → List Step
  | [] => []
  | [piece] => piece.map .literal
  | piece :: rest => piece.map .literal ++ .anything :: stepsOf rest

/-- Whether a text goes through all steps and ends with them. -/
def matchSteps : List Step → List Char → Bool
  | [], s => s.isEmpty
  | .literal _ :: _, [] => false
  | .literal c :: steps, d :: s => Text.caselessEq c d && matchSteps steps s
  | .anything :: steps, [] => matchSteps steps []
  | .anything :: steps, d :: s =>
    matchSteps steps (d :: s) || (d != '\n' && matchSteps (.anything :: steps) s)
termination_by steps s => (steps.length, s.length)

/-! ## Matching from the end

A row answers, for the steps from each one on, whether a text goes through them.  The row of a text
follows from the row of the text without its first character. -/

/-- The row of the empty text. -/
def emptyRow : List Step → List Bool
  | [] => [true]
  | .literal _ :: steps => false :: emptyRow steps
  | .anything :: steps => (emptyRow steps).head?.getD false :: emptyRow steps

/-- The row of a text with one more character in front, from the row of the text. -/
def extendRow (d : Char) : List Step → List Bool → List Bool
  | .literal c :: steps, _ :: row =>
    (Text.caselessEq c d && row.head?.getD false) :: extendRow d steps row
  | .anything :: steps, here :: row =>
    let extended := extendRow d steps row
    (extended.head?.getD false || (d != '\n' && here)) :: extended
  | _, _ => [false]

/-- The row of a text. -/
def rowOf (steps : List Step) (s : List Char) : List Bool :=
  s.foldr (fun d row => extendRow d steps row) (emptyRow steps)

/-- Whether a text matches the pattern. -/
def matchesText (p : Pattern) (s : String) : Bool :=
  (rowOf (stepsOf p.pieces) s.toList).head?.getD false

/-- Whether a text goes through the steps, from each one on. -/
def answers (s : List Char) : List Step → List Bool
  | [] => [matchSteps [] s]
  | step :: steps => matchSteps (step :: steps) s :: answers s steps

theorem head?_answers (steps : List Step) (s : List Char) :
    (answers s steps).head?.getD false = matchSteps steps s := by
  cases steps <;> rfl

theorem emptyRow_eq (steps : List Step) : emptyRow steps = answers [] steps := by
  induction steps with
  | nil => simp [emptyRow, answers, matchSteps]
  | cons step steps ih => cases step <;> simp [emptyRow, answers, matchSteps, ih, head?_answers]

theorem extendRow_answers (d : Char) (steps : List Step) (s : List Char) :
    extendRow d steps (answers s steps) = answers (d :: s) steps := by
  induction steps with
  | nil => simp [extendRow, answers, matchSteps]
  | cons step steps ih => cases step <;> simp [extendRow, answers, matchSteps, ih, head?_answers]

theorem rowOf_eq (steps : List Step) (s : List Char) : rowOf steps s = answers s steps := by
  induction s with
  | nil => exact emptyRow_eq steps
  | cons d s ih =>
    have h : rowOf steps (d :: s) = extendRow d steps (rowOf steps s) := rfl
    rw [h, ih, extendRow_answers]

/-- The two ways to match agree. -/
theorem matchesText_eq (p : Pattern) (s : String) :
    p.matchesText s = matchSteps (stepsOf p.pieces) s.toList := by
  rw [matchesText, rowOf_eq, head?_answers]

end Pattern

/-! ## The library of expressions -/

/-- A library of regular expressions, by what it refuses to compile: the reason, for the text of an
expression. -/
structure PatternLibrary where
  refusal? : List Char → Option String := fun _ => none

namespace PatternLibrary

/-- The library that compiles everything. -/
def unlimited : PatternLibrary := {}

/-- The reason for which an expression is too large. -/
def sizeReason : String := "Compiled regex exceeds size limit of 10485760 bytes."

/-- The library that refuses expressions of more than so many characters as too large. -/
def bounded (limit : Nat) : PatternLibrary :=
  ⟨fun source => if source.length ≤ limit then none else some sizeReason⟩

end PatternLibrary

end CriteriaSearch

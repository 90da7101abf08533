import CriteriaSearch.Text.Hexadecimal
import CriteriaSearch.Text.Split

/-!
# Tables of code points

A table says something about runs of code points.  It is written as words in ascending order: a code
point or a run `first..last`, with an image behind an equals sign where the table has one.  An image
is one or more code points joined by plus signs.  All numbers are hexadecimal.

A code point is looked up by halving (`CodeTable.find?`).
-/

namespace CriteriaSearch.Text

/-- The code points from `first` to `last` and their image. -/
structure CodeRun where
  first : Nat
  last : Nat
  image : List Nat := []
  deriving DecidableEq

/-- Runs in ascending order. -/
abbrev CodeTable := Array CodeRun

/-! ## Reading -/

/-- A hexadecimal number. -/
def hexNumber? (s : List Char) : Option Nat :=
  if s.isEmpty then none else s.foldlM (fun n c => (hexValue? c).map (16 * n + ·)) 0

namespace CodeRun

/-- Reads a word. -/
def ofWord? (s : List Char) : Option CodeRun := do
  let (codes, image) ← match splitAt '=' s with
    | [codes] => some (codes, [])
    | [codes, image] => (splitAt '+' image).mapM hexNumber? |>.map (codes, ·)
    | _ => none
  match ← ((splitAt '.' codes).filter (!·.isEmpty)).mapM hexNumber? with
  | [code] => some { first := code, last := code, image }
  | [first, last] => some { first, last, image }
  | _ => none

/-- The image of a code point of the run.  An image of one code point moves along with the run. -/
def imageOf (run : CodeRun) (code : Nat) : List Nat :=
  match run.image with
  | [target] => [target + (code - run.first)]
  | image => image

end CodeRun

namespace CodeTable

/-- Reads a table. -/
def ofText (s : String) : CodeTable :=
  ((splitAt '\n' s.toList).flatMap (splitAt ' ')).filterMap CodeRun.ofWord? |>.toArray

/-! ## Looking up -/

/-- The run around a code point among the runs from `low` up to `high`. -/
def findBetween (t : CodeTable) (code low high : Nat) : Option CodeRun :=
  if low < high then
    match t[(low + high) / 2]? with
    | none => none
    | some run =>
      if code < run.first then findBetween t code low ((low + high) / 2)
      else if run.last < code then findBetween t code ((low + high) / 2 + 1) high
      else some run
  else none
termination_by high - low

/-- The run around a code point. -/
def find? (t : CodeTable) (code : Nat) : Option CodeRun :=
  t.findBetween code 0 t.size

/-- Whether a code point is in the table. -/
def covers (t : CodeTable) (c : Char) : Bool :=
  (t.find? c.toNat).isSome

/-- The first code point whose run has an image. -/
def preimage? (t : CodeTable) (image : List Nat) : Option Nat :=
  (Array.find? (·.image == image) t).map (·.first)

theorem findBetween_covers {t : CodeTable} {code low high : Nat} {run : CodeRun}
    (h : t.findBetween code low high = some run) : run.first ≤ code ∧ code ≤ run.last := by
  fun_induction findBetween t code low high <;> simp_all

/-- What is found covers the code point. -/
theorem find?_covers {t : CodeTable} {code : Nat} {run : CodeRun} (h : t.find? code = some run) :
    run.first ≤ code ∧ code ≤ run.last :=
  findBetween_covers h

end CodeTable

end CriteriaSearch.Text

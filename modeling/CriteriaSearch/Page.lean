import CriteriaSearch.Criteria.Basic
import CriteriaSearch.Error

/-!
# Pages

A page is a stretch of `perPage` results, counted from page one; a page zero starts where page one
does.  Positions stay within 64 bits: a product or sum beyond them is held at the greatest.  The
number of a page is of 64 bits too, but it is not held back: there is none after the greatest, and
to ask for it is a panic.
-/

namespace CriteriaSearch

/-- Which page is asked for. -/
structure PageRequest where
  page : Nat := 1
  perPage : Nat := 10

/-- A page of items, the number of items on all pages, and the pages beside it. -/
structure Page (α : Type) where
  items : List α
  count : Nat
  nextPage : Option Nat
  previousPage : Option Nat

namespace PageRequest

/-- The greatest position. -/
def maxPosition : Nat := 0xffffffffffffffff

/-- A position held within 64 bits. -/
def saturate (n : Nat) : Nat := min n maxPosition

/-- The number after a number of 64 bits. -/
def successor (n : Nat) : Except Panic Nat :=
  if n < maxPosition then .ok (n + 1) else .error .additionOverflow

/-- How many results come before the page. -/
def offset (p : PageRequest) : Nat :=
  saturate ((p.page - 1) * p.perPage)

/-- The criteria with the window of the page. -/
def window (p : PageRequest) (c : Criteria) : Criteria :=
  { c with limit := some p.perPage, skip := some p.offset }

/-- The number of the page after this one, where the pages up to it leave something. -/
def next? (p : PageRequest) (count : Nat) : Except Panic (Option Nat) :=
  if saturate (p.offset + p.perPage) < count then (successor (max p.page 1)).map some
  else .ok none

/-- The page of given items out of `count` in all. -/
def toPage {α : Type} (p : PageRequest) (items : List α) (count : Nat) : Except Panic (Page α) :=
  (p.next? count).map fun nextPage =>
    let page := max p.page 1
    { items, count, nextPage, previousPage := if 1 < page then some (page - 1) else none }

end PageRequest

end CriteriaSearch

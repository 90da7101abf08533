import CriteriaSearch.Store.Evaluation

/-!
# Evaluation of combinators

Conjunctions and disjunctions stop at the part that settles them, so in general a failure behind
that part stays unseen.  Where every part is decided none of this shows: a conjunction is the
conjunction of what its parts say, a disjunction their disjunction, and the form that `Filter.all`
gives to a conjunction does not matter.
-/

namespace CriteriaSearch

/-! ## Fields -/

/-- The values that a condition on a field is put to: the items of a list, or the value itself. -/
def Record.itemsAt (r : Record) (field : String) : List Json :=
  match r.resolve? field with
  | some (.arr items) => items
  | some v => [v]
  | none => []

namespace Filter

theorem fieldHolds_eq_any (body : Record) (field : String) (check : Json → Bool) :
    fieldHolds body field check = (body.itemsAt field).any check := by
  unfold fieldHolds Record.itemsAt
  cases body.resolve? field with
  | none => rfl
  | some v => cases v <;> simp [Json.anyItem]

/-! ## Combinators -/

variable (library : PatternLibrary) (id : String) (body : Record)

/-- The form of a conjunction does not matter. -/
theorem holds_all (fs : List Filter) :
    (all fs).holds library id body = allHold library id body fs := by
  match fs with
  | [] => simp [all, holds, allHold]
  | [f] =>
    simp only [all, allHold]
    cases f.holds library id body with
    | error e => rfl
    | ok b => cases b <;> rfl
  | f :: g :: rest => simp [all, holds]

variable {library id body} {α : Type}

/-- A conjunction of decided parts. -/
theorem allHold_map {l : List α} {f : α → Filter} {p : α → Bool}
    (h : ∀ a ∈ l, (f a).holds library id body = .ok (p a)) :
    allHold library id body (l.map f) = .ok (l.all p) := by
  induction l with
  | nil => simp [allHold]
  | cons a rest ih =>
    rw [List.forall_mem_cons] at h
    rw [List.map_cons, allHold, h.1, List.all_cons, ih h.2]
    cases p a <;> rfl

/-- A disjunction of decided parts. -/
theorem someHolds_map {l : List α} {f : α → Filter} {p : α → Bool}
    (h : ∀ a ∈ l, (f a).holds library id body = .ok (p a)) :
    someHolds library id body (l.map f) = .ok (l.any p) := by
  induction l with
  | nil => simp [someHolds]
  | cons a rest ih =>
    rw [List.forall_mem_cons] at h
    rw [List.map_cons, someHolds, h.1, List.any_cons, ih h.2]
    cases p a <;> rfl

end Filter

end CriteriaSearch

import CriteriaSearch.Criteria.Clause
import CriteriaSearch.Filter

/-!
# Induction on nested trees

Values, expressions, clauses and filters hold lists of their own kind, so plain `induction` has no
principle for them.  Each principle here gives the hypothesis for every member of such a list.
Being tagged as eliminators they are what `induction` uses from here on, with one case for each
constructor.
-/

namespace CriteriaSearch

/-- Induction on values: lists and objects may use the statement for all they hold. -/
@[elab_as_elim, induction_eliminator]
theorem Json.induct {motive : Json → Prop} (null : motive .null) (bool : ∀ b, motive (.bool b))
    (num : ∀ n, motive (.num n)) (str : ∀ s, motive (.str s))
    (arr : ∀ items, (∀ v ∈ items, motive v) → motive (.arr items))
    (obj : ∀ entries, (∀ e ∈ entries, motive e.2) → motive (.obj entries)) (v : Json) :
    motive v :=
  match v with
  | .null => null
  | .bool b => bool b
  | .num n => num n
  | .str s => str s
  | .arr items => arr items fun w _ => Json.induct null bool num str arr obj w
  | .obj entries => obj entries fun e _ => Json.induct null bool num str arr obj e.2
termination_by v
decreasing_by
  · have := List.sizeOf_lt_of_mem ‹w ∈ items›
    simp only [Json.arr.sizeOf_spec]
    omega
  · have := List.sizeOf_lt_of_mem ‹e ∈ entries›
    obtain ⟨k, w⟩ := e
    simp only [Json.obj.sizeOf_spec, Prod.mk.sizeOf_spec] at *
    omega

/-- Induction on expressions: modifiers may use the statement for every negated expression. -/
@[elab_as_elim, induction_eliminator]
theorem Expression.induct {motive : Expression → Prop} (literal : ∀ v, motive (.literal v))
    (oneOf : ∀ vs, motive (.oneOf vs))
    (modifiers : ∀ ms, (∀ e, Modifier.not e ∈ ms → motive e) → motive (.modifiers ms))
    (e : Expression) : motive e :=
  match e with
  | .literal v => literal v
  | .oneOf vs => oneOf vs
  | .modifiers ms => modifiers ms fun e _ => Expression.induct literal oneOf modifiers e
termination_by e
decreasing_by
  have := List.sizeOf_lt_of_mem ‹Modifier.not e ∈ ms›
  simp only [Expression.modifiers.sizeOf_spec, Modifier.not.sizeOf_spec] at *
  omega

/-- Induction on clauses: a combinator may use the statement for every member. -/
@[elab_as_elim, induction_eliminator]
theorem Clause.induct {motive : Clause → Prop} (fields : ∀ fs, motive (.fields fs))
    (and : ∀ cs, (∀ c ∈ cs, motive c) → motive (.and cs))
    (or : ∀ cs, (∀ c ∈ cs, motive c) → motive (.or cs))
    (all : ∀ cs, (∀ c ∈ cs, motive c) → motive (.all cs)) (c : Clause) : motive c :=
  match c with
  | .fields fs => fields fs
  | .and cs => and cs fun c _ => Clause.induct fields and or all c
  | .or cs => or cs fun c _ => Clause.induct fields and or all c
  | .all cs => all cs fun c _ => Clause.induct fields and or all c
termination_by c
decreasing_by
  all_goals
    have := List.sizeOf_lt_of_mem ‹c ∈ cs›
    simp only [Clause.and.sizeOf_spec, Clause.or.sizeOf_spec, Clause.all.sizeOf_spec]
    omega

/-- Induction on filters: a combinator may use the statement for every member. -/
@[elab_as_elim, induction_eliminator]
theorem Filter.induct {motive : Filter → Prop} (matchAll : motive .matchAll)
    (term : ∀ field v, motive (.term field v)) (terms : ∀ field vs, motive (.terms field vs))
    (ids : ∀ vs typeName, motive (.ids vs typeName))
    (range : ∀ field bounds, motive (.range field bounds))
    (regexp : ∀ field pattern, motive (.regexp field pattern))
    (not : ∀ f, motive f → motive (.not f))
    (and : ∀ fs, (∀ f ∈ fs, motive f) → motive (.and fs))
    (or : ∀ fs, (∀ f ∈ fs, motive f) → motive (.or fs))
    (passThrough : ∀ field operator v, motive (.passThrough field operator v)) (f : Filter) :
    motive f :=
  match f with
  | .matchAll => matchAll
  | .term field v => term field v
  | .terms field vs => terms field vs
  | .ids vs typeName => ids vs typeName
  | .range field bounds => range field bounds
  | .regexp field pattern => regexp field pattern
  | .not f => not f
      (Filter.induct matchAll term terms ids range regexp not and or passThrough f)
  | .and fs => and fs fun f _ =>
      Filter.induct matchAll term terms ids range regexp not and or passThrough f
  | .or fs => or fs fun f _ =>
      Filter.induct matchAll term terms ids range regexp not and or passThrough f
  | .passThrough field operator v => passThrough field operator v
termination_by f
decreasing_by
  · simp only [Filter.not.sizeOf_spec]
    omega
  all_goals
    have := List.sizeOf_lt_of_mem ‹f ∈ fs›
    simp only [Filter.and.sizeOf_spec, Filter.or.sizeOf_spec]
    omega

end CriteriaSearch

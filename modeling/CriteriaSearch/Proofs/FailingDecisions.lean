import CriteriaSearch.Proofs.Evaluation
import CriteriaSearch.Proofs.Filterings
import CriteriaSearch.Proofs.Induction

/-!
# Decisions that fail

A filter can fail to be decided on a document in two ways: it passes an operator through, which has
no meaning in the in-memory store, or it looks for a pattern that the library of regular expressions
refuses to compile.  Neither is noticed before deciding gets there.  A conjunction stops at its
first part that does not hold, a disjunction at its first part that does, and a pattern is compiled
only where its field has a value.

`Filter.Meets` says when deciding a filter gets to such a part, and the decision fails exactly then,
with the failure of that part (`Filter.holds_eq_error_iff`).  Where it is decided, its answer does
not depend on what the library refuses (`Filter.holds_unlimited_of_ok`).
-/

namespace CriteriaSearch

/-! ## Libraries that bound what they compile -/

namespace Pattern

/-- Escaping takes no character away. -/
lemma length_le_escape (literal : List Char) : literal.length ≤ (escape literal).length := by
  induction literal with
  | nil => exact Nat.le_refl 0
  | cons c rest ih =>
    rw [escape_cons, List.length_append, List.length_cons]
    split
    · rw [List.length_cons, List.length_singleton]
      omega
    · rw [List.length_singleton]
      omega

/-- A library that bounds what it compiles refuses to look for a longer text anywhere. -/
lemma refusal?_contains {limit : Nat} {literal : List Char} (h : limit < literal.length) :
    (PatternLibrary.bounded limit).refusal? (contains literal).source =
      some PatternLibrary.sizeReason := by
  have hsource : (contains literal).source =
      ['(', '?', 'i', ')', '^', '.', '*'] ++ escape literal ++ ['.', '*', '$'] := by
    simp [source, ignoresCase, anchored, body, contains, escape, Text.joinWith]
  have hlength : literal.length ≤ (contains literal).source.length := by
    rw [hsource, List.length_append, List.length_append]
    exact Nat.le_trans (length_le_escape literal) (by omega)
  exact if_neg (by omega)

end Pattern

namespace Filter

/-! ## Parts -/

/-- Whether a filter has another one in it, at any depth. -/
inductive HasPart : Filter → Filter → Prop
  | self (f : Filter) : HasPart f f
  | not {f g : Filter} (h : HasPart f g) : HasPart (.not f) g
  | and {fs : List Filter} {f g : Filter} (hf : f ∈ fs) (h : HasPart f g) : HasPart (.and fs) g
  | or {fs : List Filter} {f g : Filter} (hf : f ∈ fs) (h : HasPart f g) : HasPart (.or fs) g

/-- Whether a filter passes an operator on a field through, at any depth. -/
def PassesThrough (f : Filter) (operator field : String) : Prop :=
  ∃ v, f.HasPart (.passThrough field operator v)

/-- Whether a filter has a part that a store cannot decide, and fails with it: an operator that is
passed through, or a pattern that the library refuses. -/
inductive MayFail (library : PatternLibrary) (f : Filter) : StoreFailure → Prop
  | operator {operator field : String} (h : f.PassesThrough operator field) :
    MayFail library f (.unsupportedOperator operator field)
  | pattern {field reason : String} {p : Pattern} (h : f.HasPart (.regexp field p))
    (hrefused : library.refusal? p.source = some reason) :
    MayFail library f (.patternRefused reason)

/-- Whether deciding a filter on a document gets to a part that cannot be decided: all parts before
it hold in every conjunction around it, and fail in every disjunction. -/
inductive Meets (library : PatternLibrary) (id : String) (body : Record) :
    Filter → StoreFailure → Prop
  | passThrough (field operator : String) (v : Json) :
    Meets library id body (.passThrough field operator v) (.unsupportedOperator operator field)
  | regexp {field reason : String} {p : Pattern}
    (h : refusal? library body field p = some reason) :
    Meets library id body (.regexp field p) (.patternRefused reason)
  | not {f : Filter} {failure : StoreFailure} (h : Meets library id body f failure) :
    Meets library id body (.not f) failure
  | and {before after : List Filter} {f : Filter} {failure : StoreFailure}
    (hbefore : ∀ g ∈ before, g.holds library id body = .ok true)
    (h : Meets library id body f failure) :
    Meets library id body (.and (before ++ f :: after)) failure
  | or {before after : List Filter} {f : Filter} {failure : StoreFailure}
    (hbefore : ∀ g ∈ before, g.holds library id body = .ok false)
    (h : Meets library id body f failure) :
    Meets library id body (.or (before ++ f :: after)) failure

variable {library : PatternLibrary} {id : String} {body : Record} {f : Filter}
  {failure : StoreFailure}

lemma refusal?_eq_some {field reason : String} {p : Pattern}
    (h : refusal? library body field p = some reason) :
    library.refusal? p.source = some reason := by
  obtain ⟨-, -, hreason⟩ := Option.bind_eq_some_iff.1 h
  exact hreason

lemma MayFail.of_part {g : Filter} (h : g.MayFail library failure)
    (hparts : ∀ part, g.HasPart part → f.HasPart part) : f.MayFail library failure := by
  cases h with
  | operator hpasses =>
    obtain ⟨v, hv⟩ := hpasses
    exact .operator ⟨v, hparts _ hv⟩
  | pattern hpart hrefused => exact .pattern (hparts _ hpart) hrefused

/-- What is met is in the filter. -/
lemma Meets.mayFail (h : f.Meets library id body failure) : f.MayFail library failure := by
  induction h with
  | passThrough field operator v => exact .operator ⟨v, .self _⟩
  | regexp h => exact .pattern (.self _) (refusal?_eq_some h)
  | not _ ih => exact ih.of_part fun _ => .not
  | and _ _ ih => exact ih.of_part fun _ => .and (List.mem_append_right _ List.mem_cons_self)
  | or _ _ ih => exact ih.of_part fun _ => .or (List.mem_append_right _ List.mem_cons_self)

/-! ## Failing -/

/-- A conjunction fails with its first part that does not hold. -/
lemma allHold_eq_error_iff {fs : List Filter} :
    allHold library id body fs = .error failure ↔ ∃ before f after, fs = before ++ f :: after ∧
      (∀ g ∈ before, g.holds library id body = .ok true) ∧
        f.holds library id body = .error failure := by
  induction fs with
  | nil => simp [allHold]
  | cons g rest ih =>
    rw [exists_cut_cons_iff, allHold, ← ih]
    cases g.holds library id body with
    | error other => simp [bind, Except.bind]
    | ok b => cases b <;> simp [bind, Except.bind, pure, Except.pure]

/-- A disjunction fails with its first part that does not fail to hold. -/
lemma someHolds_eq_error_iff {fs : List Filter} :
    someHolds library id body fs = .error failure ↔ ∃ before f after, fs = before ++ f :: after ∧
      (∀ g ∈ before, g.holds library id body = .ok false) ∧
        f.holds library id body = .error failure := by
  induction fs with
  | nil => simp [someHolds]
  | cons g rest ih =>
    rw [exists_cut_cons_iff, someHolds, ← ih]
    cases g.holds library id body with
    | error other => simp [bind, Except.bind]
    | ok b => cases b <;> simp [bind, Except.bind, pure, Except.pure]

lemma holds_not_eq_error_iff :
    (Filter.not f).holds library id body = .error failure ↔
      f.holds library id body = .error failure := by
  rw [holds]
  cases f.holds library id body <;> simp [Except.map]

lemma holds_regexp_of_refused {field reason : String} {p : Pattern}
    (h : refusal? library body field p = some reason) :
    (Filter.regexp field p).holds library id body = .error (.patternRefused reason) := by
  rw [holds, h]

/-- A failing decision has met a part that cannot be decided. -/
lemma meets_of_holds (h : f.holds library id body = .error failure) :
    f.Meets library id body failure := by
  induction f with
  | not f ih => exact .not (ih (holds_not_eq_error_iff.1 h))
  | and fs ih =>
    rw [holds] at h
    obtain ⟨before, f, after, rfl, hbefore, hf⟩ := allHold_eq_error_iff.1 h
    exact .and hbefore (ih f (List.mem_append_right before List.mem_cons_self) hf)
  | or fs ih =>
    rw [holds] at h
    obtain ⟨before, f, after, rfl, hbefore, hf⟩ := someHolds_eq_error_iff.1 h
    exact .or hbefore (ih f (List.mem_append_right before List.mem_cons_self) hf)
  | passThrough field operator v =>
    rw [holds] at h
    exact Except.error.inj h ▸ .passThrough field operator v
  | regexp field p =>
    cases hrefusal : refusal? library body field p with
    | some reason =>
      rw [holds_regexp_of_refused hrefusal] at h
      exact Except.error.inj h ▸ .regexp hrefusal
    | none =>
      rw [holds, hrefusal] at h
      cases h
  | _ =>
    rw [holds] at h
    cases h

/-- A decision that meets a part that cannot be decided fails with it. -/
lemma Meets.holds_eq_error (h : f.Meets library id body failure) :
    f.holds library id body = .error failure := by
  induction h with
  | passThrough field operator v => rw [holds]
  | regexp h => exact holds_regexp_of_refused h
  | not _ ih => exact holds_not_eq_error_iff.2 ih
  | and hbefore _ ih =>
    rw [holds]
    exact allHold_eq_error_iff.2 ⟨_, _, _, rfl, hbefore, ih⟩
  | or hbefore _ ih =>
    rw [holds]
    exact someHolds_eq_error_iff.2 ⟨_, _, _, rfl, hbefore, ih⟩

/-- **A decision fails exactly where it meets a part that cannot be decided, with its failure.** -/
theorem holds_eq_error_iff :
    f.holds library id body = .error failure ↔ f.Meets library id body failure :=
  ⟨meets_of_holds, Meets.holds_eq_error⟩

/-- A decision that meets nothing of the kind has an answer. -/
lemma exists_holds_eq_ok (h : ∀ failure, ¬f.Meets library id body failure) :
    ∃ b, f.holds library id body = .ok b := by
  cases hholds : f.holds library id body with
  | ok b => exact ⟨b, rfl⟩
  | error failure => exact absurd (meets_of_holds hholds) (h failure)

/-! ## Without refusals -/

section Unlimited

variable {fs : List Filter} {b : Bool}

lemma allHold_unlimited_of_ok
    (ih : ∀ f ∈ fs, ∀ b, f.holds library id body = .ok b → f.holds .unlimited id body = .ok b)
    (h : allHold library id body fs = .ok b) : allHold .unlimited id body fs = .ok b := by
  induction fs with
  | nil => rwa [allHold] at h ⊢
  | cons f rest ihrest =>
    rw [List.forall_mem_cons] at ih
    rw [allHold] at h ⊢
    obtain ⟨first, hf, hrest⟩ := bind_eq_ok_iff.1 h
    rw [ih.1 first hf]
    cases first with
    | true => exact ihrest ih.2 hrest
    | false => exact hrest

lemma someHolds_unlimited_of_ok
    (ih : ∀ f ∈ fs, ∀ b, f.holds library id body = .ok b → f.holds .unlimited id body = .ok b)
    (h : someHolds library id body fs = .ok b) : someHolds .unlimited id body fs = .ok b := by
  induction fs with
  | nil => rwa [someHolds] at h ⊢
  | cons f rest ihrest =>
    rw [List.forall_mem_cons] at ih
    rw [someHolds] at h ⊢
    obtain ⟨first, hf, hrest⟩ := bind_eq_ok_iff.1 h
    rw [ih.1 first hf]
    cases first with
    | true => exact hrest
    | false => exact ihrest ih.2 hrest

@[simp] lemma refusal?_unlimited (body : Record) (field : String) (p : Pattern) :
    refusal? .unlimited body field p = none := by
  unfold refusal?
  cases body.resolve? field <;> rfl

/-- **An answer does not depend on what the library refuses.** -/
theorem holds_unlimited_of_ok (h : f.holds library id body = .ok b) :
    f.holds .unlimited id body = .ok b := by
  induction f generalizing b with
  | not f ih =>
    rw [holds] at h ⊢
    cases hf : f.holds library id body with
    | error e =>
      rw [hf] at h
      cases h
    | ok inner =>
      rw [hf] at h
      rw [ih hf]
      exact h
  | and fs ih =>
    rw [holds] at h ⊢
    exact allHold_unlimited_of_ok (fun f hf _ => ih f hf) h
  | or fs ih =>
    rw [holds] at h ⊢
    exact someHolds_unlimited_of_ok (fun f hf _ => ih f hf) h
  | regexp field p =>
    cases hrefusal : refusal? library body field p with
    | some reason =>
      rw [holds_regexp_of_refused hrefusal] at h
      cases h
    | none =>
      rw [holds, hrefusal] at h
      rw [holds, refusal?_unlimited]
      exact h
  | passThrough field operator v =>
    rw [holds] at h
    cases h
  | _ =>
    rw [holds] at h ⊢
    exact h

/-- What is before an operator that is met is decided, so it is met without refusals as well. -/
lemma Meets.unlimited {operator field : String}
    (h : f.Meets library id body (.unsupportedOperator operator field)) :
    f.Meets .unlimited id body (.unsupportedOperator operator field) := by
  generalize hfailure : StoreFailure.unsupportedOperator operator field = failure at h
  induction h with
  | passThrough field operator v => exact .passThrough field operator v
  | regexp _ => cases hfailure
  | not _ ih => exact .not (ih hfailure)
  | and hbefore _ ih => exact .and (fun g hg => holds_unlimited_of_ok (hbefore g hg)) (ih hfailure)
  | or hbefore _ ih => exact .or (fun g hg => holds_unlimited_of_ok (hbefore g hg)) (ih hfailure)

/-- **A filter that has an answer without refusals has the same one, unless it meets a pattern that
is refused.** -/
theorem holds_eq_ok_of_unlimited (h : f.holds .unlimited id body = .ok b)
    (hnone : ∀ reason, ¬f.Meets library id body (.patternRefused reason)) :
    f.holds library id body = .ok b := by
  have hnothing : ∀ failure, ¬f.Meets library id body failure := by
    intro failure hmeets
    cases hmeets.mayFail with
    | operator _ => cases hmeets.unlimited.holds_eq_error.symm.trans h
    | pattern _ _ => exact hnone _ hmeets
  obtain ⟨answer, hanswer⟩ := exists_holds_eq_ok hnothing
  rw [hanswer, ← holds_unlimited_of_ok hanswer, h]

/-- Whether a filter has an answer for a document, unless deciding it gets to a pattern that is
refused; then that is the failure. -/
def AnswersOrRefuses (library : PatternLibrary) (id : String) (body : Record) (f : Filter)
    (answer : Bool) : Prop :=
  f.holds library id body = .ok answer ∨
    ∃ reason, f.Meets library id body (.patternRefused reason) ∧
      f.holds library id body = .error (.patternRefused reason)

lemma answersOrRefuses_of_unlimited (h : f.holds .unlimited id body = .ok b) :
    f.AnswersOrRefuses library id body b := by
  by_cases hmet : ∃ reason, f.Meets library id body (.patternRefused reason)
  · obtain ⟨reason, hmeets⟩ := hmet
    exact .inr ⟨reason, hmeets, hmeets.holds_eq_error⟩
  · exact .inl (holds_eq_ok_of_unlimited h (not_exists.1 hmet))

/-- A library that compiles everything refuses no pattern. -/
lemma not_meets_unlimited (reason : String) :
    ¬f.Meets .unlimited id body (.patternRefused reason) := by
  intro hmeets
  cases hmeets.mayFail with
  | pattern _ hrefused => cases hrefused

lemma AnswersOrRefuses.holds_unlimited (h : f.AnswersOrRefuses .unlimited id body b) :
    f.holds .unlimited id body = .ok b := by
  rcases h with hanswer | ⟨reason, hmeets, -⟩
  · exact hanswer
  · exact absurd hmeets (not_meets_unlimited reason)

end Unlimited

end Filter

end CriteriaSearch

import CriteriaSearch.Proofs.Fragments
import CriteriaSearch.Proofs.Induction
import CriteriaSearch.Proofs.Records
import Mathlib.Data.List.DropRight
import Mathlib.Data.List.Induction

/-!
# The order of folded fragments

The fold lists the operators of the fragments in the order in which they first occur
(`keys_folded`).  Under each operator it keeps the last fragment.  Where the last ones are ranges it
keeps the range of all their bounds instead, on the field of the first of them: a fragment of
another kind under the same operator, which only a passed-through one can be, ends the run
(`settled`, `collapse_eq_settled`).

Merging bounds repeats none and the fold repeats no operator, so nothing that is compiled from an
expression repeats any, at any depth of negation (`isTidy_ofExpression`).
-/

namespace CriteriaSearch

namespace Filter

/-! ## Bounds in order -/

/-- The bounds of entries in the order of their first appearance, each with its last value. -/
def lastValues (entries : List (RangeBound × Json)) : List (RangeBound × Json) :=
  (entries.map Prod.fst).eraseDups.filterMap fun b =>
    (entries.reverse.lookup b).map fun v => (b, v)

/-- A new bound goes last. -/
lemma setBound_of_not_mem {bounds : List (RangeBound × Json)} {bound : RangeBound} (v : Json)
    (h : bound ∉ bounds.map Prod.fst) : setBound bounds bound v = bounds ++ [(bound, v)] := by
  induction bounds with
  | nil => rfl
  | cons e rest ih =>
    obtain ⟨k, w⟩ := e
    rw [List.map_cons, List.mem_cons, not_or] at h
    rw [setBound, if_neg (Ne.symm h.1), ih h.2, List.cons_append]

lemma setBounds_append (bounds added others : List (RangeBound × Json)) :
    setBounds bounds (added ++ others) = setBounds (setBounds bounds added) others :=
  List.foldl_append

/-- Bounds that are set one after another stand in the order of their first appearance. -/
lemma keys_setBounds (entries : List (RangeBound × Json)) :
    (setBounds [] entries).map Prod.fst = (entries.map Prod.fst).eraseDups := by
  induction entries using List.reverseRecOn with
  | nil => rfl
  | append_singleton entries e ih =>
    rw [setBounds_append, setBounds_cons, setBounds_nil, keys_setBound, ih, List.map_append,
      List.map_singleton, eraseDups_concat]
    simp only [List.mem_eraseDups]

/-- **Setting bounds one after another leaves each with its last value.** -/
lemma setBounds_eq_lastValues (entries : List (RangeBound × Json)) :
    setBounds [] entries = lastValues entries := by
  have hnodup : ((setBounds [] entries).map Prod.fst).Nodup := nodup_setBounds entries (by simp)
  have hvalue : ∀ e ∈ setBounds [] entries,
      (entries.reverse.lookup e.1).map (fun v => (e.1, v)) = some e := by
    intro e he
    have hlookup := lookup_eq_some_of_mem hnodup he
    rw [lookup_setBounds, List.lookup_nil, Option.or_none] at hlookup
    rw [hlookup, Option.map_some]
  rw [lastValues, ← keys_setBounds, List.filterMap_map]
  exact List.filterMap_some.symm.trans (List.filterMap_congr hvalue).symm

lemma setBounds_lastValues (entries added : List (RangeBound × Json)) :
    setBounds (lastValues entries) added = lastValues (entries ++ added) := by
  rw [← setBounds_eq_lastValues, ← setBounds_eq_lastValues, setBounds_append]

/-- Distinct bounds are set as they are. -/
lemma setBounds_of_nodup {bounds : List (RangeBound × Json)} (h : (bounds.map Prod.fst).Nodup) :
    setBounds [] bounds = bounds := by
  induction bounds using List.reverseRecOn with
  | nil => rfl
  | append_singleton bounds e ih =>
    rw [List.map_append, List.map_singleton, ← List.concat_eq_append, List.nodup_concat] at h
    rw [setBounds_append, setBounds_cons, setBounds_nil, ih h.2, setBound_of_not_mem e.2 h.1]

/-! ## The fragments of one operator -/

/-- Whether a filter is a range. -/
def isRange : Filter → Bool
  | range _ _ => true
  | _ => false

/-- The bounds of a range. -/
def boundsOf : Filter → List (RangeBound × Json)
  | range _ bounds => bounds
  | _ => []

/-- The ranges that a list ends with. -/
def closingRanges (fragments : List Filter) : List Filter :=
  fragments.rtakeWhile isRange

/-- What fragments of one operator leave: the last of them or, where that is a range, the range of
the bounds of all ranges that the list ends with, on the field of the first of these. -/
def settled (fragments : List Filter) : Option Filter :=
  match closingRanges fragments with
  | range field bounds :: rest =>
    some (range field (lastValues (bounds ++ rest.flatMap boundsOf)))
  | _ => fragments.getLast?

lemma settled_of_closing {fragments rest : List Filter} {field : String}
    {bounds : List (RangeBound × Json)} (h : closingRanges fragments = range field bounds :: rest) :
    settled fragments = some (range field (lastValues (bounds ++ rest.flatMap boundsOf))) := by
  rw [settled, h]

lemma settled_of_none_closing {fragments : List Filter} (h : closingRanges fragments = []) :
    settled fragments = fragments.getLast? := by
  rw [settled, h]

/-- A list ends with no range, or with ranges from a first one on. -/
lemma closingRanges_cases (fragments : List Filter) :
    closingRanges fragments = [] ∨
      ∃ field bounds rest, closingRanges fragments = range field bounds :: rest := by
  cases hclosing : closingRanges fragments with
  | nil => exact .inl rfl
  | cons f rest =>
    have hmem : f ∈ fragments.rtakeWhile isRange := by
      rw [← closingRanges, hclosing]
      exact List.mem_cons_self
    have hrange := List.mem_rtakeWhile_imp hmem
    cases f with
    | range field bounds => exact .inr ⟨field, bounds, rest, rfl⟩
    | _ => cases hrange

lemma not_range_of_none_closing {fragments : List Filter} (h : closingRanges fragments = []) :
    ∀ f ∈ fragments.getLast?, f.isRange = false := by
  intro f hf
  obtain ⟨hne, rfl⟩ := List.mem_getLast?_eq_getLast hf
  exact Bool.eq_false_iff.2 (List.rtakeWhile_eq_nil_iff.1 h hne)

lemma collapse_concat (fragments : List Filter) (f : Filter) :
    collapse (fragments ++ [f]) = some (joined (collapse fragments) f) :=
  List.foldl_concat _ _ _ _

/-- A fragment takes the place of another, unless both are ranges. -/
lemma joined_of_not_range {kept : Option Filter} {f : Filter}
    (h : f.isRange = false ∨ ∀ g ∈ kept, g.isRange = false) : joined kept f = f := by
  cases kept with
  | none => rfl
  | some g =>
    cases g with
    | range field bounds =>
      cases f with
      | range field' added => rcases h with h | h <;> simp [isRange] at h
      | _ => rfl
    | _ => rfl

/-- **Fragments of one operator leave the last one, and ranges at the end merge.** -/
theorem collapse_eq_settled {fragments : List Filter}
    (h : ∀ field bounds, range field bounds ∈ fragments → (bounds.map Prod.fst).Nodup) :
    collapse fragments = settled fragments := by
  -- The induction is on the fragments from the front, since each of them meets what is kept of
  -- those before it.
  induction fragments using List.reverseRecOn with
  | nil => rfl
  | append_singleton fragments f ih =>
    have ih := ih fun field bounds hmem => h field bounds (List.mem_append_left _ hmem)
    rw [collapse_concat, ih]
    cases hf : f.isRange with
    | false =>
      have hclosing : closingRanges (fragments ++ [f]) = [] :=
        List.rtakeWhile_concat_neg _ _ _ (by simp [hf])
      rw [settled_of_none_closing hclosing, List.getLast?_concat, joined_of_not_range (.inl hf)]
    | true =>
      have hclosing : closingRanges (fragments ++ [f]) = closingRanges fragments ++ [f] :=
        List.rtakeWhile_concat_pos _ _ _ hf
      obtain ⟨field, added, rfl⟩ : ∃ field added, f = range field added := by
        cases f with
        | range field added => exact ⟨field, added, rfl⟩
        | _ => cases hf
      have hadded := setBounds_of_nodup (h field added (by simp))
      rcases closingRanges_cases fragments with hnone | ⟨first, bounds, rest, hrest⟩
      · rw [hnone, List.nil_append] at hclosing
        rw [settled_of_closing hclosing, settled_of_none_closing hnone, joined_of_not_range,
          List.flatMap_nil, List.append_nil, ← setBounds_eq_lastValues, hadded]
        exact .inr (not_range_of_none_closing hnone)
      · rw [hrest, List.cons_append] at hclosing
        rw [settled_of_closing hclosing, settled_of_closing hrest, joined, supersede_range,
          setBounds_lastValues, List.flatMap_append, List.flatMap_singleton, List.append_assoc]
        rfl

/-! ## The fold in order -/

/-- The fold lists operators in the order of their first occurrence. -/
lemma keys_folded (fragments : List Filter) :
    (folded fragments).map operatorKey = (fragments.map operatorKey).eraseDups := by
  induction fragments using List.reverseRecOn with
  | nil => rfl
  | append_singleton fragments f ih =>
    have hfold : folded (fragments ++ [f]) = foldIn (folded fragments) f :=
      List.foldl_concat _ _ _ _
    rw [hfold, keys_foldIn, ih, List.map_append, List.map_singleton, eraseDups_concat]
    simp only [List.mem_eraseDups]

/-- **What the fold holds is what the fragments of its operator leave.** -/
lemma settled_of_mem_folded {fragments : List Filter} {part : Filter}
    (h : ∀ field bounds, range field bounds ∈ fragments → (bounds.map Prod.fst).Nodup)
    (hpart : part ∈ folded fragments) :
    settled (fragments.filter fun f => f.operatorKey == part.operatorKey) = some part := by
  rw [← collapse_eq_settled fun field bounds hmem => h field bounds (List.mem_of_mem_filter hmem)]
  exact (mem_folded_iff fragments part).1 hpart

/-! ## What is compiled from expressions -/

/-- Whether a filter stands in another, at any depth. -/
inductive StandsIn : Filter → Filter → Prop
  | self (f : Filter) : StandsIn f f
  | not {g f : Filter} (h : StandsIn g f) : StandsIn g (.not f)
  | and {g f : Filter} {fs : List Filter} (hf : f ∈ fs) (h : StandsIn g f) : StandsIn g (.and fs)
  | or {g f : Filter} {fs : List Filter} (hf : f ∈ fs) (h : StandsIn g f) : StandsIn g (.or fs)

/-- Whether a filter by itself repeats nothing: a range no bound, a conjunction no operator. -/
def RepeatsNothing : Filter → Prop
  | range _ bounds => (bounds.map Prod.fst).Nodup
  | .and fs => (fs.map operatorKey).Nodup
  | _ => True

/-- Whether nothing that stands in a filter repeats anything. -/
def IsTidy (f : Filter) : Prop :=
  ∀ g : Filter, g.StandsIn f → g.RepeatsNothing

lemma IsTidy.not {f : Filter} (h : f.IsTidy) : (Filter.not f).IsTidy := by
  intro g hg
  cases hg with
  | self => trivial
  | not hg => exact h g hg

lemma IsTidy.all {fs : List Filter} (hkeys : (fs.map operatorKey).Nodup)
    (h : ∀ f ∈ fs, f.IsTidy) : (all fs).IsTidy := by
  match fs, h with
  | [], _ =>
    intro g hg
    cases hg
    trivial
  | [f], h => exact h f List.mem_cons_self
  | _ :: _ :: _, h =>
    intro g hg
    cases hg with
    | self => exact hkeys
    | and hf hg => exact h _ hf g hg

/-- A range is tidy when its bounds are distinct. -/
lemma isTidy_range {field : String} {bounds : List (RangeBound × Json)}
    (h : (bounds.map Prod.fst).Nodup) : (range field bounds).IsTidy := by
  intro g hg
  cases hg
  exact h

lemma IsTidy.supersede {f g : Filter} (hf : f.IsTidy) (hg : g.IsTidy) :
    (supersede f g).IsTidy := by
  unfold Filter.supersede
  split
  · next field bounds _ added =>
    exact isTidy_range (nodup_setBounds added (hf (range field bounds) (.self _)))
  · exact hg

/-- **Folding what repeats nothing repeats nothing.** -/
lemma isTidy_foldFragments {fragments : List Filter} (h : ∀ f ∈ fragments, f.IsTidy) :
    (foldFragments fragments).IsTidy :=
  .all (nodup_folded fragments) (forall_mem_folded (fun _ _ => IsTidy.supersede) h)

/-- **No range that is compiled from an expression repeats a bound, and no conjunction an
operator.** -/
lemma isTidy_ofExpression (schema : Schema) (typeName field : String) (e : Expression) :
    (ofExpression schema typeName field e).IsTidy := by
  induction e with
  | literal v =>
    rw [ofExpression, ofLiteral]
    intro g hg
    split at hg
    · split at hg <;> cases hg <;> trivial
    · cases hg
      trivial
  | oneOf vs =>
    rw [ofExpression, ofList]
    intro g hg
    split at hg <;> cases hg <;> trivial
  | modifiers ms ih =>
    rw [ofExpression, ofModifiers_eq_map]
    refine isTidy_foldFragments fun f hf => ?_
    obtain ⟨m, hm, rfl⟩ := List.mem_map.1 hf
    cases m with
    | not inner => exact .not (ih inner hm)
    | range bound v => exact isTidy_range (List.nodup_singleton bound)
    | text how v =>
      intro g hg
      cases v <;> cases hg <;> trivial
    | other operator v =>
      intro g hg
      cases hg
      trivial

/-- **The fold keeps one fragment for each operator, in the order of their first occurrence: the
last one, or all ranges from the last fragment of another kind on, merged.**  So nothing compiled
from an expression repeats a bound of a range or an operator of a conjunction. -/
theorem foldFragments_keeps_last (fragments : List Filter)
    (h : ∀ field bounds, range field bounds ∈ fragments → (bounds.map Prod.fst).Nodup) :
    (∃ parts, foldFragments fragments = all parts ∧
      parts.map operatorKey = (fragments.map operatorKey).eraseDups ∧
      (parts.map operatorKey).Nodup ∧
      ∀ part ∈ parts,
        settled (fragments.filter fun f => f.operatorKey == part.operatorKey) = some part) ∧
    ∀ (schema : Schema) (typeName field : String) (e : Expression) (g : Filter),
      g.StandsIn (ofExpression schema typeName field e) → g.RepeatsNothing :=
  ⟨⟨folded fragments, rfl, keys_folded fragments, nodup_folded fragments,
    fun _ => settled_of_mem_folded h⟩, isTidy_ofExpression⟩

/-- Ranges merge behind a passed-through operator of their name, on the field of the first of them,
and the bound that is set again keeps its place. -/
theorem foldFragments_keeps_last_merging :
    let n (i : Int) : Json := .num (.int i)
    let fragments : List Filter :=
      [range "a" [(.gte, n 0)], regexp "a" (.startsWith ['x']), passThrough "a" "range" (n 1),
        range "b" [(.gt, n 2), (.lt, n 3)], regexp "a" (.endsWith ['z']), range "a" [(.gt, n 4)]]
    (∀ field bounds, range field bounds ∈ fragments → (bounds.map Prod.fst).Nodup) ∧
      ∃ parts, foldFragments fragments = all parts ∧ parts.map operatorKey = ["range", "regexp"] ∧
        ∀ part ∈ parts, part.operatorKey = "range" →
          part = range "b" [(.gt, n 4), (.lt, n 3)] := by
  intro n fragments
  have hdistinct : ∀ field bounds, range field bounds ∈ fragments →
      (bounds.map Prod.fst).Nodup := by
    intro field bounds hmem
    simp only [fragments, List.mem_cons, List.not_mem_nil, or_false] at hmem
    rcases hmem with h | h | h | h | h | h <;> cases h <;> decide
  obtain ⟨⟨parts, hfold, hkeys, -, hsettled⟩, -⟩ := foldFragments_keeps_last fragments hdistinct
  refine ⟨hdistinct, parts, hfold, hkeys.trans (by decide), fun part hpart hkey => ?_⟩
  have hrange := hsettled part hpart
  rw [hkey] at hrange
  exact (Option.some.inj hrange).symm

end Filter

end CriteriaSearch

import CriteriaSearch.Proofs.Coercions
import CriteriaSearch.Proofs.EntryReading
import CriteriaSearch.Proofs.Fragments
import CriteriaSearch.Proofs.Induction
import CriteriaSearch.Proofs.Successes

/-!
# What compiled queries look like

Reading and compiling criteria leave traces in the query.  An object in a where-clause is a map of
modifiers, so no value that is asked to be equal to a field is an object; the fold sets each bound
once, so the bounds of a range are distinct; the window is given by unsigned 64-bit integers.
`Filter.wellFormed_ofWhere` and `Criteria.wellFormed_of_ofJson?` say so of everything that was read.
-/

namespace CriteriaSearch

/-! ## Clauses that were read -/

/-- An expression whose literals are not objects, at any depth of negation. -/
inductive Expression.ObjectFree : Expression → Prop
  | literal {v : Json} (hv : v.obj? = none) : ObjectFree (.literal v)
  | oneOf (vs : List Json) : ObjectFree (.oneOf vs)
  | modifiers {ms : List Modifier} (hms : ∀ e, Modifier.not e ∈ ms → ObjectFree e) :
    ObjectFree (.modifiers ms)

/-- A clause whose literals are not objects. -/
inductive Clause.ObjectFree : Clause → Prop
  | fields {fs : List (String × Expression)} (hfs : ∀ e ∈ fs, e.2.ObjectFree) :
    ObjectFree (.fields fs)
  | and {cs : List Clause} (hcs : ∀ c ∈ cs, ObjectFree c) : ObjectFree (.and cs)
  | or {cs : List Clause} (hcs : ∀ c ∈ cs, ObjectFree c) : ObjectFree (.or cs)
  | all {cs : List Clause} (hcs : ∀ c ∈ cs, ObjectFree c) : ObjectFree (.all cs)

/-- A negation that was read is the reading of a value of the object. -/
lemma Modifier.exists_of_not_mem_ofEntries {entries : List (String × Json)} {e : Expression}
    (h : Modifier.not e ∈ Modifier.ofEntries entries) :
    ∃ entry ∈ entries, e = Expression.ofJson entry.2 := by
  rw [ofEntries_eq_map, List.mem_map] at h
  obtain ⟨entry, hentry, he⟩ := h
  refine ⟨entry, hentry, ?_⟩
  unfold ofEntry at he
  split at he
  · exact (Modifier.not.inj he).symm
  all_goals cases he

lemma Expression.objectFree_ofJson (v : Json) : (Expression.ofJson v).ObjectFree := by
  induction v with
  | arr items => exact .oneOf items
  | obj entries ih =>
    refine .modifiers fun e he => ?_
    obtain ⟨entry, hentry, rfl⟩ := Modifier.exists_of_not_mem_ofEntries he
    exact ih entry hentry
  | _ => exact .literal rfl

namespace Clause

/-- Parts whose literals are not objects. -/
def Parts.ObjectFree (p : Parts) : Prop :=
  (∀ e ∈ p.fields, e.2.ObjectFree) ∧ ∀ c ∈ p.combinators, c.ObjectFree

lemma Parts.objectFree_append {a b : Parts} (ha : a.ObjectFree) (hb : b.ObjectFree) :
    (a.append b).ObjectFree :=
  ⟨List.forall_mem_append.2 ⟨ha.1, hb.1⟩, List.forall_mem_append.2 ⟨ha.2, hb.2⟩⟩

lemma Parts.objectFree_toClause {p : Parts} (h : p.ObjectFree) : p.toClause.ObjectFree := by
  obtain ⟨hfields, hcombinators⟩ := h
  unfold Parts.toClause
  split
  · exact .fields hfields
  · next c _ heq => exact hcombinators c (by simp [heq])
  · exact .all hcombinators
  · exact .all (List.forall_mem_cons.2 ⟨.fields hfields, hcombinators⟩)

/-- A `like` entry holds no literal. -/
lemma objectFree_likeFields (patterns : List (String × Json)) :
    ∀ e ∈ likeFields patterns, e.2.ObjectFree := by
  intro e he
  obtain ⟨pattern, -, rfl⟩ := List.mem_map.1 he
  exact .modifiers fun e he => by simp at he

/-- What the readers make of a value, as a clause and as a list of clauses. -/
def ReadsObjectFree (v : Json) : Prop :=
  (∀ c, ofJson? v = .ok c → c.ObjectFree) ∧
    ∀ items, v = .arr items → ∀ cs, ofItems items = .ok cs → ∀ c ∈ cs, c.ObjectFree

lemma objectFree_partOf {entry : String × Json} {here : Parts} (ih : ReadsObjectFree entry.2)
    (h : partOf entry = .ok here) : here.ObjectFree := by
  unfold partOf at h
  split at h
  · split at h
    · next items hitems =>
      obtain ⟨children, hchildren, h⟩ := bind_eq_ok_iff.1 h
      obtain rfl := pure_eq_ok_iff.1 h
      have hcs := ih.2 items hitems children hchildren
      refine ⟨List.forall_mem_nil _, ?_⟩
      rw [List.forall_mem_singleton]
      split
      · exact .and hcs
      · exact .or hcs
    · obtain rfl := pure_eq_ok_iff.1 h
      exact ⟨List.forall_mem_nil _, List.forall_mem_nil _⟩
  · split at h
    · split at h
      · next patterns _ =>
        obtain rfl := pure_eq_ok_iff.1 h
        exact ⟨objectFree_likeFields patterns, List.forall_mem_nil _⟩
      · cases h
    · obtain rfl := pure_eq_ok_iff.1 h
      refine ⟨?_, List.forall_mem_nil _⟩
      rw [List.forall_mem_singleton]
      exact Expression.objectFree_ofJson entry.2

lemma objectFree_partsOf {entries : List (String × Json)} {p : Parts}
    (ih : ∀ e ∈ entries, ReadsObjectFree e.2) (h : partsOf entries = .ok p) : p.ObjectFree := by
  induction entries generalizing p with
  | nil =>
    obtain rfl := Except.ok.inj h
    exact ⟨List.forall_mem_nil _, List.forall_mem_nil _⟩
  | cons entry rest ihrest =>
    rw [List.forall_mem_cons] at ih
    obtain ⟨here, others, hhere, hothers, rfl⟩ := partsOf_cons_eq_ok_iff.1 h
    exact Parts.objectFree_append (objectFree_partOf ih.1 hhere) (ihrest ih.2 hothers)

lemma objectFree_ofItems {items : List Json} {cs : List Clause}
    (ih : ∀ v ∈ items, ReadsObjectFree v) (h : ofItems items = .ok cs) :
    ∀ c ∈ cs, c.ObjectFree := by
  induction items generalizing cs with
  | nil =>
    obtain rfl := Except.ok.inj h
    simp
  | cons v rest ihrest =>
    rw [List.forall_mem_cons] at ih
    obtain ⟨c, others, hc, hothers, rfl⟩ := ofItems_cons_eq_ok_iff.1 h
    exact List.forall_mem_cons.2 ⟨ih.1.1 c hc, ihrest ih.2 hothers⟩

lemma readsObjectFree (v : Json) : ReadsObjectFree v := by
  induction v with
  | arr items ih =>
    refine ⟨fun c h => by simp [ofJson?] at h, ?_⟩
    rintro _ ⟨⟩ cs hcs
    exact objectFree_ofItems ih hcs
  | obj entries ih =>
    refine ⟨fun c h => ?_, by rintro _ ⟨⟩⟩
    obtain ⟨p, hparts, rfl⟩ := ofJson?_obj_eq_ok_iff.1 h
    exact Parts.objectFree_toClause (objectFree_partsOf ih hparts)
  | _ => exact ⟨fun c h => by simp [ofJson?] at h, by rintro _ ⟨⟩⟩

/-- **No literal of a clause that was read is an object.** -/
theorem objectFree_of_ofJson? {v : Json} {c : Clause} (h : ofJson? v = .ok c) : c.ObjectFree :=
  (readsObjectFree v).1 c h

end Clause

/-! ## Criteria that were read -/

/-- Criteria as they come from reading: no literal is an object, and the window is given by unsigned
64-bit integers. -/
structure Criteria.WellFormed (c : Criteria) : Prop where
  clause : ∀ w ∈ c.clause, w.ObjectFree
  limit : ∀ n ∈ c.limit, n < 0x10000000000000000
  skip : ∀ n ∈ c.skip, n < 0x10000000000000000

namespace Criteria

lemma lt_of_unsigned? {v : Json} {n : Nat} (h : v.unsigned? = some n) :
    n < 0x10000000000000000 := by
  cases v with
  | num x =>
    cases x with
    | int i =>
      simp only [Json.unsigned?, JsonNumber.toUnsigned?] at h
      split at h
      · next hrange =>
        obtain rfl := Option.some.inj h
        omega
      · simp at h
    | float x => simp [Json.unsigned?, JsonNumber.toUnsigned?] at h
  | _ => simp [Json.unsigned?] at h

lemma lt_of_windowOf {key : String} {v : Json} {bound : Option Nat}
    (h : windowOf key v = .ok bound) : ∀ n ∈ bound, n < 0x10000000000000000 := by
  unfold windowOf at h
  split at h
  · obtain rfl := Except.ok.inj h
    simp
  · split at h
    · next n hn =>
      obtain rfl := Except.ok.inj h
      intro k hk
      obtain rfl := Option.some.inj hk
      exact lt_of_unsigned? hn
    · cases h

/-- One entry keeps criteria well-formed. -/
lemma wellFormed_readEntry {c c' : Criteria} {entry : String × Json} (hc : c.WellFormed)
    (h : readEntry c entry = .ok c') : c'.WellFormed := by
  unfold readEntry at h
  dsimp only at h
  split at h
  · split at h
    · obtain rfl := pure_eq_ok_iff.1 h
      exact ⟨by simp, hc.limit, hc.skip⟩
    · obtain ⟨w, hw, h⟩ := bind_eq_ok_iff.1 h
      obtain rfl := pure_eq_ok_iff.1 h
      refine ⟨?_, hc.limit, hc.skip⟩
      intro w' hw'
      obtain rfl := Option.some.inj hw'
      exact Clause.objectFree_of_ofJson? hw
  split at h
  · obtain ⟨keys, -, h⟩ := bind_eq_ok_iff.1 h
    obtain rfl := pure_eq_ok_iff.1 h
    exact ⟨hc.clause, hc.limit, hc.skip⟩
  split at h
  · obtain ⟨limit, hlimit, h⟩ := bind_eq_ok_iff.1 h
    obtain rfl := pure_eq_ok_iff.1 h
    exact ⟨hc.clause, lt_of_windowOf hlimit, hc.skip⟩
  split at h
  · obtain ⟨skip, hskip, h⟩ := bind_eq_ok_iff.1 h
    obtain rfl := pure_eq_ok_iff.1 h
    exact ⟨hc.clause, hc.limit, lt_of_windowOf hskip⟩
  split at h
  · split at h
    · obtain rfl := pure_eq_ok_iff.1 h
      exact hc
    · obtain rfl := pure_eq_ok_iff.1 h
      exact ⟨hc.clause, hc.limit, hc.skip⟩
  split at h
  · obtain ⟨fields, -, h⟩ := bind_eq_ok_iff.1 h
    obtain rfl := pure_eq_ok_iff.1 h
    exact ⟨hc.clause, hc.limit, hc.skip⟩
  · obtain rfl := pure_eq_ok_iff.1 h
    exact hc

/-- **Criteria that were read are well-formed.** -/
theorem wellFormed_of_ofJson? {v : Json} {c : Criteria} (h : ofJson? v = .ok c) :
    c.WellFormed := by
  have hnone : WellFormed {} := ⟨by simp, by simp, by simp⟩
  unfold ofJson? at h
  split at h
  · exact Except.ok.inj h ▸ hnone
  · exact foldlM_keeps (fun _ _ _ => wellFormed_readEntry) hnone h
  · cases h

end Criteria

/-! ## Filters that were compiled -/

/-- A filter that asks for no object as the value of a field and sets no bound twice. -/
inductive Filter.WellFormed : Filter → Prop
  | matchAll : WellFormed .matchAll
  | term (field : String) {v : Json} (hv : v.obj? = none) : WellFormed (.term field v)
  | terms (field : String) (vs : List Json) : WellFormed (.terms field vs)
  | ids (vs : List Json) (typeName : Option String) : WellFormed (.ids vs typeName)
  | range (field : String) {bounds : List (RangeBound × Json)}
    (hbounds : (bounds.map Prod.fst).Nodup) : WellFormed (.range field bounds)
  | regexp (field : String) (pattern : Pattern) : WellFormed (.regexp field pattern)
  | not {f : Filter} (hf : WellFormed f) : WellFormed (.not f)
  | and {fs : List Filter} (hfs : ∀ f ∈ fs, WellFormed f) : WellFormed (.and fs)
  | or {fs : List Filter} (hfs : ∀ f ∈ fs, WellFormed f) : WellFormed (.or fs)
  | passThrough (field operator : String) (v : Json) :
    WellFormed (.passThrough field operator v)

/-- Coercion makes no objects. -/
lemma Json.obj?_coerce (type : Option AttributeType) {v : Json} (h : v.obj? = none) :
    (v.coerce type).obj? = none := by
  cases v with
  | str s =>
    rcases Json.cases_of_coerce_str type s with h | h | ⟨b, h⟩ | ⟨n, h⟩ <;> rw [h] <;> rfl
  | obj entries => simp [Json.obj?] at h
  | _ => rfl

namespace Filter

variable {schema : Schema} {typeName field : String}

lemma wellFormed_all {fs : List Filter} (h : ∀ f ∈ fs, f.WellFormed) : (all fs).WellFormed := by
  match fs, h with
  | [], _ => exact .matchAll
  | [f], h => exact h f List.mem_cons_self
  | _ :: _ :: _, h => exact .and h

lemma wellFormed_supersede {f g : Filter} (hf : f.WellFormed) (hg : g.WellFormed) :
    (supersede f g).WellFormed := by
  unfold supersede
  split
  · next field bounds _ added =>
    cases hf with
    | range _ hbounds => exact .range field (nodup_setBounds added hbounds)
  · exact hg

lemma wellFormed_ofExpression {e : Expression} (h : e.ObjectFree) :
    (ofExpression schema typeName field e).WellFormed := by
  induction h with
  | @literal v hv =>
    simp only [ofExpression, ofLiteral]
    split
    · split
      · exact .ids _ _
      · exact .matchAll
    · exact .term field (Json.obj?_coerce _ hv)
  | oneOf vs =>
    simp only [ofExpression, ofList]
    split
    · exact .ids _ _
    · exact .terms field _
  | @modifiers ms _ ih =>
    have hfragments : ∀ f ∈ ms.map (ofModifier schema typeName field), f.WellFormed := by
      intro f hf
      obtain ⟨m, hm, rfl⟩ := List.mem_map.1 hf
      cases m with
      | not inner => exact .not (ih inner hm)
      | range bound v => exact .range field (List.nodup_singleton bound)
      | text how v => cases v <;> first | exact .regexp field _ | exact .passThrough field _ _
      | other operator v => exact .passThrough field operator _
    rw [ofExpression, ofModifiers_eq_map, foldFragments_eq]
    exact wellFormed_all (forall_mem_folded (fun _ _ => wellFormed_supersede) hfragments)

lemma wellFormed_ofClause {c : Clause} (h : c.ObjectFree) :
    (ofClause schema typeName c).WellFormed := by
  induction h with
  | fields hfs =>
    rw [ofClause]
    refine wellFormed_all fun f hf => ?_
    obtain ⟨e, he, rfl⟩ := List.mem_map.1 hf
    exact wellFormed_ofExpression (hfs e he)
  | and _ ih =>
    rw [ofClause, ofClauses_eq_map]
    exact .and (List.forall_mem_map.2 ih)
  | or _ ih =>
    rw [ofClause, ofClauses_eq_map]
    exact .or (List.forall_mem_map.2 ih)
  | all _ ih =>
    rw [ofClause, ofClauses_eq_map]
    exact wellFormed_all (List.forall_mem_map.2 ih)

/-- **The filter of a clause without objects is well-formed.** -/
theorem wellFormed_ofWhere {c : Option Clause} (h : ∀ w ∈ c, w.ObjectFree) :
    (ofWhere schema typeName c).WellFormed := by
  unfold ofWhere
  split
  · exact .matchAll
  · next c =>
    split
    · exact .matchAll
    · exact wellFormed_ofClause (h c rfl)

end Filter

/-! ## Queries -/

/-- The parts of a query come from the parts of the criteria. -/
lemma Query.of_ofCriteria {schema : Schema} {typeName : String} {c : Criteria} {q : Query}
    (h : Query.ofCriteria schema typeName c = .ok q) :
    q = { typeName
          aggregations := q.aggregations
          filter := Filter.ofWhere schema typeName c.clause
          sort := c.sort.map SortKey.stored
          size := c.limit
          start := c.skip
          facets := c.facets } := by
  rw [Query.ofCriteria, bind_eq_ok_iff] at h
  obtain ⟨aggregations, -, h⟩ := h
  obtain rfl := pure_eq_ok_iff.1 h
  rfl

end CriteriaSearch

import CriteriaSearch.Criteria.Build
import CriteriaSearch.Proofs.ClauseReading
import CriteriaSearch.Proofs.EntryReading
import CriteriaSearch.Proofs.FoundRecords
import Mathlib.Data.List.Forall2

/-!
# Clauses that are built

A clause is read from JSON or built by hand, and the two spell one query: a built clause and the
reading of its JSON form say the same of every document, and find the same
(`Built.matches_read`).

They need not be the same clause.  A conjunction that is continued takes one more member, where the
JSON form nests it (`Clause.Alike.conj`).  And the form of a value decides how JSON is read, while
the name of the helper decides what is built: equality with a list is a statement about a list when
it is built, and membership when it is read.  So equality is spelled for values that are neither
lists nor objects.
-/

namespace CriteriaSearch

/-! ## What is built -/

/-- What can be built on one field. -/
inductive Statement where
  | eq (value : Json)
  | ne (value : Json)
  | oneOf (values : List Json)
  | notOneOf (values : List Json)
  | bounded (bound : RangeBound) (value : Json)
  | textual (how : TextMatch) (text : String)

/-- A clause as it is built: statements on fields, listed or continued. -/
inductive Built where
  | field (field : String) (statement : Statement)
  | and (members : List Built)
  | or (members : List Built)
  | andThen (first next : Built)
  | orElse (first next : Built)

/-- A key for each modifier. -/
structure Spelling where
  not : String
  range : RangeBound → String
  text : TextMatch → String
  ofKey_not : ModifierKind.ofKey not = .not
  ofKey_range : ∀ bound, ModifierKind.ofKey (range bound) = .range bound
  ofKey_text : ∀ how, ModifierKind.ofKey (text how) = .text how

/-- Bounds by their symbols, text comparisons by their names. -/
def Spelling.common : Spelling where
  not := "not"
  range
    | .gt => ">"
    | .gte => ">="
    | .lt => "<"
    | .lte => "<="
  text := TextMatch.name
  ofKey_not := by decide
  ofKey_range := by rintro (_ | _ | _ | _) <;> decide
  ofKey_text := by rintro (_ | _ | _ | _) <;> decide

namespace Statement

/-- The clause of a statement on a field. -/
def clause (field : String) : Statement → Clause
  | eq v => Clause.eq field v
  | ne v => Clause.ne field v
  | oneOf vs => Clause.oneOf field vs
  | notOneOf vs => Clause.notOneOf field vs
  | bounded bound v => Clause.bounded bound field v
  | textual how text => Clause.textual how field text

/-- What JSON says on a field for a statement. -/
def json (w : Spelling) : Statement → Json
  | eq v => v
  | ne v => .obj [(w.not, v)]
  | oneOf vs => .arr vs
  | notOneOf vs => .obj [(w.not, .arr vs)]
  | bounded bound v => .obj [(w.range bound, v)]
  | textual how text => .obj [(w.text how, .str text)]

/-- Whether the value of an equality, if the statement is one, is neither a list nor an object. -/
def isSpelled : Statement → Bool
  | eq (.arr _) => false
  | eq (.obj _) => false
  | ne (.arr _) => false
  | ne (.obj _) => false
  | _ => true

end Statement

namespace Built

mutual

/-- The clause that is built. -/
def clause : Built → Clause
  | field name statement => statement.clause name
  | and members => .and (clauses members)
  | or members => .or (clauses members)
  | andThen first next => first.clause.conj next.clause
  | orElse first next => first.clause.disj next.clause

/-- The clauses that are built. -/
def clauses : List Built → List Clause
  | [] => []
  | b :: rest => b.clause :: clauses rest

end

mutual

/-- The JSON form. -/
def json (w : Spelling) : Built → Json
  | field name statement => .obj [(name, statement.json w)]
  | and members => .obj [("and", .arr (jsons w members))]
  | or members => .obj [("or", .arr (jsons w members))]
  | andThen first next => .obj [("and", .arr [first.json w, next.json w])]
  | orElse first next => .obj [("or", .arr [first.json w, next.json w])]

/-- The JSON forms. -/
def jsons (w : Spelling) : List Built → List Json
  | [] => []
  | b :: rest => b.json w :: jsons w rest

end

/-- Whether a field is none of the combinators. -/
def isFieldName (name : String) : Bool :=
  name != "and" && name != "or" && Text.asciiLowercase name != "like"

mutual

/-- Whether JSON has a form for what is built. -/
def isSpelled : Built → Bool
  | field name statement => isFieldName name && statement.isSpelled
  | and members => areSpelled members
  | or members => areSpelled members
  | andThen first next => first.isSpelled && next.isSpelled
  | orElse first next => first.isSpelled && next.isSpelled

/-- Whether JSON has forms for all that is built. -/
def areSpelled : List Built → Bool
  | [] => true
  | b :: rest => b.isSpelled && areSpelled rest

end

end Built

/-- Induction on what is built: a list may use the statement for every member. -/
@[elab_as_elim, induction_eliminator]
theorem Built.induct {motive : Built → Prop}
    (field : ∀ name statement, motive (.field name statement))
    (and : ∀ members, (∀ b ∈ members, motive b) → motive (.and members))
    (or : ∀ members, (∀ b ∈ members, motive b) → motive (.or members))
    (andThen : ∀ first next, motive first → motive next → motive (.andThen first next))
    (orElse : ∀ first next, motive first → motive next → motive (.orElse first next))
    (b : Built) : motive b :=
  match b with
  | .field name statement => field name statement
  | .and members => and members fun b _ => Built.induct field and or andThen orElse b
  | .or members => or members fun b _ => Built.induct field and or andThen orElse b
  | .andThen first next => andThen first next (Built.induct field and or andThen orElse first)
      (Built.induct field and or andThen orElse next)
  | .orElse first next => orElse first next (Built.induct field and or andThen orElse first)
      (Built.induct field and or andThen orElse next)
termination_by b
decreasing_by
  all_goals try have := List.sizeOf_lt_of_mem ‹b ∈ members›
  all_goals
    simp only [Built.and.sizeOf_spec, Built.or.sizeOf_spec, Built.andThen.sizeOf_spec,
      Built.orElse.sizeOf_spec]
    omega

/-! ## Clauses that are alike -/

namespace Filter

variable {library : PatternLibrary} {id : String} {body : Record} {fs gs : List Filter}

/-- Whether two filters come to the same for a document, by the library that compiles patterns. -/
def SameFor (library : PatternLibrary) (id : String) (body : Record) (f g : Filter) : Prop :=
  f.holds library id body = g.holds library id body

/-- Filters that come to the same one by one do so together and by choice. -/
lemma SameFor.lists (h : List.Forall₂ (SameFor library id body) fs gs) :
    allHold library id body fs = allHold library id body gs ∧
      someHolds library id body fs = someHolds library id body gs := by
  induction h with
  | nil => exact ⟨rfl, rfl⟩
  | cons h _ ih =>
    rw [allHold, allHold, someHolds, someHolds, h, ih.1, ih.2]
    exact ⟨rfl, rfl⟩

/-- What is first in a conjunction may be a conjunction. -/
lemma allHold_and_cons (fs gs : List Filter) :
    allHold library id body (.and fs :: gs) = allHold library id body (fs ++ gs) := by
  rw [allHold, holds]
  induction fs with
  | nil =>
    rw [allHold]
    rfl
  | cons f rest ih =>
    rw [List.cons_append, allHold, allHold, ← ih]
    cases f.holds library id body with
    | error failure => rfl
    | ok b => cases b <;> rfl

lemma someHolds_or_cons (fs gs : List Filter) :
    someHolds library id body (.or fs :: gs) = someHolds library id body (fs ++ gs) := by
  rw [someHolds, holds]
  induction fs with
  | nil =>
    rw [someHolds]
    rfl
  | cons f rest ih =>
    rw [List.cons_append, someHolds, someHolds, ← ih]
    cases f.holds library id body with
    | error failure => rfl
    | ok b => cases b <;> rfl

end Filter

namespace Clause

/-- Whether two plain clauses come to the same for every document and name the same identifiers. -/
structure Alike (a b : Clause) : Prop where
  isPlain_left : a.isPlain = true
  isPlain_right : b.isPlain = true
  sameFor : ∀ library schema typeName id body, Filter.SameFor library id body
    (Filter.ofClause schema typeName a) (Filter.ofClause schema typeName b)
  idLookup?_eq : a.idLookup? = b.idLookup?

variable {a b a' b' : Clause} {as bs : List Clause}

lemma Alike.refl {c : Clause} (h : c.isPlain = true) : Alike c c :=
  ⟨h, h, fun _ _ _ _ _ => rfl, rfl⟩

/-- Lists of clauses that are alike one by one are plain, and so are their filters alike. -/
lemma Alike.lists (h : List.Forall₂ Alike as bs) :
    arePlain as = true ∧ arePlain bs = true ∧ ∀ library schema typeName id body,
      List.Forall₂ (Filter.SameFor library id body) (Filter.ofClauses schema typeName as)
        (Filter.ofClauses schema typeName bs) := by
  induction h with
  | nil => exact ⟨rfl, rfl, fun _ _ _ _ _ => .nil⟩
  | cons h _ ih =>
    obtain ⟨has, hbs, hsame⟩ := ih
    refine ⟨?_, ?_, fun library schema typeName id body => ?_⟩
    · rw [arePlain, h.isPlain_left, has, Bool.and_self]
    · rw [arePlain, h.isPlain_right, hbs, Bool.and_self]
    · exact .cons (h.sameFor _ _ _ _ _) (hsame _ _ _ _ _)

lemma Alike.and (h : List.Forall₂ Alike as bs) : Alike (.and as) (.and bs) := by
  obtain ⟨has, hbs, hsame⟩ := Alike.lists h
  refine ⟨has, hbs, fun library schema typeName id body => ?_, rfl⟩
  rw [Filter.SameFor, Filter.ofClause, Filter.ofClause, Filter.holds, Filter.holds]
  exact (Filter.SameFor.lists (hsame library schema typeName id body)).1

lemma Alike.or (h : List.Forall₂ Alike as bs) : Alike (.or as) (.or bs) := by
  obtain ⟨has, hbs, hsame⟩ := Alike.lists h
  refine ⟨has, hbs, fun library schema typeName id body => ?_, rfl⟩
  rw [Filter.SameFor, Filter.ofClause, Filter.ofClause, Filter.holds, Filter.holds]
  exact (Filter.SameFor.lists (hsame library schema typeName id body)).2

lemma arePlain_append (as bs : List Clause) :
    arePlain (as ++ bs) = (arePlain as && arePlain bs) := by
  induction as with
  | nil => rfl
  | cons a rest ih => rw [List.cons_append, arePlain, arePlain, ih, Bool.and_assoc]

/-- A continued conjunction nests or takes one more member. -/
lemma conj_eq (a b : Clause) :
    a.conj b = .and [a, b] ∨ ∃ cs, a = .and cs ∧ a.conj b = .and (cs ++ [b]) := by
  cases a with
  | and cs => exact .inr ⟨cs, rfl, rfl⟩
  | _ => exact .inl rfl

lemma disj_eq (a b : Clause) :
    a.disj b = .or [a, b] ∨ ∃ cs, a = .or cs ∧ a.disj b = .or (cs ++ [b]) := by
  cases a with
  | or cs => exact .inr ⟨cs, rfl, rfl⟩
  | _ => exact .inl rfl

/-- A conjunction of a conjunction says what the longer one says. -/
lemma alike_and_append {cs : List Clause} {b : Clause} (hcs : arePlain cs = true)
    (hb : b.isPlain = true) : Alike (.and [.and cs, b]) (.and (cs ++ [b])) := by
  refine ⟨?_, ?_, fun library schema typeName id body => ?_, rfl⟩
  · simp [isPlain, Clause.arePlain, hcs, hb]
  · simp [isPlain, arePlain_append, Clause.arePlain, hcs, hb]
  · simp only [Filter.SameFor, Filter.ofClause, Filter.ofClauses_eq_map, Filter.holds,
      List.map_append, List.map_cons, List.map_nil, Filter.allHold_and_cons]

lemma alike_or_append {cs : List Clause} {b : Clause} (hcs : arePlain cs = true)
    (hb : b.isPlain = true) : Alike (.or [.or cs, b]) (.or (cs ++ [b])) := by
  refine ⟨?_, ?_, fun library schema typeName id body => ?_, rfl⟩
  · simp [isPlain, Clause.arePlain, hcs, hb]
  · simp [isPlain, arePlain_append, Clause.arePlain, hcs, hb]
  · simp only [Filter.SameFor, Filter.ofClause, Filter.ofClauses_eq_map, Filter.holds,
      List.map_append, List.map_cons, List.map_nil, Filter.someHolds_or_cons]

lemma Alike.trans {c : Clause} (h : Alike a b) (h' : Alike b c) : Alike a c :=
  ⟨h.isPlain_left, h'.isPlain_right,
    fun _ _ _ _ _ => (h.sameFor _ _ _ _ _).trans (h'.sameFor _ _ _ _ _),
    h.idLookup?_eq.trans h'.idLookup?_eq⟩

/-- A conjunction of two says what a continued one says. -/
lemma Alike.conj (h : Alike a b) (h' : Alike a' b') : Alike (.and [a, a']) (b.conj b') := by
  have hpair : Alike (.and [a, a']) (.and [b, b']) := .and (.cons h (.cons h' .nil))
  rcases conj_eq b b' with hnested | ⟨cs, rfl, hlonger⟩
  · rwa [hnested]
  · rw [hlonger]
    exact hpair.trans (alike_and_append h.isPlain_right h'.isPlain_right)

lemma Alike.disj (h : Alike a b) (h' : Alike a' b') : Alike (.or [a, a']) (b.disj b') := by
  have hpair : Alike (.or [a, a']) (.or [b, b']) := .or (.cons h (.cons h' .nil))
  rcases disj_eq b b' with hnested | ⟨cs, rfl, hlonger⟩
  · rwa [hnested]
  · rw [hlonger]
    exact hpair.trans (alike_or_append h.isPlain_right h'.isPlain_right)

/-! ## Reading -/

/-- An object with one field says one thing about it. -/
lemma ofJson?_field {name : String} (h : Built.isFieldName name = true) (v : Json) :
    ofJson? (.obj [(name, v)]) = .ok (ofField name (Expression.ofJson v)) := by
  simp only [Built.isFieldName, Bool.and_eq_true, bne_iff_ne] at h
  obtain ⟨⟨hand, hor⟩, hlike⟩ := h
  have hcombinator : ¬((decide (name = "and") || decide (name = "or")) = true) := by
    simp [hand, hor]
  rw [ofJson?, partsOf_cons, partOf, if_neg hcombinator, if_neg hlike, partsOf]
  rfl

/-- An object with one combinator reads its members. -/
lemma ofJson?_and (items : List Json) :
    ofJson? (.obj [("and", .arr items)]) = (ofItems items).map .and := by
  rw [ofJson?, partsOf, if_pos (by decide), partsOf]
  cases ofItems items <;> rfl

lemma ofJson?_or (items : List Json) :
    ofJson? (.obj [("or", .arr items)]) = (ofItems items).map .or := by
  rw [ofJson?, partsOf, if_pos (by decide), partsOf]
  cases ofItems items <;> rfl

lemma ofItems_nil : ofItems [] = .ok [] := by
  rw [ofItems]

/-- What is read member by member. -/
lemma ofItems_cons {v : Json} {c : Clause} {rest : List Json} {cs : List Clause}
    (hv : ofJson? v = .ok c) (hrest : ofItems rest = .ok cs) :
    ofItems (v :: rest) = .ok (c :: cs) :=
  ofItems_cons_eq_ok_iff.2 ⟨c, cs, hv, hrest, rfl⟩

end Clause

namespace Statement

lemma isPlain_clause (name : String) (s : Statement) : (s.clause name).isPlain = true := by
  cases s <;> rfl

/-- A statement that JSON has a form for is read from that form. -/
lemma ofField_ofJson (w : Spelling) (name : String) {s : Statement} (h : s.isSpelled = true) :
    Clause.ofField name (Expression.ofJson (s.json w)) = s.clause name := by
  cases s with
  | eq v =>
    cases v with
    | arr items => cases h
    | obj entries => cases h
    | _ => rfl
  | ne v =>
    rw [json, Expression.ofJson, Modifier.ofEntries, w.ofKey_not]
    cases v with
    | arr items => cases h
    | obj entries => cases h
    | _ => rfl
  | oneOf vs => rfl
  | notOneOf vs =>
    rw [json, Expression.ofJson, Modifier.ofEntries, w.ofKey_not]
    rfl
  | bounded bound v =>
    rw [json, Expression.ofJson, Modifier.ofEntries, w.ofKey_range]
    rfl
  | textual how text =>
    rw [json, Expression.ofJson, Modifier.ofEntries, w.ofKey_text]
    rfl

end Statement

namespace Built

lemma isSpelled_of_areSpelled {bs : List Built} (h : areSpelled bs = true) :
    ∀ b ∈ bs, b.isSpelled = true := by
  induction bs with
  | nil => exact List.forall_mem_nil _
  | cons b rest ih =>
    obtain ⟨hb, hrest⟩ := Bool.and_eq_true_iff.1 h
    exact List.forall_mem_cons.2 ⟨hb, ih hrest⟩

/-- Members that are read one by one are read as a list. -/
lemma exists_ofItems_jsons (w : Spelling) {bs : List Built}
    (h : ∀ b ∈ bs, ∃ read, Clause.ofJson? (b.json w) = .ok read ∧ read.Alike b.clause) :
    ∃ reads, Clause.ofItems (jsons w bs) = .ok reads ∧
      List.Forall₂ Clause.Alike reads (clauses bs) := by
  induction bs with
  | nil => exact ⟨[], Clause.ofItems_nil, .nil⟩
  | cons b rest ih =>
    rw [List.forall_mem_cons] at h
    obtain ⟨⟨read, hread, halike⟩, hrest⟩ := h
    obtain ⟨reads, hreads, hall⟩ := ih hrest
    exact ⟨read :: reads, Clause.ofItems_cons hread hreads, .cons halike hall⟩

/-- **The JSON form of what is built reads to a clause that is like the built one.** -/
theorem exists_read_alike (w : Spelling) (b : Built) (h : b.isSpelled = true) :
    ∃ read, Clause.ofJson? (b.json w) = .ok read ∧ read.Alike b.clause := by
  induction b with
  | field name statement =>
    obtain ⟨hname, hstatement⟩ := Bool.and_eq_true_iff.1 h
    refine ⟨statement.clause name, ?_, .refl (statement.isPlain_clause name)⟩
    rw [json, Clause.ofJson?_field hname, Statement.ofField_ofJson w name hstatement]
  | and members ih =>
    obtain ⟨reads, hreads, hall⟩ := exists_ofItems_jsons w fun b hb =>
      ih b hb (isSpelled_of_areSpelled h b hb)
    refine ⟨.and reads, ?_, .and hall⟩
    rw [json, Clause.ofJson?_and, hreads]
    rfl
  | or members ih =>
    obtain ⟨reads, hreads, hall⟩ := exists_ofItems_jsons w fun b hb =>
      ih b hb (isSpelled_of_areSpelled h b hb)
    refine ⟨.or reads, ?_, .or hall⟩
    rw [json, Clause.ofJson?_or, hreads]
    rfl
  | andThen first next ihFirst ihNext =>
    obtain ⟨hfirst, hnext⟩ := Bool.and_eq_true_iff.1 h
    obtain ⟨read, hread, halike⟩ := ihFirst hfirst
    obtain ⟨read', hread', halike'⟩ := ihNext hnext
    refine ⟨.and [read, read'], ?_, halike.conj halike'⟩
    have hitems := Clause.ofItems_cons hread (Clause.ofItems_cons hread' Clause.ofItems_nil)
    rw [json, Clause.ofJson?_and, hitems]
    rfl
  | orElse first next ihFirst ihNext =>
    obtain ⟨hfirst, hnext⟩ := Bool.and_eq_true_iff.1 h
    obtain ⟨read, hread, halike⟩ := ihFirst hfirst
    obtain ⟨read', hread', halike'⟩ := ihNext hnext
    refine ⟨.or [read, read'], ?_, halike.disj halike'⟩
    have hitems := Clause.ofItems_cons hread (Clause.ofItems_cons hread' Clause.ofItems_nil)
    rw [json, Clause.ofJson?_or, hitems]
    rfl

end Built

/-! ## What is found -/

/-- The filter of a query is that of its clause. -/
lemma Collection.compile_clause (c : Collection) (criteria : Criteria) (clause : Option Clause) :
    c.compile { criteria with clause } = (c.compile criteria).map fun q =>
      { q with filter := Filter.ofWhere c.schema.schema c.schema.typeName clause } := by
  unfold Collection.compile Query.ofCriteria
  cases Query.aggregationsOf criteria.aggregate <;> rfl

namespace Clause

variable {a b : Clause}

lemma Alike.holds_eq (h : Alike a b) (library : PatternLibrary) (schema : Schema)
    (typeName id : String) (body : Record) :
    (Filter.ofWhere schema typeName (some a)).holds library id body =
      (Filter.ofWhere schema typeName (some b)).holds library id body := by
  rw [Filter.ofWhere_some, Filter.ofWhere_some]
  exact h.sameFor library schema typeName id body

/-- Clauses that are alike find the same. -/
lemma Alike.result_find_eq (h : Alike a b) (c : Collection) (m : Memory) (criteria : Criteria) :
    ((c.find { criteria with clause := some a }).run Memory.client m).result =
      ((c.find { criteria with clause := some b }).run Memory.client m).result := by
  have hsame : ({ criteria with clause := some a } : Criteria).idLookup? =
      ({ criteria with clause := some b } : Criteria).idLookup? := h.idLookup?_eq
  cases hlookup : ({ criteria with clause := some b } : Criteria).idLookup? with
  | some ids =>
    rw [hlookup] at hsame
    rw [c.result_find_of_lookup m hsame, c.result_find_of_lookup m hlookup]
  | none =>
    rw [hlookup] at hsame
    rw [c.result_find_of_search m hsame, c.result_find_of_search m hlookup]
    rw [c.compile_clause criteria (some a), c.compile_clause criteria (some b)]
    cases c.compile criteria with
    | error e => rfl
    | ok q =>
      have hmatching := Documents.matching_congr
        (h.holds_eq m.patterns c.schema.schema c.schema.typeName) (m.documents c.address)
      exact congrArg (fun matched => ((matched.bind (sortDocuments m.sorting q.sort)).map
        q.found).mapError SearchError.store) hmatching

end Clause

namespace Built

/-- **A clause that is built holds of the same documents as its JSON form, and finds the same.**
Both have an answer, or get to the same pattern that is refused. -/
theorem matches_read (w : Spelling) (b : Built) (h : b.isSpelled = true) :
    ∃ read, Clause.ofJson? (b.json w) = .ok read ∧
      (∀ library schema typeName id body,
        (Filter.ofWhere schema typeName (some b.clause)).holds library id body =
          (Filter.ofWhere schema typeName (some read)).holds library id body ∧
        ∃ isMatch : Bool, (Filter.ofWhere schema typeName (some b.clause)).AnswersOrRefuses
          library id body isMatch) ∧
      ∀ (c : Collection) (m : Memory) (criteria : Criteria),
        ((c.find { criteria with clause := some b.clause }).run Memory.client m).result =
          ((c.find { criteria with clause := some read }).run Memory.client m).result := by
  obtain ⟨read, hread, halike⟩ := b.exists_read_alike w h
  refine ⟨read, hread, fun library schema typeName id body => ?_, fun c m criteria => ?_⟩
  · refine ⟨(halike.holds_eq library schema typeName id body).symm, ?_⟩
    refine ⟨b.clause.isTrueOf schema id body, Filter.answersOrRefuses_of_unlimited ?_⟩
    rw [Filter.ofWhere_some, Filter.holds_ofClause b.clause halike.isPlain_right]
  · exact (halike.result_find_eq c m criteria).symm

/-- A conjunction that is continued, with a disjunction in it. -/
theorem matches_read_continued :
    let isOpen : Built := .field "status" (.eq (.str "open"))
    let urgent : Built := .orElse (.field "title" (.textual .startsWith "bug"))
      (.field "n" (.bounded .gt (.num (.int 2))))
    let b : Built := .andThen (.and [isOpen, urgent]) (.field "tags" (.notOneOf [.str "x"]))
    let body : Record :=
      [("status", .str "open"), ("title", .str "Bug 7"), ("tags", .arr [.str "y"])]
    b.json Spelling.common = .obj [("and", .arr [
        .obj [("and", .arr [.obj [("status", .str "open")],
          .obj [("or", .arr [.obj [("title", .obj [("startsWith", .str "bug")])],
            .obj [("n", .obj [(">", .num (.int 2))])]])]])],
        .obj [("tags", .obj [("not", .arr [.str "x"])])]])] ∧
      b.isSpelled = true ∧
      ∃ read, Clause.ofJson? (b.json Spelling.common) = .ok read ∧
        (Filter.ofWhere {} "item" (some read)).holds .unlimited "a" body = .ok true := by
  intro isOpen urgent b body
  have hspelled : b.isSpelled = true := by
    decide
  have hbuilt : (Filter.ofWhere {} "item" (some b.clause)).holds .unlimited "a" body =
      .ok true := by
    rfl
  obtain ⟨read, hread, hsame, -⟩ := matches_read Spelling.common b hspelled
  obtain ⟨hagree, -⟩ := hsame .unlimited {} "item" "a" body
  exact ⟨rfl, hspelled, read, hread, hagree.symm.trans hbuilt⟩

/-- Equality with a list is not spelled by that list: read, it is membership. -/
theorem matches_read_list :
    let b : Built := .field "tags" (.eq (.arr [.str "a"]))
    let body : Record := [("tags", .arr [.str "a", .str "b"])]
    b.json Spelling.common = .obj [("tags", .arr [.str "a"])] ∧
      (Filter.ofWhere {} "item" (some b.clause)).holds .unlimited "x" body = .ok false ∧
      ∃ read, Clause.ofJson? (b.json Spelling.common) = .ok read ∧
        (Filter.ofWhere {} "item" (some read)).holds .unlimited "x" body = .ok true := by
  intro b body
  refine ⟨rfl, ?_, Clause.oneOf "tags" [.str "a"], ?_, ?_⟩
  · rfl
  · rfl
  · rfl

end Built

end CriteriaSearch

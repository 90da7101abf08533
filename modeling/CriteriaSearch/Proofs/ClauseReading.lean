import CriteriaSearch.Proofs.FailingDecisions
import CriteriaSearch.Proofs.Fragments

/-!
# What a clause says about a document

A clause reaches a document by way of a filter: values are coerced, modifiers become fragments,
fragments are folded, conjunctions lose their trivial forms, and the evaluation stops early.
`Clause.isTrueOf` reads the clause itself, with nothing in between, and the two agree on every plain
clause.

A clause is plain when no modifier is left to the store and no modifier map holds two negations or
two text comparisons, because the fold would keep only the last of them.  Bounds may be repeated;
the last value of each counts, and all of them are put to one and the same value of the field.

A pattern may be refused by the library that compiles it.  The proof is for the library that refuses
none: where another one gives an answer, it is the same (`holds_eq_ok_of_unlimited`).  It goes
through the fold by operator: `allHold_by_key` decides a folded conjunction from what is left for
each key, and `settles_negations`, `settles_bounds` and `settles_patterns` say what that is.
-/

namespace CriteriaSearch

/-! ## The direct reading -/

namespace Modifier

/-- The expression that a modifier negates. -/
def negated? : Modifier → Option Expression
  | .not e => some e
  | _ => none

/-- The bound that a modifier sets. -/
def bound? : Modifier → Option (RangeBound × Json)
  | .range bound v => some (bound, v)
  | _ => none

/-- The pattern that a modifier compares a text with. -/
def pattern? : Modifier → Option Pattern
  | .text how (.str s) => some (Pattern.ofMatch how s.toList)
  | _ => none

end Modifier

/-- Whether a value is a text that matches a pattern. -/
def Pattern.matchesValue (p : Pattern) : Json → Bool
  | .str s => p.matchesText s
  | _ => false

/-- Whether a value is within every bound, each at the value that was given last. -/
def withinBounds (schema : Schema) (field : String) (bounds : List (RangeBound × Json))
    (item : Json) : Bool :=
  [RangeBound.gt, .gte, .lt, .lte].all fun bound =>
    (bounds.reverse.lookup bound).all fun v => bound.holds item (schema.coerce field v)

mutual

/-- Whether an expression on a field is true of a document. -/
def Expression.isTrueOf (schema : Schema) (id : String) (body : Record) (field : String) :
    Expression → Bool
  | .literal v =>
    let value := schema.coerce field v
    if Schema.isIdField field then !value.isTruthy || value.idText? == some id
    else (body.itemsAt field).any fun item => item.alike value
  | .oneOf vs =>
    let values := vs.map (schema.coerce field)
    if Schema.isIdField field then values.any fun value => value.idText? == some id
    else (body.itemsAt field).any fun item => values.any fun value => item.alike value
  | .modifiers ms =>
    Modifier.refutedBy schema id body field ms &&
      ((ms.filterMap Modifier.bound?).isEmpty ||
        (body.itemsAt field).any (withinBounds schema field (ms.filterMap Modifier.bound?))) &&
      (ms.filterMap Modifier.pattern?).all fun p => (body.itemsAt field).any p.matchesValue

/-- Whether every negated expression among modifiers is false of a document. -/
def Modifier.refutedBy (schema : Schema) (id : String) (body : Record) (field : String) :
    List Modifier → Bool
  | [] => true
  | .not e :: rest =>
    !e.isTrueOf schema id body field && Modifier.refutedBy schema id body field rest
  | _ :: rest => Modifier.refutedBy schema id body field rest

end

mutual

/-- Whether a clause is true of a document. -/
def Clause.isTrueOf (schema : Schema) (id : String) (body : Record) : Clause → Bool
  | .fields fs => fs.all fun e => e.2.isTrueOf schema id body e.1
  | .and cs => allTrueOf schema id body cs
  | .or cs => someTrueOf schema id body cs
  | .all cs => allTrueOf schema id body cs

/-- Whether all clauses are true of a document. -/
def Clause.allTrueOf (schema : Schema) (id : String) (body : Record) : List Clause → Bool
  | [] => true
  | c :: rest => c.isTrueOf schema id body && allTrueOf schema id body rest

/-- Whether some clause is true of a document. -/
def Clause.someTrueOf (schema : Schema) (id : String) (body : Record) : List Clause → Bool
  | [] => false
  | c :: rest => c.isTrueOf schema id body || someTrueOf schema id body rest

end

/-! ## Plain clauses -/

mutual

/-- Whether no modifier of an expression is left to the store, and no map of modifiers holds two
negations or two text comparisons. -/
def Expression.isPlain : Expression → Bool
  | .literal _ => true
  | .oneOf _ => true
  | .modifiers ms =>
    decide ((ms.filterMap Modifier.negated?).length ≤ 1) &&
      decide ((ms.filterMap Modifier.pattern?).length ≤ 1) && Modifier.arePlain ms

/-- Whether modifiers are plain. -/
def Modifier.arePlain : List Modifier → Bool
  | [] => true
  | .not e :: rest => e.isPlain && Modifier.arePlain rest
  | .range _ _ :: rest => Modifier.arePlain rest
  | .text _ (.str _) :: rest => Modifier.arePlain rest
  | _ :: _ => false

end

mutual

/-- Whether every expression of a clause is plain. -/
def Clause.isPlain : Clause → Bool
  | .fields fs => fs.all fun e => e.2.isPlain
  | .and cs => arePlain cs
  | .or cs => arePlain cs
  | .all cs => arePlain cs

/-- Whether all clauses are plain. -/
def Clause.arePlain : List Clause → Bool
  | [] => true
  | c :: rest => c.isPlain && arePlain rest

end

section Lists

variable (schema : Schema) (id : String) (body : Record)

lemma Modifier.refutedBy_eq (field : String) (ms : List Modifier) :
    Modifier.refutedBy schema id body field ms =
      (ms.filterMap Modifier.negated?).all fun e => !e.isTrueOf schema id body field := by
  induction ms with
  | nil => simp [Modifier.refutedBy]
  | cons m rest ih => cases m <;> simp [Modifier.refutedBy, Modifier.negated?, ih]

lemma Clause.allTrueOf_eq (cs : List Clause) :
    Clause.allTrueOf schema id body cs = cs.all (Clause.isTrueOf schema id body) := by
  induction cs with
  | nil => simp [Clause.allTrueOf]
  | cons c rest ih => simp [Clause.allTrueOf, ih]

lemma Clause.someTrueOf_eq (cs : List Clause) :
    Clause.someTrueOf schema id body cs = cs.any (Clause.isTrueOf schema id body) := by
  induction cs with
  | nil => simp [Clause.someTrueOf]
  | cons c rest ih => simp [Clause.someTrueOf, ih]

end Lists

/-- A modifier that is not left to the store. -/
inductive Modifier.Plain : Modifier → Prop
  | not {e : Expression} (h : e.isPlain = true) : Plain (.not e)
  | range (bound : RangeBound) (v : Json) : Plain (.range bound v)
  | text (how : TextMatch) (s : String) : Plain (.text how (.str s))

lemma Modifier.plain_of_arePlain {ms : List Modifier} (h : Modifier.arePlain ms = true) :
    ∀ m ∈ ms, m.Plain := by
  induction ms with
  | nil => simp
  | cons m rest ih =>
    rw [List.forall_mem_cons]
    cases m with
    | not e =>
      simp only [Modifier.arePlain, Bool.and_eq_true] at h
      exact ⟨.not h.1, ih h.2⟩
    | range bound v => exact ⟨.range bound v, ih (by simpa [Modifier.arePlain] using h)⟩
    | text how v =>
      cases v with
      | str s => exact ⟨.text how s, ih (by simpa [Modifier.arePlain] using h)⟩
      | _ => simp [Modifier.arePlain] at h
    | other key v => simp [Modifier.arePlain] at h

lemma Clause.isPlain_of_arePlain {cs : List Clause} (h : Clause.arePlain cs = true) :
    ∀ c ∈ cs, c.isPlain = true := by
  induction cs with
  | nil => simp
  | cons c rest ih =>
    simp only [Clause.arePlain, Bool.and_eq_true] at h
    exact List.forall_mem_cons.2 ⟨h.1, ih h.2⟩

namespace Filter

variable {schema : Schema} {typeName id field : String} {body : Record}
  {library : PatternLibrary}

/-! ## Literals and lists -/

lemma contains_filterMap_idText? (vs : List Json) (id : String) :
    (vs.filterMap Json.idText?).contains id = vs.any fun v => v.idText? == some id := by
  rw [Bool.eq_iff_iff]
  simp only [List.contains_iff_mem, List.mem_filterMap, List.any_eq_true, beq_iff_eq]

lemma holds_ofLiteral (v : Json) :
    (ofLiteral schema typeName field v).holds library id body =
      .ok ((Expression.literal v).isTrueOf schema id body field) := by
  simp only [ofLiteral, Expression.isTrueOf]
  by_cases hid : Schema.isIdField field = true
  · by_cases htrue : (schema.coerce field v).isTruthy = true
    · simp only [hid, if_true, htrue, holds, contains_filterMap_idText?]
      simp
    · simp [hid, htrue, holds]
  · simp [hid, holds, fieldHolds_eq_any]

lemma holds_ofList (vs : List Json) :
    (ofList schema typeName field vs).holds library id body =
      .ok ((Expression.oneOf vs).isTrueOf schema id body field) := by
  simp only [ofList, Expression.isTrueOf]
  by_cases hid : Schema.isIdField field = true
  · simp only [hid, if_true, holds, contains_filterMap_idText?]
  · simp [hid, holds, fieldHolds_eq_any]

/-! ## Modifiers, by operator -/

/-- What is left for a key decides to a truth value; where nothing is left, to true. -/
def Settles (id : String) (body : Record) (kept : Option Filter) (b : Bool) : Prop :=
  match kept with
  | none => b = true
  | some f => f.holds .unlimited id body = .ok b

/-- A conjunction of distinct keys is decided key by key. -/
lemma allHold_by_key {fs : List Filter} {keys : List String} {value : String → Bool}
    (hnodup : (fs.map operatorKey).Nodup) (hkeys : ∀ f ∈ fs, f.operatorKey ∈ keys)
    (h : ∀ key ∈ keys, Settles id body (withKey? fs key) (value key)) :
    allHold .unlimited id body fs = .ok (keys.all value) := by
  have hdecided : ∀ f ∈ fs, f.holds .unlimited id body = .ok (value f.operatorKey) := by
    intro f hf
    have hsettled := h f.operatorKey (hkeys f hf)
    rwa [withKey?_eq_some_of_mem hnodup hf] at hsettled
  have hall := allHold_map hdecided
  rw [List.map_id'] at hall
  rw [hall, Except.ok.injEq, Bool.eq_iff_iff, List.all_eq_true, List.all_eq_true]
  constructor
  · intro hvalue key hkey
    have hsettled := h key hkey
    cases hkept : withKey? fs key with
    | none => rwa [hkept] at hsettled
    | some f =>
      have hf : f.operatorKey = key := by simpa using List.find?_some hkept
      exact hf ▸ hvalue f (List.mem_of_find?_eq_some hkept)
  · exact fun hvalue f hf => hvalue f.operatorKey (hkeys f hf)

/-- The fragments of a key come from the modifiers of one kind. -/
lemma filter_map_ofModifier (schema : Schema) (typeName field : String) {β : Type}
    {ms : List Modifier} (key : String) (part : Modifier → Option β) (g : β → Filter)
    (hpart : ∀ m ∈ ms, ∀ b, part m = some b →
      ofModifier schema typeName field m = g b ∧ (g b).operatorKey = key)
    (hother : ∀ m ∈ ms, part m = none → (ofModifier schema typeName field m).operatorKey ≠ key) :
    ((ms.map (ofModifier schema typeName field)).filter fun f => f.operatorKey == key) =
      (ms.filterMap part).map g := by
  induction ms with
  | nil => rfl
  | cons m rest ih =>
    rw [List.forall_mem_cons] at hpart hother
    have hrest := ih hpart.2 hother.2
    cases hm : part m with
    | none => simp [hm, hother.1 hm, hrest]
    | some b =>
      obtain ⟨hof, hkey⟩ := hpart.1 b hm
      simp [hm, hof, hkey, hrest]

/-- Bounds set one after another say of a value what their last settings say. -/
lemma all_setBounds (schema : Schema) (field : String) (bounds : List (RangeBound × Json))
    (item : Json) :
    ((setBounds [] (bounds.map fun e => (e.1, schema.coerce field e.2))).all
      fun e => e.1.holds item e.2) = withinBounds schema field bounds item := by
  have hnodup : ((setBounds []
      (bounds.map fun e => (e.1, schema.coerce field e.2))).map Prod.fst).Nodup :=
    nodup_setBounds _ List.nodup_nil
  have hlookup : ∀ bound, (setBounds []
      (bounds.map fun e => (e.1, schema.coerce field e.2))).lookup bound =
        (bounds.reverse.lookup bound).map (schema.coerce field) := by
    intro bound
    rw [lookup_setBounds, ← List.map_reverse, lookup_map]
    simp
  rw [Bool.eq_iff_iff, withinBounds, List.all_eq_true, List.all_eq_true]
  constructor
  · intro h bound _
    cases hbound : bounds.reverse.lookup bound with
    | none => rfl
    | some v =>
      have hset := hlookup bound
      rw [hbound] at hset
      exact h (bound, schema.coerce field v) (mem_of_lookup_eq_some hset)
  · intro h e he
    have hset := lookup_eq_some_of_mem hnodup he
    rw [hlookup, Option.map_eq_some_iff] at hset
    obtain ⟨v, hv, hcoerced⟩ := hset
    have hmem : e.1 ∈ [RangeBound.gt, .gte, .lt, .lte] := by cases e.1 <;> simp
    have hbound := h e.1 hmem
    rw [hv] at hbound
    exact hcoerced ▸ hbound

variable {ms : List Modifier} (hplain : ∀ m ∈ ms, m.Plain)

include hplain

lemma settles_negations (hone : (ms.filterMap Modifier.negated?).length ≤ 1)
    (ih : ∀ e ∈ ms.filterMap Modifier.negated?,
      (ofExpression schema typeName field e).holds .unlimited id body =
        .ok (e.isTrueOf schema id body field)) :
    Settles id body (withKey? (folded (ms.map (ofModifier schema typeName field))) "not")
      (Modifier.refutedBy schema id body field ms) := by
  have hfragments := filter_map_ofModifier schema typeName field "not" Modifier.negated?
    (fun e => .not (ofExpression schema typeName field e))
    (fun m hm e he => by
      cases hplain m hm <;> simp_all [Modifier.negated?, ofModifier, operatorKey])
    (fun m hm he => by
      cases hplain m hm <;> simp_all [Modifier.negated?, ofModifier, ofTextMatch, operatorKey])
  rw [withKey?_folded, hfragments, collapse_of_length_le_one (by simpa using hone),
    Modifier.refutedBy_eq]
  cases hms : ms.filterMap Modifier.negated? with
  | nil => simp [Settles]
  | cons e rest =>
    rw [hms] at hone ih
    obtain rfl : rest = [] := by simpa using hone
    have he := ih e List.mem_cons_self
    simp [Settles, holds, he, Except.map]

lemma settles_bounds :
    Settles id body (withKey? (folded (ms.map (ofModifier schema typeName field))) "range")
      ((ms.filterMap Modifier.bound?).isEmpty ||
        (body.itemsAt field).any (withinBounds schema field (ms.filterMap Modifier.bound?))) := by
  have hfragments := filter_map_ofModifier schema typeName field "range" Modifier.bound?
    (fun b => range field [(b.1, schema.coerce field b.2)])
    (fun m hm e he => by
      cases hplain m hm <;> simp_all [Modifier.bound?, ofModifier, operatorKey]
      simp [← he])
    (fun m hm he => by
      cases hplain m hm <;> simp_all [Modifier.bound?, ofModifier, ofTextMatch, operatorKey])
  rw [withKey?_folded, hfragments]
  cases ms.filterMap Modifier.bound? with
  | nil => simp [Settles, collapse]
  | cons b bounds =>
    have hcollapse := collapse_ranges field (b.1, schema.coerce field b.2)
      (bounds.map fun e => (e.1, schema.coerce field e.2))
    have hmap : (b :: bounds).map (fun b => range field [(b.1, schema.coerce field b.2)]) =
        (((b :: bounds).map fun e => (e.1, schema.coerce field e.2)).map
          fun b => range field [b]) := by
      rw [List.map_map]
      rfl
    have hcheck := funext (all_setBounds schema field (b :: bounds))
    rw [List.map_cons] at hcheck
    rw [hmap, List.map_cons, hcollapse]
    simp only [Settles, holds, fieldHolds_eq_any, hcheck, List.isEmpty_cons, Bool.false_or]

lemma settles_patterns (hone : (ms.filterMap Modifier.pattern?).length ≤ 1) :
    Settles id body (withKey? (folded (ms.map (ofModifier schema typeName field))) "regexp")
      ((ms.filterMap Modifier.pattern?).all fun p => (body.itemsAt field).any p.matchesValue) := by
  have hfragments := filter_map_ofModifier schema typeName field "regexp" Modifier.pattern?
    (regexp field)
    (fun m hm e he => by
      cases hplain m hm <;> simp_all [Modifier.pattern?, ofModifier, ofTextMatch, operatorKey])
    (fun m hm he => by
      cases hplain m hm <;> simp_all [Modifier.pattern?, ofModifier, operatorKey])
  rw [withKey?_folded, hfragments, collapse_of_length_le_one (by simpa using hone)]
  cases hms : ms.filterMap Modifier.pattern? with
  | nil => simp [Settles]
  | cons p rest =>
    rw [hms] at hone
    obtain rfl : rest = [] := by simpa using hone
    simp only [Settles, List.map_cons, List.head?_cons, holds, refusal?_unlimited,
      fieldHolds_eq_any, List.all_cons, List.all_nil, Bool.and_true]
    rfl

/-- Plain modifiers on a field say what they say one by one. -/
lemma holds_foldFragments
    (hnegations : (ms.filterMap Modifier.negated?).length ≤ 1)
    (hpatterns : (ms.filterMap Modifier.pattern?).length ≤ 1)
    (ih : ∀ e ∈ ms.filterMap Modifier.negated?,
      (ofExpression schema typeName field e).holds .unlimited id body =
        .ok (e.isTrueOf schema id body field)) :
    (foldFragments (ofModifiers schema typeName field ms)).holds .unlimited id body =
      .ok ((Expression.modifiers ms).isTrueOf schema id body field) := by
  have hkeys : ∀ f ∈ folded (ms.map (ofModifier schema typeName field)),
      f.operatorKey ∈ ["not", "range", "regexp"] := by
    apply forall_mem_folded
    · intro f g _ hg
      rwa [operatorKey_supersede]
    · intro f hf
      obtain ⟨m, hm, rfl⟩ := List.mem_map.1 hf
      cases hplain m hm <;> simp [ofModifier, ofTextMatch, operatorKey]
  let value : String → Bool := fun key =>
    if key = "not" then Modifier.refutedBy schema id body field ms
    else if key = "range" then
      (ms.filterMap Modifier.bound?).isEmpty ||
        (body.itemsAt field).any (withinBounds schema field (ms.filterMap Modifier.bound?))
    else (ms.filterMap Modifier.pattern?).all fun p => (body.itemsAt field).any p.matchesValue
  have hsettled : ∀ key ∈ ["not", "range", "regexp"],
      Settles id body (withKey? (folded (ms.map (ofModifier schema typeName field))) key)
        (value key) := by
    rw [List.forall_mem_cons, List.forall_mem_cons, List.forall_mem_cons]
    refine ⟨?_, ?_, ?_, List.forall_mem_nil _⟩
    · exact settles_negations hplain hnegations ih
    · exact settles_bounds hplain
    · exact settles_patterns hplain hpatterns
  rw [foldFragments_eq, ofModifiers_eq_map, holds_all,
    allHold_by_key (nodup_folded _) hkeys hsettled]
  simp [value, Expression.isTrueOf, Bool.and_assoc]

omit hplain

theorem holds_ofExpression (e : Expression) (h : e.isPlain = true) :
    (ofExpression schema typeName field e).holds .unlimited id body =
      .ok (e.isTrueOf schema id body field) := by
  induction e with
  | literal v => exact holds_ofLiteral v
  | oneOf vs => exact holds_ofList vs
  | modifiers ms ih =>
    simp only [Expression.isPlain, Bool.and_eq_true, decide_eq_true_eq] at h
    obtain ⟨⟨hnegations, hpatterns⟩, hms⟩ := h
    have hplain := Modifier.plain_of_arePlain hms
    refine holds_foldFragments hplain hnegations hpatterns fun e he => ?_
    -- A negated expression is plain, for it is negated by a plain modifier.
    obtain ⟨m, hm, hnegated⟩ := List.mem_filterMap.1 he
    cases hplain m hm with
    | not hinner =>
      obtain rfl := Option.some.inj hnegated
      exact ih _ hm hinner
    | range bound v => simp [Modifier.negated?] at hnegated
    | text how s => simp [Modifier.negated?] at hnegated

/-! ## Clauses -/

theorem holds_ofClause (c : Clause) (h : c.isPlain = true) :
    (ofClause schema typeName c).holds .unlimited id body = .ok (c.isTrueOf schema id body) := by
  induction c with
  | fields fs =>
    rw [Clause.isPlain, List.all_eq_true] at h
    rw [ofClause, holds_all, Clause.isTrueOf]
    exact allHold_map fun e he => holds_ofExpression e.2 (h e he)
  | and cs ih =>
    have hcs := Clause.isPlain_of_arePlain h
    rw [ofClause, ofClauses_eq_map, holds, Clause.isTrueOf, Clause.allTrueOf_eq]
    exact allHold_map fun c hc => ih c hc (hcs c hc)
  | or cs ih =>
    have hcs := Clause.isPlain_of_arePlain h
    rw [ofClause, ofClauses_eq_map, holds, Clause.isTrueOf, Clause.someTrueOf_eq]
    exact someHolds_map fun c hc => ih c hc (hcs c hc)
  | all cs ih =>
    have hcs := Clause.isPlain_of_arePlain h
    rw [ofClause, ofClauses_eq_map, holds_all, Clause.isTrueOf, Clause.allTrueOf_eq]
    exact allHold_map fun c hc => ih c hc (hcs c hc)

/-- A value that is not truthy is the same under every declaration. -/
lemma coerce_of_not_isTruthy (type : Option AttributeType) {v : Json} (h : v.isTruthy = false) :
    v.coerce type = v := by
  cases v with
  | str s =>
    obtain rfl : s = "" := by simpa [Json.isTruthy] using h
    -- No type reads the empty text.
    cases type with
    | none => rfl
    | some t => cases t <;> rfl
  | arr items => simp [Json.isTruthy] at h
  | _ => rfl

/-- A clause that asks for no identifier compiles to the filter that holds of everything. -/
lemma ofClause_of_asksNoId {c : Clause} (h : c.asksNoId = true) :
    ofClause schema typeName c = .matchAll := by
  unfold Clause.asksNoId at h
  split at h
  · next field v =>
    rw [Bool.and_eq_true, Bool.not_eq_true'] at h
    obtain ⟨hid, hfalsy⟩ := h
    have hcoerce : schema.coerce field v = v := coerce_of_not_isTruthy _ hfalsy
    simp [ofClause, all, ofExpression, ofLiteral, hid, hcoerce, hfalsy]
  · cases h

/-- The filter of a where-clause is that of the clause itself. -/
lemma ofWhere_some (schema : Schema) (typeName : String) (c : Clause) :
    ofWhere schema typeName (some c) = ofClause schema typeName c := by
  rw [ofWhere]
  split
  · next hasks => rw [ofClause_of_asksNoId hasks]
  · rfl

/-- **A compiled clause says of a document what the clause itself says.**  The answer for a plain
clause is the direct reading, unless deciding it gets to a pattern that is refused; then that is the
failure. -/
theorem holds_ofWhere (library : PatternLibrary) (schema : Schema) (typeName id : String)
    (body : Record) (c : Clause) (h : c.isPlain = true) :
    let f := ofWhere schema typeName (some c)
    ((∀ reason, ¬f.Meets library id body (.patternRefused reason)) →
      f.holds library id body = .ok (c.isTrueOf schema id body)) ∧
    ∀ reason, f.Meets library id body (.patternRefused reason) →
      f.holds library id body = .error (.patternRefused reason) := by
  intro f
  have hdirect : f.holds .unlimited id body = .ok (c.isTrueOf schema id body) := by
    rw [show f = ofClause schema typeName c from ofWhere_some schema typeName c,
      holds_ofClause c h]
  exact ⟨holds_eq_ok_of_unlimited hdirect, fun _ => Meets.holds_eq_error⟩

/-- Of two items each is on the right side of one bound, but none is within both once the lower
bound is set again; so the negation holds.  With another item in between it does not. -/
theorem holds_ofWhere_split_range :
    let schema := Schema.ofList [("price", { type := .integer })]
    let within : Expression := .modifiers [.range .gt (.str "3"), .range .lt (.str "9"),
      .range .gt (.str "5")]
    let c : Clause := .all [
      .fields [("price", .modifiers [.not within]),
        ("of.name", .modifiers [.text .startsWith (.str "Ab")])],
      .or [.and [], .fields [("id", .literal (.str "z"))]]]
    let f := ofWhere schema "item" (some c)
    let body (n : Int) : Record :=
      [("price", .arr [.num (.int 4), .num (.int n)]), ("of", .obj [("name", .str "abc")])]
    c.isPlain = true ∧ (∀ n reason, ¬f.Meets .unlimited "a" (body n) (.patternRefused reason)) ∧
      f.holds .unlimited "a" (body 12) = .ok true ∧
      f.holds .unlimited "a" (body 7) = .ok false := by
  intro schema within c f body
  have hplain : c.isPlain = true := by decide
  have hdirect : ∀ n, f.holds .unlimited "a" (body n) = .ok (c.isTrueOf schema "a" (body n)) :=
    fun n => (holds_ofWhere .unlimited schema "item" "a" (body n) c hplain).1 not_meets_unlimited
  exact ⟨hplain, fun _ => not_meets_unlimited,
    (hdirect 12).trans (congrArg Except.ok (by decide +kernel)),
    (hdirect 7).trans (congrArg Except.ok (by decide +kernel))⟩

/-- A text that is longer than what a library compiles cannot be looked for. -/
lemma holds_ofWhere_contains {limit : Nat} {s : String} (h : limit < s.toList.length) :
    (ofWhere {} "item" (some (.fields [("t", .modifiers [.text .contains (.str s)])]))).holds
        (.bounded limit) "a" [("t", .str "x")] =
      .error (.patternRefused PatternLibrary.sizeReason) :=
  holds_regexp_of_refused (Pattern.refusal?_contains h)

/-- So a plain clause need not have an answer. -/
theorem holds_ofWhere_too_long :
    let c : Clause := .fields
      [("t", .modifiers [.text .contains (.str (String.ofList (List.replicate 200000 'k')))])]
    c.isPlain = true ∧
      (ofWhere {} "item" (some c)).holds (.bounded 190000) "a" [("t", .str "x")] =
        .error (.patternRefused PatternLibrary.sizeReason) := by
  refine ⟨rfl, holds_ofWhere_contains ?_⟩
  rw [String.toList_ofList, List.length_replicate]
  decide

end Filter

end CriteriaSearch

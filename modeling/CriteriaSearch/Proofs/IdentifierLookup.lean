import CriteriaSearch.Collection.Definition
import CriteriaSearch.Proofs.ClauseReading
import CriteriaSearch.Proofs.Successes

/-!
# Identifier look-ups and filters

A clause that names identifiers alone is answered by looking them up, while counts and removals go
by its filter.  The look-up takes the values as they are written; the filter takes them after
coercion to the declared type of `id`, and takes a value that is no longer truthy for the absence of
an identifier.  The two select the same documents exactly when coercion keeps the identifiers that
the clause names (`Clause.KeepsIdentifiers`).

Normalizing makes sure of this for an integer primary key `id` and for a foreign key, and a textual
`id` needs no care.  Under every other declaration of `id` some clause is answered differently
(`selects_idLookup_iff`).
-/

namespace CriteriaSearch

/-! ## Statements -/

/-- Whether the filter of a clause selects, among all documents, those with the given
identifiers. -/
def Clause.Selects (s : CollectionSchema) (ids : List String) (c : Clause) : Prop :=
  ∀ (patterns : PatternLibrary) (id : String) (body : Record),
    (Filter.ofWhere s.schema s.typeName (some c)).holds patterns id body = .ok true ↔ id ∈ ids

/-- Whether coercion leaves the identifiers that a look-up names: a single value stays truthy and
denotes the same identifier, a list denotes the same identifiers in all. -/
def Clause.KeepsIdentifiers (schema : Schema) : Clause → Prop
  | .fields [(field, .literal v)] =>
    (schema.coerce field v).isTruthy = true ∧ (schema.coerce field v).idText? = v.idText?
  | .fields [(field, .oneOf vs)] =>
    ∀ id, id ∈ (vs.map (schema.coerce field)).filterMap Json.idText? ↔
      id ∈ vs.filterMap Json.idText?
  | _ => True

/-- Whether identifiers are declared as text, by themselves or by what normalizing does to keys. -/
def CollectionDefinition.HasTextIdentifier (d : CollectionDefinition) : Prop :=
  ∀ a, d.schema.attributes[Schema.idField]? = some a →
    a.type.isTextual = true ∨ a.foreignKey = true ∨ (a.primaryKey = true ∧ a.type = .integer)

/-! ## Look-ups -/

lemma Json.filterMap_idText?_of_mapM {vs : List Json} {ids : List String}
    (h : vs.mapM Json.idText? = some ids) : vs.filterMap Json.idText? = ids := by
  have hmap : vs.filterMap Json.idText? = (vs.map Json.idText?).filterMap id := by
    rw [List.filterMap_map]
    rfl
  rw [hmap, map_eq_map_some_of_mapM h, List.filterMap_map]
  exact List.filterMap_some

lemma Json.idText?_isSome_of_mapM {vs : List Json} {ids : List String}
    (h : vs.mapM Json.idText? = some ids) : ∀ v ∈ vs, v.idText?.isSome = true := by
  intro v hv
  have hmem : v.idText? ∈ ids.map some :=
    map_eq_map_some_of_mapM h ▸ List.mem_map_of_mem hv
  obtain ⟨id, -, hid⟩ := List.mem_map.1 hmem
  rw [← hid]
  rfl

namespace Clause

/-- What a look-up looks like: an equality with a truthy value or a membership, on `id`. -/
inductive Lookup : Clause → List String → Prop
  | literal {v : Json} {id : String} (htrue : v.isTruthy = true) (hid : v.idText? = some id) :
    Lookup (.fields [(Schema.idField, .literal v)]) [id]
  | oneOf {vs : List Json} {ids : List String} (hids : vs.mapM Json.idText? = some ids) :
    Lookup (.fields [(Schema.idField, .oneOf vs)]) ids

lemma lookup_of_idLookup? {c : Clause} {ids : List String} (h : c.idLookup? = some ids) :
    c.Lookup ids := by
  unfold idLookup? at h
  split at h
  · next field e =>
    split at h
    · next hfield =>
      subst hfield
      split at h
      · next v =>
        split at h
        · next htrue =>
          obtain ⟨id, hid, rfl⟩ := Option.map_eq_some_iff.1 h
          exact .literal htrue hid
        · simp at h
      · exact .oneOf h
      · simp at h
    · simp at h
  · simp at h

/-- A look-up is decided without any pattern. -/
lemma Lookup.holds_ofClause {c : Clause} {ids : List String} (h : c.Lookup ids) (schema : Schema)
    (typeName : String) (patterns : PatternLibrary) (id : String) (body : Record) :
    (Filter.ofClause schema typeName c).holds patterns id body =
      .ok (c.isTrueOf schema id body) := by
  cases h with
  | literal =>
    rw [Filter.ofClause, Filter.holds_all, isTrueOf]
    refine Filter.allHold_map (List.forall_mem_singleton.2 ?_)
    rw [Filter.ofExpression, Filter.holds_ofLiteral]
  | oneOf =>
    rw [Filter.ofClause, Filter.holds_all, isTrueOf]
    refine Filter.allHold_map (List.forall_mem_singleton.2 ?_)
    rw [Filter.ofExpression, Filter.holds_ofList]

/-- No look-up asks for the absence of an identifier, so it is compiled like any other clause. -/
lemma Lookup.holds_iff {c : Clause} {ids : List String} (h : c.Lookup ids) (schema : Schema)
    (typeName : String) (patterns : PatternLibrary) (id : String) (body : Record) :
    (Filter.ofWhere schema typeName (some c)).holds patterns id body = .ok true ↔
      c.isTrueOf schema id body = true := by
  have hnone : c.asksNoId = false := by
    cases h with
    | literal htrue _ => simp [asksNoId, htrue]
    | oneOf _ => rfl
  rw [Filter.ofWhere, hnone, if_neg Bool.false_ne_true, h.holds_ofClause, Except.ok.injEq]

lemma isTrueOf_literal_iff (schema : Schema) (v : Json) (id : String) (body : Record) :
    (fields [(Schema.idField, .literal v)]).isTrueOf schema id body = true ↔
      ((schema.coerce Schema.idField v).isTruthy = true →
        (schema.coerce Schema.idField v).idText? = some id) := by
  have hfield : Schema.isIdField Schema.idField = true := rfl
  cases htrue : (schema.coerce Schema.idField v).isTruthy <;>
    simp [isTrueOf, Expression.isTrueOf, hfield, htrue]

lemma isTrueOf_oneOf_iff (schema : Schema) (vs : List Json) (id : String) (body : Record) :
    (fields [(Schema.idField, .oneOf vs)]).isTrueOf schema id body = true ↔
      id ∈ (vs.map (schema.coerce Schema.idField)).filterMap Json.idText? := by
  have hfield : Schema.isIdField Schema.idField = true := rfl
  simp [isTrueOf, Expression.isTrueOf, hfield]

/-- The filter of a look-up selects what the look-up names exactly when coercion keeps the
identifiers. -/
lemma selects_iff_keepsIdentifiers {c : Clause} {ids : List String} (h : c.Lookup ids)
    (s : CollectionSchema) : c.Selects s ids ↔ c.KeepsIdentifiers s.schema := by
  have hselects : c.Selects s ids ↔
      ∀ (id : String) (body : Record), c.isTrueOf s.schema id body = true ↔ id ∈ ids := by
    constructor
    · exact fun hall id body => (h.holds_iff _ _ _ _ _).symm.trans (hall .unlimited id body)
    · exact fun hall patterns id body => (h.holds_iff _ _ _ _ _).trans (hall id body)
  rw [hselects]
  cases h with
  | @literal v i htrue hid =>
    simp only [isTrueOf_literal_iff, List.mem_singleton, KeepsIdentifiers, hid]
    constructor
    · intro hagree
      -- A value that is not truthy selects every document, the ones of other identifiers too.
      have hcoerced : (s.schema.coerce Schema.idField v).isTruthy = true := by
        by_contra hfalse
        have hother := (hagree (i ++ "'") []).1 fun htrue => absurd htrue hfalse
        have hlength := congrArg String.length hother
        simp [String.length_append] at hlength
      exact ⟨hcoerced, (hagree i []).2 rfl hcoerced⟩
    · rintro ⟨hcoerced, hkept⟩ id _
      constructor
      · intro hid'
        have := hid' hcoerced
        rw [hkept] at this
        exact (Option.some.inj this).symm
      · rintro rfl _
        exact hkept
  | @oneOf vs ids hids =>
    simp only [isTrueOf_oneOf_iff, KeepsIdentifiers, Json.filterMap_idText?_of_mapM hids]
    exact ⟨fun hagree id => hagree id [], fun hkept id _ => hkept id⟩

end Clause

/-! ## Declarations -/

lemma declaredType?_normalize (d : CollectionDefinition) :
    d.normalize.schema.declaredType? Schema.idField =
      (d.schema.attributes[Schema.idField]?).map
        fun a => (a.normalize Schema.idField).type := by
  simp only [Schema.declaredType?, CollectionDefinition.normalize, Schema.normalize,
    Std.TreeMap.getElem?_map, Option.map_map]
  rfl

lemma isTextual_normalize (a : Attribute) :
    (a.normalize Schema.idField).type.isTextual = true ↔
      a.type.isTextual = true ∨ a.foreignKey = true ∨
        (a.primaryKey = true ∧ a.type = .integer) := by
  have htype : (a.normalize Schema.idField).type =
      if a.foreignKey = true ∨ (a.primaryKey = true ∧ a.type = .integer) then .string
      else a.type := by
    simp [Attribute.normalize, or_comm]
  rw [htype]
  split
  · next hkey => exact iff_of_true rfl (.inr hkey)
  · next hkey => exact ⟨.inl, fun h => h.resolve_right hkey⟩

/-- What denotes an identifier is kept where identifiers are text or nothing is declared. -/
lemma coerce_eq_self {type : Option AttributeType} (htype : ∀ t ∈ type, t.isTextual = true)
    {v : Json} (hv : v.idText?.isSome = true) : v.coerce type = v := by
  cases v with
  | str s =>
    match type, htype with
    | none, _ => rfl
    | some .string, _ => rfl
    | some .text, _ => rfl
  | arr items => simp [Json.idText?] at hv
  | _ => rfl

/-- Under a type that is not textual some text of an identifier reads as no identifier. -/
lemma exists_readText?_not_isTruthy {t : AttributeType} (ht : t.isTextual = false) :
    ∃ s : String, (Json.str s).isTruthy = true ∧
      ((t.readText? s).getD (.str s)).isTruthy = false := by
  cases t with
  | string => simp [AttributeType.isTextual] at ht
  | text => simp [AttributeType.isTextual] at ht
  | integer => exact ⟨"0", by decide +kernel⟩
  | float => exact ⟨"0", by decide +kernel⟩
  | _ => exact ⟨"false", by decide⟩

/-- Under a declaration that is not textual some look-up loses its identifier. -/
lemma exists_not_keepsIdentifiers {schema : Schema} {t : AttributeType}
    (hdeclared : schema.declaredType? Schema.idField = some t) (ht : t.isTextual = false) :
    ∃ c ids, Clause.idLookup? c = some ids ∧ ¬c.KeepsIdentifiers schema := by
  obtain ⟨s, htrue, hfalse⟩ := exists_readText?_not_isTruthy ht
  refine ⟨.fields [(Schema.idField, .literal (.str s))], [s], ?_, ?_⟩
  · simp [Clause.idLookup?, htrue, Json.idText?]
  · have hcoerce : schema.coerce Schema.idField (.str s) = (t.readText? s).getD (.str s) := by
      rw [Schema.coerce, hdeclared, Json.coerce, Option.bind_some]
    rw [Clause.KeepsIdentifiers, hcoerce, hfalse]
    exact fun h => absurd h.1 Bool.false_ne_true

/-- Where identifiers are text or nothing is declared, every look-up keeps its identifiers. -/
lemma keepsIdentifiers_of_isTextual {schema : Schema}
    (htype : ∀ t ∈ schema.declaredType? Schema.idField, t.isTextual = true) {c : Clause}
    {ids : List String} (h : c.Lookup ids) : c.KeepsIdentifiers schema := by
  have hself : ∀ v : Json, v.idText?.isSome = true → schema.coerce Schema.idField v = v :=
    fun v hv => coerce_eq_self htype hv
  cases h with
  | literal htrue hid =>
    rw [Clause.KeepsIdentifiers, hself _ (Option.isSome_of_eq_some hid)]
    exact ⟨htrue, rfl⟩
  | oneOf hids =>
    have hmap := List.map_congr_left (g := id) fun v hv =>
      hself v (Json.idText?_isSome_of_mapM hids v hv)
    rw [Clause.KeepsIdentifiers, hmap, List.map_id]
    exact fun id => Iff.rfl

/-- **An identifier look-up and its filter select the same documents exactly when coercion keeps the
identifiers**, and this is so for every look-up exactly when the definition declares identifiers as
text. -/
theorem selects_idLookup_iff (d : CollectionDefinition) :
    (∀ (c : Clause) (ids : List String), c.idLookup? = some ids →
      (c.Selects d.normalize ids ↔ c.KeepsIdentifiers d.normalize.schema)) ∧
    ((∀ (c : Clause) (ids : List String), c.idLookup? = some ids → c.Selects d.normalize ids) ↔
      d.HasTextIdentifier) := by
  have hagree : ∀ (c : Clause) (ids : List String), c.idLookup? = some ids →
      (c.Selects d.normalize ids ↔ c.KeepsIdentifiers d.normalize.schema) := fun c ids h =>
    Clause.selects_iff_keepsIdentifiers (Clause.lookup_of_idLookup? h) d.normalize
  refine ⟨hagree, ?_, ?_⟩
  · intro hall a ha
    rw [← isTextual_normalize]
    by_contra htype
    have hdeclared : d.normalize.schema.declaredType? Schema.idField =
        some (a.normalize Schema.idField).type := by
      rw [declaredType?_normalize, ha, Option.map_some]
    obtain ⟨c, ids, hlookup, hlost⟩ :=
      exists_not_keepsIdentifiers hdeclared (Bool.eq_false_iff.2 htype)
    exact hlost ((hagree c ids hlookup).1 (hall c ids hlookup))
  · intro htext c ids hlookup
    rw [hagree c ids hlookup]
    refine keepsIdentifiers_of_isTextual ?_ (Clause.lookup_of_idLookup? hlookup)
    intro t ht
    rw [declaredType?_normalize, Option.mem_def, Option.map_eq_some_iff] at ht
    obtain ⟨a, ha, rfl⟩ := ht
    exact (isTextual_normalize a).2 (htext a ha)

/-- An integer `id` that is flagged as the primary key: the text of a padded number is looked up,
and matched, as it is written. -/
theorem selects_idLookup_iff_primary_key :
    let d : CollectionDefinition :=
      { identity := "item"
        schema := .ofList [("id", { type := .integer, primaryKey := true })] }
    let c : Clause := .fields [("id", .literal (.str "007"))]
    c.idLookup? = some ["007"] ∧ c.Selects d.normalize ["007"] := by
  intro d c
  have hlookup : c.idLookup? = some ["007"] := by decide
  exact ⟨hlookup, ((selects_idLookup_iff d).1 c ["007"] hlookup).2
    ⟨by decide, by decide⟩⟩

/-- An integer `id` that nothing flags: zero is looked up as the identifier that it is, but its
filter holds of every document. -/
theorem selects_idLookup_unflagged_zero :
    let d : CollectionDefinition :=
      { identity := "item", schema := .ofList [("id", { type := .integer })] }
    let c : Clause := .fields [("id", .literal (.str "0"))]
    c.idLookup? = some ["0"] ∧ "a" ∉ ["0"] ∧
      ∀ patterns : PatternLibrary,
        (Filter.ofWhere d.normalize.schema d.normalize.typeName (some c)).holds patterns "a" [] =
          .ok true :=
  ⟨by decide, by decide, fun _ => rfl⟩

end CriteriaSearch

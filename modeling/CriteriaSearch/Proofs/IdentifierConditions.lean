import CriteriaSearch.Proofs.InsertedBatches
import CriteriaSearch.Proofs.QueryRequests
import CriteriaSearch.Proofs.TextMatching

/-!
# Conditions on the identifier

Callers see the identifier of a document under the name `id`, and a clause can put any condition to
that name.  An equality and a membership are compiled to a look-up of identifiers, and an order by
`id` is an order by what the store keeps; but a bound and a text comparison are compiled to a
condition on a field of the body, and an inserted body has no such field
(`Document.IsInserted.resolve?_idField`).

So they hold of no inserted document, and finding by them is right exactly where no stored
identifier meets them (`Collection.findsMeeting_iff`).
-/

namespace CriteriaSearch

/-! ## Conditions -/

/-- A modifier that compares with a text: a bound, or a text comparison. -/
inductive TextCondition where
  | bounded (bound : RangeBound) (limit : String)
  | textual (how : TextMatch) (literal : String)

namespace TextCondition

/-- The meaning of the keys under which a condition is written. -/
def kind : TextCondition → ModifierKind
  | bounded bound _ => .range bound
  | textual how _ => .text how

/-- The text to compare with. -/
def operand : TextCondition → String
  | bounded _ limit => limit
  | textual _ literal => literal

/-- The condition as a modifier. -/
def modifier : TextCondition → Modifier
  | bounded bound limit => .range bound (.str limit)
  | textual how literal => .text how (.str literal)

/-- Whether a text meets a condition: it is on the side of the bound, or the comparison says so of
it. -/
def IsMet : TextCondition → String → Prop
  | bounded bound limit, s => bound.admits (compare s limit) = true
  | textual how literal, s => how.Says (fun _ => True) literal.toList s.toList

/-- The clause that puts a condition to the identifier. -/
def clause (condition : TextCondition) : Clause :=
  .ofModifier Schema.idField condition.modifier

/-- The criteria with a condition on the identifier, in the order of identifiers. -/
def criteria (condition : TextCondition) (direction : SortDirection) (limit : Nat) : Criteria :=
  { clause := some condition.clause, sort := [⟨Schema.idField, direction⟩], limit := some limit }

/-- A condition is read from its key and its text. -/
lemma ofJson?_clause (condition : TextCondition) {key : String}
    (h : ModifierKind.ofKey key = condition.kind) :
    Clause.ofJson? (.obj [(Schema.idField, .obj [(key, .str condition.operand)])]) =
      .ok condition.clause := by
  have hmodifiers : Modifier.ofEntries [(key, .str condition.operand)] = [condition.modifier] := by
    rw [Modifier.ofEntries, Modifier.ofEntries, h]
    cases condition <;> rfl
  have hexpression : Expression.ofJson (.obj [(key, .str condition.operand)]) =
      .modifiers [condition.modifier] := by
    rw [Expression.ofJson, hmodifiers]
  rw [Clause.ofJson?]
  change (Except.ok ⟨[(Schema.idField, Expression.ofJson _)], []⟩ : Except _ Clause.Parts).map _ = _
  rw [hexpression]
  rfl

end TextCondition

/-! ## Inserted documents -/

namespace Document

/-- Whether a body is what is inserted for some record. -/
def IsInserted (schema : Schema) (body : Record) : Prop :=
  ∃ r d, prepare schema r = .ok d ∧ d.body = body

/-- An inserted body does not resolve the name of the identifier. -/
lemma IsInserted.resolve?_idField {schema : Schema} {body : Record} (h : IsInserted schema body) :
    body.resolve? Schema.idField = none := by
  obtain ⟨r, d, hprepare, rfl⟩ := h
  have hmissing : d.body.get? Schema.idField = none := by
    rw [Record.get?_eq_none_iff]
    intro hmem
    obtain ⟨e, he, hkey⟩ := List.mem_map.1 hmem
    have hno := (settled_of_prepare hprepare).noId e he
    rw [hkey] at hno
    cases hno
  have hnames : Text.splitString '.' Schema.idField = [Schema.idField] := by
    decide
  have hname : Schema.idField ≠ Schema.storedIdField := by
    decide
  rw [Record.resolve?, if_neg hname, hmissing, hnames]
  exact hmissing

end Document

/-- Writing documents leaves bodies of a kind, where those before and those prepared are. -/
lemma Documents.Writes.forall_body {P : Record → Prop} {ds : Documents}
    {prepared : List PreparedDocument} {written : List StoredDocument}
    (h : ds.Writes prepared written) (hprepared : ∀ d ∈ prepared, P d.body)
    (hds : ∀ (id : String) (body : Record), ds[id]? = some body → P body) :
    ∀ (id : String) (body : Record), (written.foldl write ds)[id]? = some body → P body := by
  induction h with
  | nil ds => exact hds
  | cons hid hbody hrest ih =>
    rw [List.forall_mem_cons] at hprepared
    refine ih hprepared.2 fun id body hget => ?_
    rw [getElem?_write] at hget
    split at hget
    · rw [← Option.some.inj hget, hbody]
      exact hprepared.1
    · exact hds id body hget

namespace Collection

variable {c : Collection} {m m' : Memory}

/-- Whether every document of a collection was inserted. -/
def HoldsInserted (c : Collection) (m : Memory) : Prop :=
  m.Stores (Document.IsInserted c.schema.schema) c.address

/-- **Inserting leaves inserted documents.** -/
lemma HoldsInserted.insert (h : c.HoldsInserted m) {records shown : List Record}
    (hinsert : (c.insert records).Yields Memory.client m shown m') : c.HoldsInserted m' := by
  cases hprepared : records.mapM c.prepare with
  | error e =>
    rw [insert_eq_fail hprepared] at hinsert
    cases hinsert.1
  | ok prepared =>
    obtain ⟨written, _, _, hwrites, hyields, -, hdocuments, -⟩ := exists_yields_insert hprepared m
    obtain rfl := hinsert.2.symm.trans hyields.2
    have hbodies : ∀ d ∈ prepared, Document.IsInserted c.schema.schema d.body := by
      intro d hd
      obtain ⟨r, -, hr⟩ := exists_of_mem_of_mapM hprepared d hd
      exact ⟨r, d, prepare_eq_ok_iff.1 hr, rfl⟩
    intro id body hbody
    rw [hdocuments] at hbody
    exact hwrites.forall_body hbodies h id body hbody

/-! ## Finding by a condition -/

/-- Whether finding by a condition on the identifier gives the records whose identifier meets it,
of those that are stored, and no others. -/
def FindsMeeting (c : Collection) (m : Memory) (condition : TextCondition)
    (direction : SortDirection) (limit : Nat) : Prop :=
  ∃ records, ((c.find (condition.criteria direction limit)).run Memory.client m).result =
      .ok (.documents records) ∧
    ∀ r, r ∈ records ↔
      (∃ (id : String) (body : Record), (m.documents c.address)[id]? = some body ∧
        r = Document.hydrate id body) ∧
      ∃ id, r.get? Schema.idField = some (.str id) ∧ condition.IsMet id

/-- A condition on the identifier holds of no inserted document. -/
lemma holds_condition (h : c.HoldsInserted m) (condition : TextCondition) {id : String}
    {body : Record} (hbody : (m.documents c.address)[id]? = some body) :
    (Filter.ofWhere c.schema.schema c.schema.typeName (some condition.clause)).holds m.patterns id
      body = .ok false := by
  have hmissing (check : Json → Bool) : Filter.fieldHolds body Schema.idField check = false := by
    rw [Filter.fieldHolds, (h id body hbody).resolve?_idField]
  have hrefusal (p : Pattern) : Filter.refusal? m.patterns body Schema.idField p = none := by
    rw [Filter.refusal?, (h id body hbody).resolve?_idField, Option.bind_none]
  cases condition with
  | bounded bound limit =>
    have hfilter : Filter.ofWhere c.schema.schema c.schema.typeName
        (some (TextCondition.bounded bound limit).clause) =
          .range Schema.idField [(bound, c.schema.schema.coerce Schema.idField (.str limit))] := rfl
    rw [hfilter, Filter.holds, hmissing]
  | textual how literal =>
    have hfilter : Filter.ofWhere c.schema.schema c.schema.typeName
        (some (TextCondition.textual how literal).clause) =
          .regexp Schema.idField (Pattern.ofMatch how literal.toList) := rfl
    rw [hfilter, Filter.holds, hrefusal, hmissing]

/-- Finding by a condition on the identifier finds nothing among inserted documents. -/
lemma result_find_condition (h : c.HoldsInserted m) (condition : TextCondition)
    (direction : SortDirection) (limit : Nat) :
    ((c.find (condition.criteria direction limit)).run Memory.client m).result =
      .ok (.documents []) := by
  have hmatching : (m.documents c.address).matching m.patterns
      (Filter.ofWhere c.schema.schema c.schema.typeName (some condition.clause)) = .ok [] := by
    rw [Documents.matching_eq_ok_iff]
    constructor
    · symm
      rw [List.eq_nil_iff_forall_not_mem]
      intro d hd
      obtain ⟨hstored, hholds⟩ := (Documents.mem_selected _ _ d).1 hd
      rw [holds_condition h condition hstored] at hholds
      cases hholds
    · intro d hd
      exact ⟨false, holds_condition h condition ((Documents.mem_toDocuments _ d).1 hd)⟩
  have hlookup : (condition.criteria direction limit).idLookup? = none := by
    cases condition <;> rfl
  obtain ⟨q, hcompile, hfilter, hpayloads⟩ : ∃ q,
      c.compile (condition.criteria direction limit) = .ok q ∧
        q.filter = Filter.ofWhere c.schema.schema c.schema.typeName (some condition.clause) ∧
        q.hasPayloads = false := ⟨_, rfl, rfl, rfl⟩
  have hlisting : m.listing c.address q = .ok [] := by
    rw [Memory.listing, hfilter, hmatching]
    exact sortDocuments_of_length_le (Nat.zero_le _)
  refine (result_find_eq_ok_iff hlookup).2 ⟨q, [], hcompile, hlisting, ?_⟩
  simp [Query.found, hpayloads, Query.window]

/-- **Finding by a bound or a text comparison on the identifier gives the documents that meet it
exactly where there are none: among inserted documents it finds nothing**, however the condition is
written. -/
theorem findsMeeting_iff (c : Collection) (m : Memory) (h : c.HoldsInserted m)
    (condition : TextCondition) (direction : SortDirection) (limit : Nat) :
    ((c.find (condition.criteria direction limit)).run Memory.client m).result =
        .ok (.documents []) ∧
      (c.FindsMeeting m condition direction limit ↔
        ∀ id ∈ m.documents c.address, ¬condition.IsMet id) ∧
      ∀ key, ModifierKind.ofKey key = condition.kind →
        Clause.ofJson? (.obj [(Schema.idField, .obj [(key, .str condition.operand)])]) =
          .ok condition.clause := by
  have hfind := result_find_condition h condition direction limit
  refine ⟨hfind, ⟨?_, ?_⟩, fun key => condition.ofJson?_clause⟩
  · rintro ⟨records, hrecords, hmeeting⟩ id hid hmet
    obtain rfl : [] = records :=
      FindResult.documents.inj (Except.ok.inj (hfind.symm.trans hrecords))
    obtain ⟨body, hbody⟩ := Option.isSome_iff_exists.1 (Std.TreeMap.mem_iff_isSome_getElem?.1 hid)
    have hmem := (hmeeting (Document.hydrate id body)).2
      ⟨⟨id, body, hbody, rfl⟩, id, Document.get?_hydrate id body, hmet⟩
    cases hmem
  · intro hnone
    refine ⟨[], hfind, fun r => ⟨fun hr => absurd hr List.not_mem_nil, ?_⟩⟩
    rintro ⟨⟨id, body, hbody, rfl⟩, shown, hshown, hmet⟩
    obtain rfl : id = shown :=
      Json.str.inj (Option.some.inj ((Document.get?_hydrate id body).symm.trans hshown))
    have hid : id ∈ m.documents c.address :=
      Std.TreeMap.mem_iff_isSome_getElem?.2 (Option.isSome_iff_exists.2 ⟨body, hbody⟩)
    exact absurd hmet (hnone id hid)

/-- Of two inserted documents none comes before the bound, and none is found. -/
theorem findsMeeting_iff_bound :
    let c : Collection := { index := "app", schema := { typeName := "item" } }
    let outcome := (c.insert [[("id", .str "b"), ("n", .str "1")], [("id", .num (.int 7))]]).run
      Memory.client {}
    let condition : TextCondition := .bounded .lt "7"
    outcome.result = .ok [[("n", .str "1"), ("id", .str "b")], [("id", .str "7")]] ∧
      c.HoldsInserted outcome.state ∧ c.FindsMeeting outcome.state condition .asc 2 ∧
      Clause.ofJson? (.obj [("id", .obj [("LT", .str "7")])]) = .ok condition.clause := by
  intro c outcome condition
  have hresult : outcome.result =
      .ok [[("n", .str "1"), ("id", .str "b")], [("id", .str "7")]] := by
    rfl
  have hinserted : c.HoldsInserted outcome.state :=
    HoldsInserted.insert (Memory.stores_empty _ _) (Session.yields_of_result_eq_ok hresult)
  have hstored : (outcome.state.documents c.address).toDocuments =
      [⟨"7", []⟩, ⟨"b", [("n", .str "1")]⟩] := by
    rfl
  have hnone : ∀ id ∈ outcome.state.documents c.address, ¬condition.IsMet id := by
    intro id hid
    obtain ⟨body, hbody⟩ := Option.isSome_iff_exists.1 (Std.TreeMap.mem_iff_isSome_getElem?.1 hid)
    have hmem := (Documents.mem_toDocuments _ ⟨id, body⟩).2 hbody
    rw [hstored] at hmem
    simp only [List.mem_cons, List.not_mem_nil, or_false, StoredDocument.mk.injEq] at hmem
    have hlevel : ¬RangeBound.lt.admits (compare "7" "7") = true := by
      decide
    have hbehind : ¬RangeBound.lt.admits (compare "b" "7") = true := by
      decide
    rcases hmem with ⟨rfl, -⟩ | ⟨rfl, -⟩
    · exact hlevel
    · exact hbehind
  obtain ⟨-, hfinds, hread⟩ := findsMeeting_iff c outcome.state hinserted condition .asc 2
  exact ⟨hresult, hinserted, hfinds.2 hnone, hread "LT" (by decide)⟩

/-- A document is not found by the letter that its identifier starts with. -/
theorem find_startsWith_misses_identifier :
    let c : Collection := { index := "app", schema := { typeName := "item" } }
    let outcome := (c.insert [[("id", .str "a"), ("n", .str "1")]]).run Memory.client {}
    let condition : TextCondition := .textual .startsWith "a"
    let written : Record := [("n", .str "1"), ("id", .str "a")]
    outcome.result = .ok [written] ∧ c.schema.schema.declaredType? "id" = none ∧
      condition.IsMet "a" ∧
      ((c.find (condition.criteria .asc 10)).run Memory.client outcome.state).result =
        .ok (.documents []) ∧
      ¬c.FindsMeeting outcome.state condition .asc 10 := by
  intro c outcome condition written
  have hresult : outcome.result = .ok [written] := by
    rfl
  have hmet : condition.IsMet "a" :=
    ⟨['a'], [], rfl, .cons (by decide) .nil, fun _ _ => trivial⟩
  have hstate : outcome.state = ({} : Memory).put c.address "a" [("n", .str "1")] := by
    rfl
  have hfind : ((c.find (condition.criteria .asc 10)).run Memory.client outcome.state).result =
      .ok (.documents []) := by
    rw [hstate]
    cbv
  refine ⟨hresult, by rfl, hmet, hfind, ?_⟩
  rintro ⟨records, hrecords, hmeeting⟩
  obtain rfl : [] = records :=
    FindResult.documents.inj (Except.ok.inj (hfind.symm.trans hrecords))
  have hstored : (outcome.state.documents c.address)["a"]? = some [("n", .str "1")] := by
    rfl
  have hmem := (hmeeting (Document.hydrate "a" [("n", .str "1")])).2
    ⟨⟨"a", _, hstored, rfl⟩, "a", Document.get?_hydrate _ _, hmet⟩
  cases hmem

end Collection

end CriteriaSearch

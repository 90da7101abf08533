import CriteriaSearch.Model.Tracker
import CriteriaSearch.Proofs.Coercions
import CriteriaSearch.Proofs.Shapes
import CriteriaSearch.Proofs.WriteBack

/-!
# Tickets in a store

A ticket that is written to a typed collection is turned into a record, coerced by the schema of
its shape, stored, and read back as a ticket.  Texts stay texts under the attributes of single
texts.  The list of tags is declared as an array, though, and an item of an array that reads as a
word for a truth value or for null is taken for that.

So a ticket comes back as it was, with its identifier filled in, exactly when none of its tags is
such a word.  Otherwise the write fails, and the document is stored all the same
(`Ticket.write_eq_iff`).
-/

namespace CriteriaSearch

/-- A ticket of a tracker: its priority is a signed number of 64 bits, its estimate is finite, and
its notes are any value that a map without repeated keys can hold. -/
structure Ticket where
  id : Option String := none
  title : String
  priority : Int
  tags : List String := []
  estimate : Option Binary64 := none
  urgent : Bool := false
  owner : Option String := none
  notes : Json := .null
  priority_lower : -0x8000000000000000 ≤ priority := by decide
  priority_upper : priority < 0x8000000000000000 := by decide
  notes_distinct : notes.HasDistinctKeys := by exact .null

namespace Ticket

/-- The fields of a ticket but for its identifier, with given items for its tags. -/
def fieldsWith (t : Ticket) (tags : List Json) : Record :=
  [("title", .str t.title), ("priority", .num (.int t.priority)), ("tagList", .arr tags),
    ("estimate", .orNull (t.estimate.map fun x => .num (.float x))), ("urgent", .bool t.urgent),
    ("owner", .strOrNull t.owner), ("notes", t.notes)]

/-- The record of a ticket. -/
def toRecord (t : Ticket) : Record :=
  (t.id.map fun id => (Schema.idField, .str id)).toList ++ t.fieldsWith (t.tags.map .str)

/-- The written form of a ticket. -/
def toJson (t : Ticket) : Json :=
  .obj t.toRecord

/-- The body that is stored for a ticket. -/
def body (t : Ticket) : Record :=
  t.fieldsWith (t.tags.map fun tag => (Json.str tag).coerce (some .array))

/-- The collection of tickets in an index. -/
def collection (index : String) (options : CollectionOptions) : TypedCollection :=
  .of index Model.ticket options

/-- The schema of tickets, with normalized keys. -/
def schema : Schema :=
  Model.ticket.definition.normalize.schema

/-! ## The schema -/

lemma declaredType?_schema :
    schema.declaredType? "title" = some .string ∧ schema.declaredType? "priority" = some .integer ∧
      schema.declaredType? "tagList" = some .array ∧
      schema.declaredType? "estimate" = some .float ∧
      schema.declaredType? "urgent" = some .boolean ∧
      schema.declaredType? "owner" = some .string ∧ schema.declaredType? "notes" = none := by
  refine ⟨?_, ?_, ?_, ?_, ?_, ?_, ?_⟩ <;> rfl

/-- No attribute of a ticket is a point in time. -/
lemma storedValue_of_mem_fieldsWith (t : Ticket) (tags : List Json) :
    ∀ e ∈ t.fieldsWith tags,
      Document.storedValue schema e.1 e.2 = .ok (schema.coerce e.1 e.2) := by
  have hplain : ∀ e ∈ t.fieldsWith tags, schema.isTemporal e.1 = false := by
    obtain ⟨htitle, hpriority, htags, hestimate, hurgent, howner, hnotes⟩ := declaredType?_schema
    simp [fieldsWith, Schema.isTemporal, htitle, hpriority, htags, hestimate, hurgent, howner,
      hnotes, AttributeType.isTemporal]
  intro e he
  rw [Document.storedValue_eq, hplain e he, if_neg Bool.false_ne_true]

/-- Of the fields of a ticket only the tags are coerced. -/
lemma map_coerce_fieldsWith (t : Ticket) (tags : List Json) :
    (t.fieldsWith tags).map (fun e => (e.1, schema.coerce e.1 e.2)) =
      t.fieldsWith (tags.map (Json.coerce (some .array))) := by
  obtain ⟨htitle, hpriority, htags, hestimate, hurgent, howner, hnotes⟩ := declaredType?_schema
  have hnumber : ∀ x : Option Binary64,
      (Json.orNull (x.map fun x => .num (.float x))).coerce (some .float) =
        .orNull (x.map fun x => .num (.float x)) := by
    rintro (_ | x) <;> rfl
  have htext : ∀ s : Option String, (Json.strOrNull s).coerce (some .string) = .strOrNull s := by
    rintro (_ | s) <;> rfl
  simp only [fieldsWith, List.map_cons, List.map_nil, Schema.coerce, htitle, hpriority, htags,
    hestimate, hurgent, howner, hnotes, Json.coerce_none, hnumber, htext]
  rw [Json.coerce, Json.coerceItems_eq_map]
  rfl

/-- The record of a ticket is prepared as its body. -/
lemma prepare_toRecord (t : Ticket) : Document.prepare schema t.toRecord = .ok ⟨t.id, t.body⟩ := by
  have hid : ∀ e ∈ t.fieldsWith (t.tags.map .str), Schema.isIdField e.1 = false := by
    simp [fieldsWith, Schema.isIdField, Schema.idField, Schema.storedIdField]
  have hdistinct : Record.DistinctKeys ([] ++ t.fieldsWith (t.tags.map .str)) := by
    change ["title", "priority", "tagList", "estimate", "urgent", "owner", "notes"].Nodup
    decide
  have hfields : ∀ id, (t.fieldsWith (t.tags.map .str)).foldlM (Document.prepareField schema)
      ⟨id, []⟩ = .ok ⟨id, t.body⟩ := by
    intro id
    rw [Document.foldlM_prepareField_map [] _ hdistinct hid (t.storedValue_of_mem_fieldsWith _),
      map_coerce_fieldsWith, List.map_map]
    rfl
  unfold Document.prepare toRecord
  cases t.id with
  | none => exact hfields none
  | some id => exact hfields (some id)

/-! ## Reading back -/

/-- Whether a text reads as a truth value or as null. -/
def IsWord (s : String) : Prop :=
  s = "true" ∨ s = "false" ∨ s = "null"

instance (s : String) : Decidable (IsWord s) :=
  inferInstanceAs (Decidable (_ ∨ _))

lemma coerce_array_of_not_isWord {s : String} (h : ¬IsWord s) :
    (Json.str s).coerce (some .array) = .str s := by
  simp only [IsWord, not_or] at h
  simp [Json.coerce, AttributeType.readText?, h]

lemma str?_coerce_array_of_isWord {s : String} (h : IsWord s) :
    ((Json.str s).coerce (some .array)).str? = none := by
  rcases h with rfl | rfl | rfl <;> rfl

/-- The record of a stored ticket, with given items for its tags. -/
def storedWith (t : Ticket) (id : String) (tags : List Json) : Record :=
  t.fieldsWith tags ++ [(Schema.idField, .str id)]

lemma distinctKeys_storedWith (t : Ticket) (id : String) (tags : List Json) :
    (t.storedWith id tags).DistinctKeys := by
  change ["title", "priority", "tagList", "estimate", "urgent", "owner", "notes", "id"].Nodup
  decide

/-- A record with the fields of a ticket, and a text for the identifier if there is one, fits the
shape of tickets. -/
lemma fits_ticketShape (t : Ticket) {tags : List String} {r : Record}
    (hid : r.get? Schema.idField = none ∨ ∃ id, r.get? Schema.idField = some (.str id))
    (hfields : ∀ f ∈ Model.ticketShape.fields.tail,
      r.get? f.name = (t.fieldsWith (tags.map .str)).get? f.name) :
    Model.ticketShape.Fits r := by
  simp only [Model.ticketShape, List.tail_cons, List.forall_mem_cons] at hfields
  obtain ⟨htitle, hpriority, htags, hestimate, hurgent, howner, hnotes, -⟩ := hfields
  simp only [Shape.Fits, Model.ticketShape, List.forall_mem_cons]
  refine ⟨?_, .inl ⟨_, htitle, .text t.title, fun _ => trivial⟩,
    .inl ⟨_, hpriority, .integer t.priority_lower t.priority_upper, fun _ => trivial⟩,
    .inl ⟨_, htags, .texts tags, fun _ => trivial⟩,
    .inl ⟨_, hestimate, .optionalNumber t.estimate, fun _ => trivial⟩,
    .inl ⟨_, hurgent, .boolean t.urgent, fun _ => trivial⟩,
    .inl ⟨_, howner, .optionalText t.owner, fun _ => trivial⟩,
    .inl ⟨_, hnotes, .any t.notes_distinct, fun _ => trivial⟩, List.forall_mem_nil _⟩
  rcases hid with hnone | ⟨id, hid⟩
  · exact .inr ⟨hnone, rfl, rfl⟩
  · exact .inl ⟨_, hid, .optionalText (some id), nofun⟩

/-- With texts for its tags a stored ticket is read back. -/
lemma ofRecord_storedWith (t : Ticket) (id : String) (tags : List String) :
    Model.ticket.ofRecord (t.storedWith id (tags.map .str)) =
      .ok { t with id := some id, tags := tags : Ticket }.toJson := by
  have hfields : ∀ f ∈ Model.ticketShape.fields.tail,
      (t.storedWith id (tags.map .str)).get? f.name =
        (t.fieldsWith (tags.map .str)).get? f.name := by
    simp only [Model.ticketShape, List.tail_cons, List.forall_mem_cons]
    exact ⟨rfl, rfl, rfl, rfl, rfl, rfl, rfl, List.forall_mem_nil _⟩
  have hdecode : Model.ticket.decode.ofValue? (.obj (t.storedWith id (tags.map .str))) = _ :=
    Shape.decode_of_fits (t.distinctKeys_storedWith id _)
      (t.fits_ticketShape (.inr ⟨id, rfl⟩) hfields)
  rw [Model.ofRecord, hdecode]
  rfl

/-- **Every ticket is a value of the model, in its written form.** -/
theorem decode_toJson (t : Ticket) : Model.ticket.decode.ofValue? t.toJson = some t.toJson := by
  obtain ⟨id, hid⟩ : ∃ id, t.id = id := ⟨_, rfl⟩
  have hrecord : t.toRecord = (id.map fun id => (Schema.idField, Json.str id)).toList ++
      t.fieldsWith (t.tags.map .str) := by
    rw [toRecord, hid]
  rw [toJson, hrecord]
  cases id with
  | none =>
    have hdistinct : Record.DistinctKeys (t.fieldsWith (t.tags.map .str)) := by
      change ["title", "priority", "tagList", "estimate", "urgent", "owner", "notes"].Nodup
      decide
    have hdecode : Model.ticket.decode.ofValue? (.obj (t.fieldsWith (t.tags.map .str))) = _ :=
      Shape.decode_of_fits hdistinct (t.fits_ticketShape (.inl rfl) fun _ _ => rfl)
    exact hdecode
  | some id =>
    have hdistinct : Record.DistinctKeys
        ((Schema.idField, .str id) :: t.fieldsWith (t.tags.map .str)) := by
      change ["id", "title", "priority", "tagList", "estimate", "urgent", "owner", "notes"].Nodup
      decide
    have hfields : ∀ f ∈ Model.ticketShape.fields.tail,
        Record.get? ((Schema.idField, .str id) :: t.fieldsWith (t.tags.map .str)) f.name =
          (t.fieldsWith (t.tags.map .str)).get? f.name := by
      simp only [Model.ticketShape, List.tail_cons, List.forall_mem_cons]
      exact ⟨rfl, rfl, rfl, rfl, rfl, rfl, rfl, List.forall_mem_nil _⟩
    have hdecode : Model.ticket.decode.ofValue?
        (.obj ((Schema.idField, .str id) :: t.fieldsWith (t.tags.map .str))) = _ :=
      Shape.decode_of_fits hdistinct (t.fits_ticketShape (.inr ⟨id, rfl⟩) hfields)
    exact hdecode

/-- With something else among its tags it is not. -/
lemma ofRecord_storedWith_eq_error (t : Ticket) (id : String) {tags : List Json}
    (h : tags.mapM Json.str? = none) :
    Model.ticket.ofRecord (t.storedWith id tags) = .error .serialization := by
  obtain ⟨f, hf, hname, hkind⟩ :
      ∃ f ∈ Model.ticketShape.fields, f.name = "tagList" ∧ f.kind = .texts :=
    ⟨Model.ticketShape.fields[3], List.getElem_mem _, rfl, rfl⟩
  have hget : (Json.Given.ofRecord (t.storedWith id tags)).get? f.name =
      some (.ofJson (.arr tags)) := by
    rw [Json.Given.get?_ofRecord, hname]
    rfl
  have hdecode : Model.ticket.decode.ofValue? (.obj (t.storedWith id tags)) = none :=
    Shape.decode_eq_none (t.distinctKeys_storedWith id tags) hf
      (Shape.decodeField_texts_eq_none hkind hget h)
  rw [Model.ofRecord, hdecode]

/-- **A stored ticket is read back exactly when none of its tags is a word.** -/
lemma ofRecord_hydrate_body (t : Ticket) (id : String) :
    Model.ticket.ofRecord (Document.hydrate id t.body) =
      if ∃ tag ∈ t.tags, IsWord tag then .error .serialization
      else .ok { t with id := some id : Ticket }.toJson := by
  have hsettled : Document.Settled schema t.body := Document.settled_of_prepare t.prepare_toRecord
  rw [hsettled.hydrate_eq]
  change Model.ticket.ofRecord (t.storedWith id _) = _
  split
  · next hword =>
    obtain ⟨tag, htag, hword⟩ := hword
    refine t.ofRecord_storedWith_eq_error id (mapM_eq_none (List.mem_map_of_mem htag) ?_)
    exact str?_coerce_array_of_isWord hword
  · next hnone =>
    have htags : t.tags.map (fun tag => (Json.str tag).coerce (some .array)) =
        t.tags.map .str :=
      List.map_congr_left fun tag htag =>
        coerce_array_of_not_isWord fun hword => hnone ⟨tag, htag, hword⟩
    rw [htags, ofRecord_storedWith]

end Ticket

/-! ## Writing -/

namespace TypedCollection

/-- Writing a value writes its record, and reads what comes back. -/
lemma run_insertOne_of_prepare {c : TypedCollection} {r : Record} {d : PreparedDocument}
    (h : c.collection.prepare r = .ok d) (m : Memory) :
    ((c.insertOne (.obj r)).run Memory.client m).result =
        c.model.ofRecord (Document.hydrate (m.chooseId c.collection.address d.id).1 d.body) ∧
      ((c.insertOne (.obj r)).run Memory.client m).state =
        (m.chooseId c.collection.address d.id).2.put c.collection.address
          (m.chooseId c.collection.address d.id).1 d.body := by
  obtain ⟨hresult, hstate⟩ := Collection.yields_insertOne_of_prepare h m
  have hinsert : c.insertOne (.obj r) =
      c.collection.insertOne r >>= fun written => Session.ofExcept (c.model.ofRecord written) := rfl
  rw [hinsert, Session.run_bind, Outcome.andThen, hresult, hstate]
  exact ⟨rfl, rfl⟩

end TypedCollection

namespace Ticket

/-- What writing a ticket comes to. -/
def write (t : Ticket) (index : String) (options : CollectionOptions) (m : Memory) :
    Outcome Memory Json :=
  ((collection index options).insertOne t.toJson).run Memory.client m

/-- The identifier that a ticket is stored under: its own, or one that the store issues. -/
def storedId (t : Ticket) (index : String) (options : CollectionOptions) (m : Memory) : String :=
  (m.chooseId (collection index options).collection.address t.id).1

variable (t : Ticket) (index : String) (options : CollectionOptions) (m : Memory)

lemma prepare_collection :
    (collection index options).collection.prepare t.toRecord = .ok ⟨t.id, t.body⟩ :=
  Collection.prepare_eq_ok_iff.2 t.prepare_toRecord

lemma result_write :
    (t.write index options m).result =
      if ∃ tag ∈ t.tags, IsWord tag then .error .serialization
      else .ok { t with id := some (t.storedId index options m) : Ticket }.toJson := by
  obtain ⟨hresult, -⟩ :=
    TypedCollection.run_insertOne_of_prepare (t.prepare_collection index options) m
  rw [← ofRecord_hydrate_body]
  exact hresult

/-- The document is stored whatever comes back. -/
lemma getElem?_write :
    ((t.write index options m).state.documents
      (collection index options).collection.address)[t.storedId index options m]? =
        some t.body := by
  obtain ⟨-, hstate⟩ :=
    TypedCollection.run_insertOne_of_prepare (t.prepare_collection index options) m
  change (t.write index options m).state = _ at hstate
  rw [hstate]
  exact (Memory.getElem?_put _ _ _ _ _).trans (if_pos rfl)

/-- **A ticket that is written comes back as it was, with its identifier filled in, exactly when
none of its tags reads as a truth value or as null.**  Otherwise the write fails; the document is
stored in either case. -/
theorem write_eq_iff :
    ((∀ given, t.id = some given → t.storedId index options m = given) ∧
      (t.id = none → ∃ n, t.storedId index options m = issuedId n)) ∧
    ((t.write index options m).result =
        .ok { t with id := some (t.storedId index options m) : Ticket }.toJson ↔
      ∀ tag ∈ t.tags, ¬IsWord tag) ∧
    ((∃ tag ∈ t.tags, IsWord tag) → (t.write index options m).result = .error .serialization) ∧
    ((t.write index options m).state.documents
      (collection index options).collection.address)[t.storedId index options m]? =
        some t.body := by
  refine ⟨⟨?_, ?_⟩, ?_, ?_, t.getElem?_write index options m⟩
  · intro given hgiven
    rw [storedId, hgiven]
    rfl
  · intro hnone
    rw [storedId, hnone]
    exact ⟨_, rfl⟩
  · rw [result_write]
    split
    · next hword =>
      obtain ⟨tag, htag, hword⟩ := hword
      exact ⟨nofun, fun hnone => absurd hword (hnone tag htag)⟩
    · next hnone => exact ⟨fun _ tag htag hword => hnone ⟨tag, htag, hword⟩, fun _ => rfl⟩
  · intro hword
    rw [result_write, if_pos hword]

/-- A tag that reads as a truth value makes the write fail, after the ticket was stored with that
truth value for the tag. -/
theorem write_eq_error_of_word :
    let t : Ticket := { title := "Printer", priority := 5, tags := ["hardware", "true"] }
    (t.write "app" {} {}).result = .error .serialization ∧
      ((t.write "app" {} {}).state.documents
        (collection "app" {}).collection.address)[t.storedId "app" {} {}]? = some t.body ∧
      t.body.get? "tagList" = some (.arr [.str "hardware", .bool true]) := by
  intro t
  refine ⟨?_, t.getElem?_write "app" {} {}, rfl⟩
  rw [result_write, if_pos ⟨"true", List.mem_cons_of_mem _ List.mem_cons_self, .inl rfl⟩]

end Ticket

end CriteriaSearch

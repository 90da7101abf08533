import CriteriaSearch.Proofs.FoundRecords

/-!
# Writing found documents back

However a collection in the in-memory store came about through its own changes, its bodies are
settled (`Collection.stores_settled_after`): every change only sends prepared records, and the store
only merges them.

So a document that is found can be written back as it is, up to one exception.  A point in time
whose year is below zero or above 9999 is stored with a sign before its year, and such a text is not
taken for a point in time when it comes back (`Collection.writesBack_iff_hasPlainYears`).
-/

namespace CriteriaSearch

open Document (HasPlainYears Settled hydrate)

namespace Collection

variable {c : Collection} {m m' : Memory} {r : Record}

/-! ## Writing one record -/

lemma yields_insert_of_prepare {d : PreparedDocument} (h : c.prepare r = .ok d) (m : Memory) :
    (c.insert [r]).Yields Memory.client m [hydrate (m.chooseId c.address d.id).1 d.body]
      ((m.chooseId c.address d.id).2.put c.address (m.chooseId c.address d.id).1 d.body) := by
  have hprepared : [r].mapM c.prepare = .ok [d] := by
    rw [List.mapM_cons, h]
    rfl
  rw [insert_eq (List.cons_ne_nil r []) hprepared, Session.yields_bind_iff]
  refine ⟨⟨[⟨some (m.chooseId c.address d.id).1, none⟩]⟩,
    (m.chooseId c.address d.id).2.put c.address (m.chooseId c.address d.id).1 d.body, ?_, ?_⟩
  · rw [Session.yields_request_iff]
    rfl
  · refine ⟨?_, (c.readsOnly_fetch _).state_run _⟩
    change ((c.fetch [(m.chooseId c.address d.id).1]).run Memory.client _).result = _
    rw [result_fetch]
    simp [Documents.record?, Memory.getElem?_put]

lemma yields_insertOne_of_prepare {d : PreparedDocument} (h : c.prepare r = .ok d) (m : Memory) :
    (c.insertOne r).Yields Memory.client m (hydrate (m.chooseId c.address d.id).1 d.body)
      ((m.chooseId c.address d.id).2.put c.address (m.chooseId c.address d.id).1 d.body) := by
  rw [insertOne, Session.yields_bind_iff]
  exact ⟨_, _, yields_insert_of_prepare h m, rfl, rfl⟩

/-- **Writing one record prepares it, stores it under its own or a fresh identifier, and gives the
record of what is stored.** -/
theorem yields_insert_singleton_iff {records : List Record} :
    (c.insert [r]).Yields Memory.client m records m' ↔
      ∃ d, c.prepare r = .ok d ∧ records = [hydrate (m.chooseId c.address d.id).1 d.body] ∧
        m' = (m.chooseId c.address d.id).2.put c.address (m.chooseId c.address d.id).1 d.body := by
  constructor
  · intro h
    cases hprepare : c.prepare r with
    | error e =>
      have hfails : [r].mapM c.prepare = .error e := by
        rw [List.mapM_cons, hprepare]
        rfl
      rw [insert_eq_fail hfails] at h
      cases h.1
    | ok d =>
      have hd := yields_insert_of_prepare hprepare m
      exact ⟨d, rfl, Except.ok.inj (h.1.symm.trans hd.1), h.2.symm.trans hd.2⟩
  · rintro ⟨d, hprepare, rfl, rfl⟩
    exact yields_insert_of_prepare hprepare m

/-! ## Changes -/

/-- A change of a collection. -/
inductive Change where
  | insert (records : List Record)
  | insertOne (r : Record)
  | update (criteria : Criteria) (values : Record)
  | destroy (criteria : Criteria)

/-- The store that a change leaves, also where the change fails half-way. -/
def stateAfter (c : Collection) (m : Memory) : Change → Memory
  | .insert records => ((c.insert records).run Memory.client m).state
  | .insertOne r => ((c.insertOne r).run Memory.client m).state
  | .update criteria values => ((c.update criteria values).run Memory.client m).state
  | .destroy criteria => ((c.destroy criteria).run Memory.client m).state

/-- The store that changes leave, one after another, of an empty one. -/
def after (c : Collection) (changes : List Change) : Memory :=
  changes.foldl c.stateAfter {}

/-- One change leaves settled bodies. -/
lemma stores_settled_stateAfter (h : m.Stores (Settled c.schema.schema) c.address)
    (change : Change) : (c.stateAfter m change).Stores (Settled c.schema.schema) c.address := by
  have hstep : ∀ address r state, Request.Carries (Settled c.schema.schema) c.address address r →
      Memory.Stores (Settled c.schema.schema) c.address state →
      Memory.Stores (Settled c.schema.schema) c.address
        (Memory.client.answer address r state).2 := by
    rintro address r state ⟨rfl, hsources⟩ hstate
    exact hstate.answer (fun target added htarget hadded => htarget.merge hadded) hsources
  cases change with
  | insert records => exact (sends_insert records).run_keeps hstep h
  | insertOne r => exact (sends_insertOne r).run_keeps hstep h
  | update criteria values => exact (sends_update criteria values).run_keeps hstep h
  | destroy criteria => exact (sends_destroy criteria).run_keeps hstep h

/-- **Changes leave settled bodies.** -/
theorem stores_settled_after (c : Collection) (changes : List Change) :
    (c.after changes).Stores (Settled c.schema.schema) c.address := by
  -- The induction is on the changes, from any store of settled bodies.
  have run : ∀ m : Memory, m.Stores (Settled c.schema.schema) c.address →
      (changes.foldl c.stateAfter m).Stores (Settled c.schema.schema) c.address := by
    induction changes with
    | nil => exact fun m h => h
    | cons change rest ih => exact fun m h => ih _ (stores_settled_stateAfter h change)
  exact run {} (Memory.stores_empty _ _)

/-! ## Writing back -/

/-- Whether inserting a record gives it back and leaves every stored document as it is. -/
def WritesBack (c : Collection) (m : Memory) (r : Record) : Prop :=
  ∃ m', (c.insert [r]).Yields Memory.client m [r] m' ∧
    ∀ (address : Address) (id : String),
      (m'.documents address)[id]? = (m.documents address)[id]?

/-- Storing what is stored changes nothing. -/
lemma getElem?_put_of_stored {id : String} {body : Record} {target : Address}
    (h : (m.documents target)[id]? = some body) (address : Address) (other : String) :
    ((m.put target id body).documents address)[other]? = (m.documents address)[other]? := by
  by_cases hat : address = target ∧ other = id
  · obtain ⟨rfl, rfl⟩ := hat
    rw [Memory.getElem?_put, if_pos rfl, h]
  · exact Memory.getElem?_put_of_ne hat body

/-- The record of a settled document is written back exactly when its points in time have plain
years. -/
lemma writesBack_hydrate_iff {id : String} {body : Record}
    (h : (m.documents c.address)[id]? = some body) (hbody : Settled c.schema.schema body) :
    c.WritesBack m (hydrate id body) ↔ HasPlainYears c.schema.schema body := by
  constructor
  · rintro ⟨m', hyields, -⟩
    obtain ⟨d, hprepare, -⟩ := yields_insert_singleton_iff.1 hyields
    exact hbody.hasPlainYears_of_prepare_hydrate (prepare_eq_ok_iff.1 hprepare)
  · intro hplain
    have hprepare : c.prepare (hydrate id body) = .ok ⟨some id, body⟩ :=
      prepare_eq_ok_iff.2 (hbody.prepare_hydrate id hplain)
    exact ⟨m.put c.address id body, yields_insert_of_prepare hprepare m,
      getElem?_put_of_stored h⟩

/-- **What is stored can be written back exactly where its points in time have plain years, and
nothing else is found.** -/
theorem writesBack_iff_hasPlainYears (c : Collection) (changes : List Change) :
    (∀ (id : String) (body : Record), ((c.after changes).documents c.address)[id]? = some body →
      (Document.prepare c.schema.schema body = .ok ⟨none, body⟩ ↔
        HasPlainYears c.schema.schema body) ∧
      (c.WritesBack (c.after changes) (hydrate id body) ↔
        HasPlainYears c.schema.schema body)) ∧
    ∀ (criteria : Criteria) (found : FindResult),
      ((c.find criteria).run Memory.client (c.after changes)).result = .ok found →
      ∀ r ∈ found.records, ∃ id body,
        ((c.after changes).documents c.address)[id]? = some body ∧ r = hydrate id body := by
  refine ⟨fun id body hbody => ?_, fun criteria found hfound => exists_stored_of_find hfound⟩
  have hsettled := c.stores_settled_after changes id body hbody
  exact ⟨Document.prepare_eq_self_iff hsettled, writesBack_hydrate_iff hbody hsettled⟩

/-- A date with an offset, and a later update of another field. -/
theorem writesBack_iff_hasPlainYears_offset :
    let c : Collection :=
      { index := "app"
        schema := { typeName := "item", schema := .ofList [("born", { type := .date })] } }
    let changes : List Change :=
      [.insert [[("id", .str "a"), ("born", .str "2020-01-02T03:04:05+01:00")]],
       .update {} [("n", .bool true)]]
    let body : Record := [("born", .str "2020-01-02T02:04:05Z"), ("n", .bool true)]
    ((c.after changes).documents c.address)["a"]? = some body ∧
      ((c.find {}).run Memory.client (c.after changes)).result =
        .ok (.documents [hydrate "a" body]) ∧
      (∃ id stored, ((c.after changes).documents c.address)[id]? = some stored ∧
        hydrate "a" body = hydrate id stored) ∧
      c.WritesBack (c.after changes) (hydrate "a" body) := by
  intro c changes body
  let inserted : Memory := ({} : Memory).put c.address "a" [("born", .str "2020-01-02T02:04:05Z")]
  have hafter : c.after changes =
      ((c.update {} [("n", .bool true)]).run Memory.client inserted).state := by
    rfl
  rw [update_eq_of_hits] at hafter
  have hbody : ((c.after changes).documents c.address)["a"]? = some body := by
    rw [hafter]
    cbv
  have hfind : ((c.find {}).run Memory.client (c.after changes)).result =
      .ok (.documents [hydrate "a" body]) := by
    rw [hafter]
    cbv
  have hprepare : Document.prepare c.schema.schema body = .ok ⟨none, body⟩ := by
    rfl
  obtain ⟨hstored, hfound⟩ := writesBack_iff_hasPlainYears c changes
  obtain ⟨hprepared, hwritten⟩ := hstored "a" body hbody
  have hsource := hfound {} _ hfind (hydrate "a" body) List.mem_cons_self
  exact ⟨hbody, hfind, hsource, hwritten.2 (hprepared.1 hprepare)⟩

/-- The last hours of the year 9999, in an offset that moves them to the year 10000. -/
theorem writesBack_year_ten_thousand :
    let c : Collection :=
      { index := "app"
        schema := { typeName := "item", schema := .ofList [("born", { type := .date })] } }
    let changes : List Change :=
      [.insert [[("id", .str "a"), ("born", .str "9999-12-31T23:00:00-02:00")]]]
    let body : Record := [("born", .str "+10000-01-01T01:00:00Z")]
    let failure : DocumentError := .notDate "born" (.str "+10000-01-01T01:00:00Z")
    ((c.after changes).documents c.address)["a"]? = some body ∧
      Document.prepare c.schema.schema body = .error failure ∧
      ((c.find {}).run Memory.client (c.after changes)).result =
        .ok (.documents [hydrate "a" body]) ∧
      ((c.insert [hydrate "a" body]).run Memory.client (c.after changes)).result =
        .error (.invalidDocument failure) := by
  intro c changes body failure
  refine ⟨?_, ?_, ?_, ?_⟩
  · rfl
  · rfl
  · rfl
  · rfl

end Collection

end CriteriaSearch

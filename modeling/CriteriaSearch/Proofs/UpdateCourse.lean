import CriteriaSearch.Proofs.CompiledQueries
import CriteriaSearch.Proofs.Outcomes
import CriteriaSearch.Proofs.PreparedDocuments
import CriteriaSearch.Proofs.SentRequests
import CriteriaSearch.Store.Script

/-!
# The course of an update

An update of a collection sends one search for the documents that match, one partial update for each
of them in the order of the hits, all with the same record, and one look-up of what it updated.  The
first answer that leaves nothing to go on with ends it.  `Collection.UpdateCourse` lists the courses
that this can take, each with the answers that lead to it, the result and all that was sent.

Every update whose values prepare and whose criteria compile takes one of these courses, with any
store, and the tuning of its batches makes no difference (`Collection.update_takes_course`).
-/

namespace CriteriaSearch

variable {σ : Type}

/-- Whether a client answers partial updates of documents, one after another, each with success. -/
inductive Client.Accepts (client : Client σ) (address : Address) (partialSource : Record) :
    σ → List String → σ → Prop
  | nil (state : σ) : Accepts client address partialSource state [] state
  | cons {state between after : σ} {id : String} {rest : List String}
    (hfirst : client.answer address (.update id partialSource) state = (.ok (), between))
    (hrest : Accepts client address partialSource between rest after) :
    Accepts client address partialSource state (id :: rest) after

namespace Collection

variable {client : Client σ} {c : Collection} {partialSource : Record}

/-! ## Batches -/

/-- The requests of partial updates. -/
def updatesOf (c : Collection) (partialSource : Record) (ids : List String) :
    List (Address × Request) :=
  ids.map fun id => (c.address, .update id partialSource)

/-- The courses of a batch: all updates succeed, or those before the first that fails. -/
inductive BatchCourse (client : Client σ) (c : Collection) (partialSource : Record) (state : σ)
    (ids : List String) : Outcome σ UpdateBatch → Prop
  | completed {after : σ} (haccepts : client.Accepts c.address partialSource state ids after) :
    BatchCourse client c partialSource state ids
      ⟨.ok { completed := ids }, after, c.updatesOf partialSource ids⟩
  | stopped {between after : σ} {done rest : List String} {id : String} {failure : StoreFailure}
    (hids : ids = done ++ id :: rest)
    (haccepts : client.Accepts c.address partialSource state done between)
    (hfails : client.answer c.address (.update id partialSource) between =
      (.error failure, after)) :
    BatchCourse client c partialSource state ids
      ⟨.ok { completed := done, failure := some failure }, after,
        c.updatesOf partialSource (done ++ [id])⟩

/-- A batch sends its updates in order, up to the first that fails. -/
lemma batchCourse_updateBatch (client : Client σ) (c : Collection) (partialSource : Record)
    (ids : List String) (state : σ) :
    BatchCourse client c partialSource state ids
      ((c.updateBatch partialSource ids).run client state) := by
  induction ids generalizing state with
  | nil =>
    rw [updateBatch_nil]
    exact .completed (.nil state)
  | cons id rest ih =>
    rw [updateBatch_cons, Session.run_bind, Session.run_attempt]
    rw [Outcome.andThen_ok]
    rcases hanswer : client.answer c.address (.update id partialSource) state with
      ⟨failure | success, between⟩
    · have hcut : id :: rest = [] ++ id :: rest := rfl
      exact .stopped hcut (.nil state) hanswer
    · dsimp only
      rw [Session.run_bind]
      have hrest := ih between
      generalize (c.updateBatch partialSource rest).run client between = o at hrest
      cases hrest with
      | completed haccepts =>
        rw [Outcome.andThen_ok, Session.run_pure, List.append_nil]
        exact .completed (.cons hanswer haccepts)
      | stopped hids haccepts hfails =>
        rw [Outcome.andThen_ok, Session.run_pure, List.append_nil]
        exact .stopped (congrArg (id :: ·) hids) (.cons hanswer haccepts) hfails

/-! ## Updates -/

/-- The courses of an update that searches by a query and writes a record: what the store answers,
the result, the state that is left and all that was sent. -/
inductive UpdateCourse (client : Client σ) (c : Collection) (q : Query) (partialSource : Record)
    (before : σ) : Outcome σ (List Record) → Prop
  | searchFails {after : σ} {failure : StoreFailure}
    (hsearch : client.answer c.address (.search q) before = (.error failure, after)) :
    UpdateCourse client c q partialSource before
      ⟨.error (.store failure), after, [(c.address, .search q)]⟩
  | withoutHits {after : σ} {response : SearchResponse}
    (hsearch : client.answer c.address (.search q) before = (.ok response, after))
    (hhits : response.hits = none) :
    UpdateCourse client c q partialSource before
      ⟨.error (.notFound c.schema.typeName), after, [(c.address, .search q)]⟩
  | updateFails {searched between after : σ} {response : SearchResponse} {hits : Hits}
    {done rest : List String} {id : String} {failure : StoreFailure}
    (hsearch : client.answer c.address (.search q) before = (.ok response, searched))
    (hhits : response.hits = some hits) (hids : hits.hits.map Hit.id = done ++ id :: rest)
    (haccepts : client.Accepts c.address partialSource searched done between)
    (hfails : client.answer c.address (.update id partialSource) between =
      (.error failure, after)) :
    UpdateCourse client c q partialSource before
      ⟨.error (.store failure), after,
        (c.address, .search q) :: c.updatesOf partialSource (done ++ [id])⟩
  | nothingToDo {after : σ} {response : SearchResponse} {hits : Hits}
    (hsearch : client.answer c.address (.search q) before = (.ok response, after))
    (hhits : response.hits = some hits) (hnone : hits.hits = []) :
    UpdateCourse client c q partialSource before ⟨.ok [], after, [(c.address, .search q)]⟩
  | lookedUp {searched updated after : σ} {response : SearchResponse} {hits : Hits}
    {answer : Except StoreFailure (List MultiGetItem)}
    (hsearch : client.answer c.address (.search q) before = (.ok response, searched))
    (hhits : response.hits = some hits) (hsome : hits.hits ≠ [])
    (haccepts : client.Accepts c.address partialSource searched (hits.hits.map Hit.id) updated)
    (hlookup : client.answer c.address (.multiGet (hits.hits.map Hit.id)) updated =
      (answer, after)) :
    UpdateCourse client c q partialSource before
      ⟨(answer.map recordsOf).mapError .store, after,
        (c.address, .search q) :: c.updatesOf partialSource (hits.hits.map Hit.id) ++
          [(c.address, .multiGet (hits.hits.map Hit.id))]⟩

/-- Looking up some identifiers is one request. -/
lemma run_fetch_of_ne_nil {ids : List String} (h : ids ≠ []) (state : σ) :
    (c.fetch ids).run client state =
      ⟨((client.answer c.address (.multiGet ids) state).1.map recordsOf).mapError .store,
        (client.answer c.address (.multiGet ids) state).2, [(c.address, .multiGet ids)]⟩ := by
  unfold fetch
  rw [List.isEmpty_eq_false_iff.2 h, if_neg Bool.false_ne_true, Session.run_bind,
    Session.run_request]
  rcases client.answer c.address (.multiGet ids) state with ⟨failure | items, after⟩
  · rfl
  · rfl

/-- What follows the batch of an update that got hits. -/
lemma run_afterBatch (batch : UpdateBatch) (state : σ) :
    (do c.fetch (← Session.ofExcept batch.result) : Session (List Record)).run client state =
      match batch.failure with
      | some failure => ⟨.error (.store failure), state, []⟩
      | none => (c.fetch batch.completed).run client state := by
  rw [Session.run_bind, Session.run_ofExcept, UpdateBatch.result]
  cases batch.failure <;> rfl

/-- Every update with its values prepared and its criteria compiled takes a course. -/
lemma updateCourse_update {criteria : Criteria} {values : Record} {prepared : PreparedDocument}
    {q : Query} (hprepare : c.prepare values = .ok prepared)
    (hcompile : c.compile criteria = .ok q) (client : Client σ) (before : σ) :
    UpdateCourse client c (c.capture q) prepared.body before
      ((c.update criteria values).run client before) := by
  rw [update_eq hprepare hcompile, Session.run_bind, Session.run_request]
  rcases hsearch : client.answer c.address (.search (c.capture q)) before with
    ⟨failure | response, searched⟩
  · exact .searchFails hsearch
  · dsimp only [Outcome.andThen, Except.mapError]
    unfold updateCaptured
    cases hhits : response.hits with
    | none => exact .withoutHits hsearch hhits
    | some hits =>
      have hids : response.ids = hits.hits.map Hit.id := by
        rw [SearchResponse.ids, hhits]
        rfl
      rw [hids, if_neg (by simp), Session.run_bind]
      have hbatch := batchCourse_updateBatch client c prepared.body (hits.hits.map Hit.id) searched
      generalize (c.updateBatch prepared.body (hits.hits.map Hit.id)).run client searched = o
        at hbatch
      cases hbatch with
      | stopped hcut haccepts hfails =>
        rw [Outcome.andThen_ok, run_afterBatch]
        dsimp only
        rw [List.append_nil]
        exact .updateFails hsearch hhits hcut haccepts hfails
      | completed haccepts =>
        rw [Outcome.andThen_ok, run_afterBatch]
        dsimp only
        by_cases hnone : hits.hits = []
        · rw [hnone] at haccepts ⊢
          cases haccepts
          exact .nothingToDo hsearch hhits hnone
        · have hsome : hits.hits.map Hit.id ≠ [] := fun h => hnone (List.map_eq_nil_iff.1 h)
          rw [run_fetch_of_ne_nil hsome]
          exact .lookedUp hsearch hhits hnone haccepts rfl

/-- The query that captures documents has the limit of the criteria for its size. -/
lemma capture_eq {criteria : Criteria} {q : Query} (hcompile : c.compile criteria = .ok q) :
    c.capture q =
      { q with size := some (criteria.limit.getD c.options.matchLimit), fetchSource := false } := by
  rw [Query.of_ofCriteria hcompile]
  rfl

/-- How many updates of a batch are under way at once does not show in the batch. -/
lemma updateBatch_withConcurrency (c : Collection) (n : Nat) (partialSource : Record)
    (ids : List String) :
    ({ c with options := { c.options with updateConcurrency := n } } : Collection).updateBatch
      partialSource ids = c.updateBatch partialSource ids := by
  induction ids with
  | nil => rw [updateBatch_nil, updateBatch_nil]
  | cons id rest ih =>
    rw [updateBatch_cons, updateBatch_cons, ih]
    rfl

lemma update_withConcurrency (c : Collection) (n : Nat) (criteria : Criteria) (values : Record) :
    ({ c with options := { c.options with updateConcurrency := n } } : Collection).update
      criteria values = c.update criteria values := by
  unfold update
  simp only [updateBatch_withConcurrency]
  rfl

/-- **An update searches for what matches, updates the hits in their order and looks them up, or
ends with the first answer that leaves nothing to go on with; how many updates are under way at
once makes no difference.** -/
theorem update_takes_course (client : Client σ) (before : σ) (c : Collection)
    (criteria : Criteria) (values : Record) {prepared : PreparedDocument} {q : Query}
    (hprepare : c.prepare values = .ok prepared) (hcompile : c.compile criteria = .ok q) :
    c.UpdateCourse client
      { q with size := some (criteria.limit.getD c.options.matchLimit), fetchSource := false }
      prepared.body before ((c.update criteria values).run client before) ∧
    (Schema.idField ∉ prepared.body.map Prod.fst ∧
      Schema.storedIdField ∉ prepared.body.map Prod.fst) ∧
    ∀ n, ({ c with options := { c.options with updateConcurrency := n } } : Collection).update
      criteria values = c.update criteria values := by
  have hsettled : Document.Settled c.schema.schema prepared.body := settled_of_prepare hprepare
  have hcourse := updateCourse_update hprepare hcompile client before
  rw [capture_eq hcompile] at hcourse
  refine ⟨hcourse, ⟨?_, ?_⟩, fun n => c.update_withConcurrency n criteria values⟩
  · exact hsettled.not_mem_keys Schema.idField rfl
  · exact hsettled.not_mem_keys Schema.storedIdField rfl

/-- Three hits, of which one is there twice; its second update does not come to pass, as the
document between is in conflict. -/
theorem update_takes_course_conflict :
    let c : Collection :=
      { index := "app", schema := { typeName := "item" }, options := { updateConcurrency := 0 } }
    let script : Script :=
      { search := { hits := some ⟨3, [⟨"a", none⟩, ⟨"b", none⟩, ⟨"a", none⟩]⟩ }
        failingUpdates := ["b"] }
    let q : Query := { typeName := "item", size := some 10000, fetchSource := false }
    let values : Record := [("id", .str "z"), ("n", .str "1")]
    let outcome := (c.update {} values).run script.client ()
    c.prepare values = .ok ⟨some "z", [("n", .str "1")]⟩ ∧
      c.compile {} = .ok { typeName := "item" } ∧
      c.UpdateCourse script.client q [("n", .str "1")] () outcome ∧
      outcome.sent = [(c.address, .search q), (c.address, .update "a" [("n", .str "1")]),
        (c.address, .update "b" [("n", .str "1")])] := by
  intro c script q values outcome
  have hprepare : c.prepare values = .ok ⟨some "z", [("n", .str "1")]⟩ := rfl
  have hcompile : c.compile {} = .ok { typeName := "item" } := rfl
  obtain ⟨hcourse, -⟩ := update_takes_course script.client () c {} values hprepare hcompile
  refine ⟨hprepare, hcompile, hcourse, ?_⟩
  show ((c.update {} values).run script.client ()).sent = _
  rw [update_eq_of_hits]
  rfl

end Collection

end CriteriaSearch

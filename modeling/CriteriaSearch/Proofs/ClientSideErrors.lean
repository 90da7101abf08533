import CriteriaSearch.Proofs.Pagination
import CriteriaSearch.Proofs.UpdateCourse

/-!
# Errors that come before requests

The operations of a collection check documents and criteria before they send anything, and after
that they only fail by the store, or because nothing is there (`Collection.Call.checksFirst`).  So a
call that blames the caller has left the store alone, whatever store it is
(`Collection.clientSide_errors_precede_requests`): no document of an insertion is written when one
of them is not in order.  An update that finds no hits has sent its search and nothing else.
-/

namespace CriteriaSearch.Collection

open Session (ChecksFirst FailsByStore FailsOnlyWith)

variable {c : Collection} {criteria : Criteria}

/-! ## Checks -/

/-- Preparing a record only fails for the record. -/
lemma exists_cause_of_prepare {r : Record} {e : SearchError} (h : c.prepare r = .error e) :
    ∃ cause, e = .invalidDocument cause := by
  obtain ⟨cause, -, he⟩ := prepare_eq_error_iff.1 h
  exact ⟨cause, he⟩

/-- Compiling criteria only fails for missing statistics. -/
lemma eq_invalidGroupBy_of_compile {e : SearchError} (h : c.compile criteria = .error e) :
    e = .invalidGroupBy := by
  unfold compile Query.ofCriteria Query.aggregationsOf at h
  split at h
  · cases h
  · split at h
    · exact (Except.error.inj h).symm
    · cases h

/-! ## What follows the checks -/

lemma failsByStore_fetch (ids : List String) : (c.fetch ids).FailsByStore := by
  unfold fetch
  split
  · exact Session.failsOnlyWith_pure _
  · exact (Session.failsByStore_request _ _).bind fun items => Session.failsOnlyWith_pure _

lemma failsByStore_readBack (response : BulkResponse) : (c.readBack response).FailsByStore := by
  rcases c.readBack_cases response with ⟨failure, hfails⟩ | hfetch
  · rw [hfails]
    exact ⟨failure, rfl⟩
  · rw [hfetch]
    exact failsByStore_fetch response.ids

lemma failsOnlyWith_updateBatch {P : SearchError → Prop} (partialSource : Record)
    (ids : List String) : (c.updateBatch partialSource ids).FailsOnlyWith P := by
  induction ids with
  | nil =>
    rw [updateBatch_nil]
    exact Session.failsOnlyWith_pure _
  | cons id rest ih =>
    rw [updateBatch_cons]
    refine (Session.failsOnlyWith_attempt _ _).bind fun answer => ?_
    cases answer with
    | error failure => exact Session.failsOnlyWith_pure _
    | ok _ => exact ih.bind fun batch => Session.failsOnlyWith_pure _

/-- A batch of updates that stopped early stopped for the store. -/
lemma failsByStore_result (batch : UpdateBatch) :
    (Session.ofExcept batch.result).FailsByStore := by
  unfold UpdateBatch.result
  split
  · next failure _ => exact ⟨failure, rfl⟩
  · exact trivial

/-- Once there are hits, an update only fails by the store. -/
lemma failsByStore_updateHits (partialSource : Record) (ids : List String) :
    (do
      let batch ← c.updateBatch partialSource ids
      c.fetch (← Session.ofExcept batch.result) : Session (List Record)).FailsByStore :=
  (failsOnlyWith_updateBatch partialSource ids).bind fun batch =>
    (failsByStore_result batch).bind fun updated => failsByStore_fetch updated

lemma failsByStore_find {q : Query} (h : c.compile criteria = .ok q) :
    (c.find criteria).FailsByStore := by
  unfold find
  split
  · exact (failsByStore_fetch _).bind fun records => Session.failsOnlyWith_pure _
  · rw [h]
    refine FailsOnlyWith.bind (Session.failsOnlyWith_pure q) fun q => ?_
    refine (Session.failsByStore_request _ _).bind fun response => ?_
    split
    · exact Session.failsOnlyWith_pure _
    · exact Session.failsOnlyWith_pure _

lemma failsByStore_count {q : Query} (h : c.compile criteria = .ok q) :
    (c.count criteria).FailsByStore := by
  unfold count
  rw [h]
  exact Session.failsByStore_request _ _

/-! ## Operations -/

lemma checksFirst_find (criteria : Criteria) : (c.find criteria).ChecksFirst := by
  cases hcompile : c.compile criteria with
  | ok q => exact (failsByStore_find hcompile).blameless.checksFirst
  | error e =>
    unfold find
    split
    · exact ((failsByStore_fetch _).bind fun records =>
        Session.failsOnlyWith_pure _).blameless.checksFirst
    · rw [hcompile]
      exact trivial

lemma checksFirst_insert (records : List Record) : (c.insert records).ChecksFirst := by
  rcases c.insert_cases records with ⟨-, h⟩ | ⟨-, -, e, -, h⟩ | ⟨prepared, -, h⟩ <;> rw [h]
  · exact trivial
  · exact trivial
  · have hsent := Session.failsByStore_request c.address (.bulk (writesOf prepared))
    exact (hsent.bind failsByStore_readBack).blameless.checksFirst

lemma checksFirst_insertOne (r : Record) : (c.insertOne r).ChecksFirst := by
  refine (checksFirst_insert [r]).bind fun written => ?_
  cases written with
  | nil => exact rfl
  | cons first rest => exact Session.failsOnlyWith_pure _

lemma checksFirst_update (criteria : Criteria) (values : Record) :
    (c.update criteria values).ChecksFirst := by
  refine Session.checksFirst_ofExcept_bind fun prepared _ => ?_
  refine Session.checksFirst_ofExcept_bind fun q _ => ?_
  refine (Session.failsByStore_request _ _).blameless.bind (fun response => ?_) |>.checksFirst
  split
  · exact rfl
  · exact (failsByStore_updateHits _ _).blameless

lemma checksFirst_destroy (criteria : Criteria) : (c.destroy criteria).ChecksFirst := by
  refine Session.checksFirst_ofExcept_bind fun q _ => ?_
  have hremove : ∀ ids : List String, (do
      Session.request c.address (.deleteByQuery q)
      return ids.map removedRecord : Session (List Record)).FailsByStore := fun ids =>
    (Session.failsByStore_request _ _).bind fun _ => Session.failsOnlyWith_pure _
  split
  · exact trivial
  · exact ((Session.failsByStore_request _ _).bind fun items =>
      hremove _).blameless.checksFirst
  · exact ((Session.failsByStore_request _ _).bind fun response =>
      hremove _).blameless.checksFirst

lemma checksFirst_count (criteria : Criteria) : (c.count criteria).ChecksFirst :=
  Session.checksFirst_ofExcept_bind fun _ _ =>
    (Session.failsByStore_request _ _).blameless.checksFirst

/-- Making a page fails by a panic at most. -/
lemma blameless_toPage (p : PageRequest) (items : List Record) (total : Nat) :
    (Session.ofExcept ((p.toPage items total).mapError .panicked)).FailsOnlyWith
      fun e => e.isClientSide = false := by
  cases p.toPage items total with
  | ok page => exact trivial
  | error cause => exact rfl

/-- The criteria of a page compile when the criteria themselves do, so a page that is counted can
be found. -/
lemma checksFirst_paginate (criteria : Criteria) (p : PageRequest) :
    (c.paginate criteria p).ChecksFirst := by
  cases hcompile : c.compile criteria with
  | error e =>
    have hcount : c.count criteria = Session.fail e := by
      unfold count
      rw [hcompile]
      rfl
    unfold paginate
    rw [hcount]
    exact trivial
  | ok q =>
    have hwindow := c.compile_window criteria (some p.perPage) (some p.offset)
    rw [hcompile] at hwindow
    have hpage : (c.paginate criteria p).FailsOnlyWith fun e => e.isClientSide = false :=
      (failsByStore_count hcompile).blameless.bind fun total =>
        (failsByStore_find hwindow).blameless.bind fun found => blameless_toPage _ _ _
    exact hpage.checksFirst

/-! ## Calls -/

/-- A call of an operation that finds or changes documents, by the form of its result. -/
inductive Call : Type → Type
  | find (criteria : Criteria) : Call FindResult
  | insert (records : List Record) : Call (List Record)
  | insertOne (r : Record) : Call Record
  | update (criteria : Criteria) (values : Record) : Call (List Record)
  | destroy (criteria : Criteria) : Call (List Record)
  | count (criteria : Criteria) : Call Nat
  | paginate (criteria : Criteria) (p : PageRequest) : Call (Page Record)

/-- The session of a call. -/
def Call.session (c : Collection) {α : Type} : Call α → Session α
  | find criteria => c.find criteria
  | insert records => c.insert records
  | insertOne r => c.insertOne r
  | update criteria values => c.update criteria values
  | destroy criteria => c.destroy criteria
  | count criteria => c.count criteria
  | paginate criteria p => c.paginate criteria p

/-- Every operation checks first. -/
lemma Call.checksFirst {α : Type} (call : Call α) : (call.session c).ChecksFirst := by
  cases call with
  | find criteria => exact checksFirst_find criteria
  | insert records => exact checksFirst_insert records
  | insertOne r => exact checksFirst_insertOne r
  | update criteria values => exact checksFirst_update criteria values
  | destroy criteria => exact checksFirst_destroy criteria
  | count criteria => exact checksFirst_count criteria
  | paginate criteria p => exact checksFirst_paginate criteria p

/-! ## Particular errors -/

/-- An insertion with a record that is not in order fails for a record. -/
lemma exists_insert_eq_fail {records : List Record} {r : Record} {e : SearchError}
    (hr : r ∈ records) (hprepare : c.prepare r = .error e) :
    ∃ cause, c.insert records = Session.fail (.invalidDocument cause) := by
  rcases c.insert_cases records with ⟨rfl, -⟩ |
    ⟨_, -, first, hfirst, h⟩ | ⟨prepared, hprepared, -⟩
  · exact absurd hr List.not_mem_nil
  · obtain ⟨cause, rfl⟩ := exists_cause_of_prepare hfirst
    exact ⟨cause, h⟩
  · obtain ⟨d, hd⟩ := exists_ok_of_mapM hprepared r hr
    cases hd.symm.trans hprepare

/-- An update that finds no hits container has sent its search and nothing else. -/
lemma sent_of_update_notFound {σ : Type} {client : Client σ} {state : σ} {values : Record}
    {name : String}
    (h : ((c.update criteria values).run client state).result = .error (.notFound name)) :
    ∃ q, c.compile criteria = .ok q ∧
      ((c.update criteria values).run client state).sent =
        [(c.address, .search (c.capture q))] := by
  cases hprepare : c.prepare values with
  | error e =>
    obtain ⟨cause, rfl⟩ := exists_cause_of_prepare hprepare
    unfold update at h
    rw [hprepare] at h
    cases Except.error.inj h
  | ok prepared =>
    cases hcompile : c.compile criteria with
    | error e =>
      obtain rfl := eq_invalidGroupBy_of_compile hcompile
      unfold update at h
      rw [hprepare, hcompile] at h
      cases Except.error.inj h
    | ok q =>
      have hcourse := updateCourse_update hprepare hcompile client state
      generalize (c.update criteria values).run client state = o at hcourse h
      refine ⟨q, rfl, ?_⟩
      cases hcourse with
      | withoutHits => rfl
      | @lookedUp _ _ _ _ _ answer =>
        cases answer with
        | ok items => cases h
        | error failure => cases Except.error.inj h
      | nothingToDo => cases h
      | _ => cases Except.error.inj h

/-- **A call that blames the caller has sent nothing, an update that finds no hits container nothing
but its search; so one record that is not in order keeps all records of an insertion from being
written.** -/
theorem clientSide_errors_precede_requests {σ : Type} (client : Client σ) (state : σ)
    (c : Collection) :
    (∀ (α : Type) (call : Call α) (e : SearchError),
      ((call.session c).run client state).result = .error e → e.isClientSide = true →
        (call.session c).run client state = ⟨.error e, state, []⟩) ∧
    (∀ (criteria : Criteria) (values : Record) (name : String),
      ((c.update criteria values).run client state).result = .error (.notFound name) →
        ∃ q, c.compile criteria = .ok q ∧ ((c.update criteria values).run client state).sent =
          [(c.address, .search (c.capture q))]) ∧
    ∀ (records : List Record) (r : Record) (e : SearchError), r ∈ records →
      c.prepare r = .error e → ∃ cause,
        (c.insert records).run client state = ⟨.error (.invalidDocument cause), state, []⟩ := by
  refine ⟨?_, ?_, ?_⟩
  · intro α call e hresult hblames
    exact call.checksFirst.run_eq hresult hblames
  · intro criteria values name hresult
    exact sent_of_update_notFound hresult
  · intro records r e hr hprepare
    obtain ⟨cause, hinsert⟩ := exists_insert_eq_fail hr hprepare
    rw [hinsert]
    exact ⟨cause, rfl⟩

/-- A page with statistics that are not named, an update without hits, and an insertion whose second
record is not in order. -/
theorem clientSide_errors_precede_requests_script :
    let c : Collection :=
      { index := "app"
        schema := { typeName := "item", schema := .ofList [("born", { type := .date })] } }
    let script : Script := {}
    let page := c.paginate { aggregate := some {} } {}
    let update := c.update {} [("n", .str "1")]
    let bad : Record := [("born", .str "soon")]
    page.run script.client () = ⟨.error .invalidGroupBy, (), []⟩ ∧
      (update.run script.client ()).result = .error (.notFound "item") ∧
      (update.run script.client ()).sent =
        [(c.address, .search (c.capture { typeName := "item" }))] ∧
      ∃ cause, (c.insert [[("n", .str "1")], bad]).run script.client () =
        ⟨.error (.invalidDocument cause), (), []⟩ := by
  intro c script page update bad
  obtain ⟨hcalls, hupdates, hinserts⟩ := clientSide_errors_precede_requests script.client () c
  have hpage : (page.run script.client ()).result = .error .invalidGroupBy := by
    rfl
  have hupdate : (update.run script.client ()).result = .error (.notFound "item") := by
    rfl
  have hbad : c.prepare bad = .error (.invalidDocument (.notDate "born" (.str "soon"))) := by
    rfl
  obtain ⟨q, hcompile, hsent⟩ := hupdates {} [("n", .str "1")] "item" hupdate
  obtain rfl : ({ typeName := "item" } : Query) = q := Except.ok.inj hcompile
  have hsecond : bad ∈ [[("n", .str "1")], bad] :=
    List.mem_cons_of_mem _ (List.mem_singleton_self bad)
  refine ⟨?_, hupdate, hsent, hinserts _ bad _ hsecond hbad⟩
  exact hcalls _ (.paginate { aggregate := some {} } {}) .invalidGroupBy hpage rfl

end CriteriaSearch.Collection

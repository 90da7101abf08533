import CriteriaSearch.Collection.Operations
import CriteriaSearch.Proofs.PreparedDocuments
import CriteriaSearch.Proofs.StoredDocuments
import CriteriaSearch.Proofs.UpdateBatches

/-!
# What is sent, and what is stored

A session only sends requests of a kind (`Session.Sends`) when it does so under every answer.  What
such requests keep of a store, one by one, the whole session keeps (`Session.Sends.run_keeps`),
whether it succeeds or fails half-way.

A collection only sends records that are prepared (`Collection.sends_insert` and its siblings), and
the in-memory store makes nothing but these and mergers of them (`Memory.Stores.answer`).
-/

namespace CriteriaSearch

/-! ## Requests of a kind -/

namespace Session

variable {σ α β : Type} {allowed : Address → Request → Prop}

/-- Whether a session only sends requests of a kind, whatever it is answered. -/
def Sends (allowed : Address → Request → Prop) : Session α → Prop
  | done _ => True
  | ask address request next => allowed address request ∧ ∀ answer, (next answer).Sends allowed

lemma sends_done (result : Except SearchError α) : (done result).Sends allowed :=
  trivial

lemma sends_pure (a : α) : (pure a : Session α).Sends allowed :=
  sends_done _

lemma sends_fail (e : SearchError) : (fail e : Session α).Sends allowed :=
  sends_done _

lemma sends_attempt {address : Address} {r : Request} (h : allowed address r) :
    (attempt address r).Sends allowed :=
  ⟨h, fun _ => sends_done _⟩

lemma sends_request {address : Address} {r : Request} (h : allowed address r) :
    (request address r).Sends allowed := by
  refine ⟨h, fun answer => ?_⟩
  cases answer with
  | error failure => exact sends_done _
  | ok answer => exact sends_done _

lemma Sends.bind {s : Session α} {f : α → Session β} (hs : s.Sends allowed)
    (hf : ∀ a, (f a).Sends allowed) : (s >>= f).Sends allowed := by
  change (s.bind f).Sends allowed
  induction s with
  | done result =>
    cases result with
    | error e => exact sends_done _
    | ok a => exact hf a
  | ask address r next ih => exact ⟨hs.1, fun answer => ih answer (hs.2 answer)⟩

/-- A check that sends nothing comes before what is sent. -/
lemma sends_ofExcept_bind {r : Except SearchError α} {f : α → Session β}
    (hf : ∀ a, r = .ok a → (f a).Sends allowed) : (ofExcept r >>= f).Sends allowed := by
  change ((done r).bind f).Sends allowed
  cases r with
  | error e => exact sends_done _
  | ok a => exact hf a rfl

lemma Sends.mono {wider : Address → Request → Prop} {s : Session α} (hs : s.Sends allowed)
    (h : ∀ address r, allowed address r → wider address r) : s.Sends wider := by
  induction s with
  | done result => exact sends_done _
  | ask address r next ih => exact ⟨h address r hs.1, fun answer => ih answer (hs.2 answer)⟩

/-- **What the requests of a session keep one by one, the session keeps.** -/
theorem Sends.run_keeps {client : Client σ} {P : σ → Prop} {s : Session α}
    (hs : s.Sends allowed)
    (hstep : ∀ address r state, allowed address r → P state → P (client.answer address r state).2)
    {state : σ} (hP : P state) : P (s.run client state).state := by
  induction s generalizing state with
  | done result => exact hP
  | ask address r next ih => exact ih _ (hs.2 _) (hstep address r state hs.1 hP)

end Session

/-! ## Records in requests -/

/-- The record that an operation carries. -/
def BulkOperation.source? : BulkOperation → Option Record
  | index _ source => some source
  | create _ source => some source
  | update _ partialSource => some partialSource
  | delete _ => none

/-- The records that a request carries. -/
def Request.sources : Request → List Record
  | update _ partialSource => [partialSource]
  | bulk operations => operations.filterMap BulkOperation.source?
  | _ => []

/-- Whether a request goes to an address and only carries records of a kind. -/
def Request.Carries (P : Record → Prop) (expected address : Address) (request : Request) : Prop :=
  address = expected ∧ ∀ source ∈ request.sources, P source

lemma Request.carries_of_sources {P : Record → Prop} {address : Address} {r : Request}
    (h : r.sources = []) : r.Carries P address address := by
  refine ⟨rfl, ?_⟩
  rw [h]
  exact List.forall_mem_nil _

namespace Collection

open Request (carries_of_sources)

variable {c : Collection}

lemma sends_fetch {allowed : Address → Request → Prop} {ids : List String}
    (h : allowed c.address (.multiGet ids)) : (c.fetch ids).Sends allowed := by
  unfold fetch
  split
  · exact Session.sends_pure _
  · exact (Session.sends_request h).bind fun items => Session.sends_pure _

/-- Whether a session of a collection only sends settled records. -/
abbrev SendsSettled (c : Collection) {α : Type} (s : Session α) : Prop :=
  s.Sends (Request.Carries (Document.Settled c.schema.schema) c.address)

/-- A collection prepares a record as its schema does. -/
lemma prepare_eq_ok_iff {r : Record} {d : PreparedDocument} :
    c.prepare r = .ok d ↔ Document.prepare c.schema.schema r = .ok d := by
  unfold prepare
  cases Document.prepare c.schema.schema r with
  | error cause => simp
  | ok d' => simp

/-- Where its schema cannot prepare a record, neither can a collection. -/
lemma prepare_eq_error_iff {r : Record} {e : SearchError} :
    c.prepare r = .error e ↔
      ∃ cause, Document.prepare c.schema.schema r = .error cause ∧ e = .invalidDocument cause := by
  unfold prepare
  cases Document.prepare c.schema.schema r with
  | error cause => simp [eq_comm]
  | ok d => simp

lemma settled_of_prepare {r : Record} {d : PreparedDocument} (h : c.prepare r = .ok d) :
    Document.Settled c.schema.schema d.body :=
  Document.settled_of_prepare (prepare_eq_ok_iff.1 h)

/-- The operations that write documents. -/
def writesOf (prepared : List PreparedDocument) : List BulkOperation :=
  prepared.map fun d => .index d.id d.body

/-- What follows the answer to the bulk request of an insertion. -/
def readBack (c : Collection) (response : BulkResponse) : Session (List Record) :=
  match firstFailure? response with
  | some failure => Session.fail (.store failure)
  | none => c.fetch response.ids

/-- An item that failed fails the insertion; otherwise it ends with a look-up. -/
lemma readBack_cases (c : Collection) (response : BulkResponse) :
    (∃ failure, c.readBack response = Session.fail (.store failure)) ∨
      c.readBack response = c.fetch response.ids := by
  unfold readBack
  cases firstFailure? response with
  | some failure => exact .inl ⟨failure, rfl⟩
  | none => exact .inr rfl

/-- Documents that are in order are sent, and looked up. -/
lemma insert_eq {records : List Record} {prepared : List PreparedDocument} (hsome : records ≠ [])
    (hprepared : records.mapM c.prepare = .ok prepared) :
    c.insert records =
      Session.request c.address (.bulk (writesOf prepared)) >>= c.readBack := by
  unfold insert
  rw [List.isEmpty_eq_false_iff.2 hsome, hprepared]
  rfl

/-- Where a record cannot be prepared, nothing is sent. -/
lemma insert_eq_fail {records : List Record} {e : SearchError}
    (h : records.mapM c.prepare = .error e) : c.insert records = Session.fail e := by
  have hsome : records ≠ [] := by
    rintro rfl
    cases h
  unfold insert
  rw [List.isEmpty_eq_false_iff.2 hsome, h]
  rfl

/-- An insertion has nothing to do, or fails for a record, or sends what it prepared. -/
lemma insert_cases (c : Collection) (records : List Record) :
    (records = [] ∧ c.insert records = pure []) ∨
      (∃ r ∈ records, ∃ e, c.prepare r = .error e ∧ c.insert records = Session.fail e) ∨
      ∃ prepared, records.mapM c.prepare = .ok prepared ∧ c.insert records =
        Session.request c.address (.bulk (writesOf prepared)) >>= c.readBack := by
  by_cases hsome : records = []
  · subst hsome
    exact .inl ⟨rfl, rfl⟩
  · right
    cases hprepared : records.mapM c.prepare with
    | ok prepared => exact .inr ⟨prepared, rfl, insert_eq hsome hprepared⟩
    | error e =>
      obtain ⟨r, hr, hprepare⟩ := exists_error_of_mapM hprepared
      exact .inl ⟨r, hr, e, hprepare, insert_eq_fail hprepared⟩

lemma sends_insert (records : List Record) : c.SendsSettled (c.insert records) := by
  rcases c.insert_cases records with ⟨-, h⟩ | ⟨-, -, e, -, h⟩ | ⟨prepared, hprepared, h⟩ <;> rw [h]
  · exact Session.sends_pure _
  · exact Session.sends_fail e
  · have hsettled : ∀ d ∈ prepared, Document.Settled c.schema.schema d.body := by
      intro d hd
      obtain ⟨r, -, hr⟩ := exists_of_mem_of_mapM hprepared d hd
      exact settled_of_prepare hr
    have hcarries : Request.Carries (Document.Settled c.schema.schema) c.address c.address
        (.bulk (writesOf prepared)) := by
      refine ⟨rfl, fun source hsource => ?_⟩
      obtain ⟨op, hop, hsource⟩ := List.mem_filterMap.1 hsource
      obtain ⟨d, hd, rfl⟩ := List.mem_map.1 hop
      obtain rfl := Option.some.inj hsource
      exact hsettled d hd
    refine (Session.sends_request hcarries).bind fun response => ?_
    rcases c.readBack_cases response with ⟨failure, hfails⟩ | hfetch
    · rw [hfails]
      exact Session.sends_fail _
    · rw [hfetch]
      exact sends_fetch (carries_of_sources rfl)

lemma sends_insertOne (r : Record) : c.SendsSettled (c.insertOne r) := by
  refine (sends_insert [r]).bind fun written => ?_
  cases written with
  | nil => exact Session.sends_fail _
  | cons first rest => exact Session.sends_pure _

lemma sends_updateBatch {allowed : Address → Request → Prop} {partialSource : Record}
    (h : ∀ id, allowed c.address (.update id partialSource)) (ids : List String) :
    (c.updateBatch partialSource ids).Sends allowed := by
  induction ids with
  | nil =>
    rw [updateBatch_nil]
    exact Session.sends_pure _
  | cons id rest ih =>
    rw [updateBatch_cons]
    refine (Session.sends_attempt (h id)).bind fun answer => ?_
    cases answer with
    | error failure => exact Session.sends_pure _
    | ok _ => exact ih.bind fun batch => Session.sends_pure _

lemma sends_update (criteria : Criteria) (values : Record) :
    c.SendsSettled (c.update criteria values) := by
  refine Session.sends_ofExcept_bind fun prepared hprepared => ?_
  refine Session.sends_ofExcept_bind fun q hq => ?_
  refine (Session.sends_request (carries_of_sources rfl)).bind fun response => ?_
  split
  · exact Session.sends_fail _
  · have hcarries : ∀ id, Request.Carries (Document.Settled c.schema.schema) c.address c.address
        (.update id prepared.body) := fun id =>
      ⟨rfl, List.forall_mem_singleton.2 (settled_of_prepare hprepared)⟩
    refine (sends_updateBatch hcarries _).bind fun batch => ?_
    exact Session.sends_ofExcept_bind fun ids hids => sends_fetch (carries_of_sources rfl)

lemma sends_destroy (criteria : Criteria) : c.SendsSettled (c.destroy criteria) := by
  refine Session.sends_ofExcept_bind fun q hq => ?_
  have hremove : ∀ ids : List String, c.SendsSettled (do
      Session.request c.address (.deleteByQuery q)
      return ids.map removedRecord) := fun ids =>
    (Session.sends_request (carries_of_sources rfl)).bind fun _ => Session.sends_pure _
  split
  · exact Session.sends_pure _
  · exact (Session.sends_request (carries_of_sources rfl)).bind fun items => hremove _
  · exact (Session.sends_request (carries_of_sources rfl)).bind fun response => hremove _

end Collection

/-! ## Bodies in the store -/

namespace Memory

variable {P : Record → Prop} {address : Address} {m : Memory}

/-- Whether every body at an address is of a kind. -/
def Stores (P : Record → Prop) (address : Address) (m : Memory) : Prop :=
  ∀ (id : String) (body : Record), (m.documents address)[id]? = some body → P body

lemma stores_empty (P : Record → Prop) (address : Address) : Stores P address {} := by
  intro id body h
  simp at h

/-- Issuing an identifier stores nothing. -/
lemma documents_chooseId (m : Memory) (address : Address) (id : Option String) :
    (m.chooseId address id).2.documents = m.documents := by
  cases id <;> rfl

lemma Stores.chooseId (h : m.Stores P address) (id : Option String) :
    (m.chooseId address id).2.Stores P address := by
  rw [Stores, documents_chooseId]
  exact h

lemma getElem?_put (m : Memory) (address : Address) (id : String) (body : Record) (other : String) :
    ((m.put address id body).documents address)[other]? =
      if id = other then some body else (m.documents address)[other]? := by
  simp [put, setDocuments, Std.TreeMap.getElem?_insert]

lemma documents_put_self (m : Memory) (address : Address) (id : String) (body : Record) :
    (m.put address id body).documents address = (m.documents address).insert id body := by
  simp [put, setDocuments]

lemma documents_put_of_ne {other : Address} (h : other ≠ address) (m : Memory) (id : String)
    (body : Record) : (m.put address id body).documents other = m.documents other := by
  simp [put, setDocuments, h]

/-- Storing a document leaves every other one alone. -/
lemma getElem?_put_of_ne {id : String} {other : Address} {key : String}
    (h : ¬(other = address ∧ key = id)) (body : Record) :
    ((m.put address id body).documents other)[key]? = (m.documents other)[key]? := by
  by_cases hother : other = address
  · subst hother
    rw [getElem?_put, if_neg fun hid => h ⟨rfl, hid.symm⟩]
  · rw [documents_put_of_ne hother]

/-- A stored document takes up a partial update. -/
lemma answer_update_of_stored {id : String} {body : Record}
    (h : (m.documents address)[id]? = some body) (added : Record) :
    client.answer address (.update id added) m =
      (.ok (), m.put address id (body.merge added)) := by
  change m.settle (m.mergeInto address id added) = _
  rw [mergeInto, h]
  rfl

lemma exists_answer_update_of_mem {id : String} (h : id ∈ m.documents address) (added : Record) :
    ∃ body, (m.documents address)[id]? = some body ∧
      client.answer address (.update id added) m =
        (.ok (), m.put address id (body.merge added)) := by
  obtain ⟨body, hbody⟩ := Option.isSome_iff_exists.1 (Std.TreeMap.mem_iff_isSome_getElem?.1 h)
  exact ⟨body, hbody, answer_update_of_stored hbody added⟩

lemma Stores.put (h : m.Stores P address) {body : Record} (hbody : P body) (id : String) :
    (m.put address id body).Stores P address := by
  intro other found hfound
  rw [getElem?_put] at hfound
  split at hfound
  · exact Option.some.inj hfound ▸ hbody
  · exact h other found hfound

/-- Taking documents out leaves the others. -/
lemma Stores.setDocuments {ds : Documents} (h : m.Stores P address)
    (hds : ∀ (id : String) (body : Record), ds[id]? = some body →
      (m.documents address)[id]? = some body) :
    (m.setDocuments address ds).Stores P address := by
  intro id body hbody
  refine h id body (hds id body ?_)
  simpa [Memory.setDocuments] using hbody

lemma Stores.remove (h : m.Stores P address) (id : String) :
    (m.remove address id).Stores P address := by
  refine h.setDocuments fun other body hbody => ?_
  rw [Std.TreeMap.getElem?_erase] at hbody
  split at hbody
  · cases hbody
  · exact hbody

lemma Stores.deleteByQuery (h : m.Stores P address) {q : Query} {m' : Memory}
    (hdelete : m.deleteByQuery address q = .ok m') : m'.Stores P address := by
  intro id body hbody
  rw [getElem?_deleteByQuery hdelete] at hbody
  split at hbody
  · cases hbody
  · exact h id body hbody

section Merging

variable (hmerge : ∀ target added, P target → P added → P (target.merge added))
include hmerge

lemma Stores.mergeInto (h : m.Stores P address) {id : String} {partialSource : Record}
    (hpartial : P partialSource) {m' : Memory}
    (hm' : m.mergeInto address id partialSource = .ok m') : m'.Stores P address := by
  unfold Memory.mergeInto at hm'
  split at hm'
  · next body hbody =>
    obtain rfl := Except.ok.inj hm'
    exact h.put (hmerge body partialSource (h id body hbody) hpartial) id
  · cases hm'

lemma Stores.applyOperation (h : m.Stores P address) {op : BulkOperation}
    (hop : ∀ source, op.source? = some source → P source) :
    (m.applyOperation address op).2.Stores P address := by
  cases op with
  | index id source => exact (h.chooseId id).put (hop source rfl) _
  | create id source =>
    unfold Memory.applyOperation
    dsimp only
    split
    · exact h.chooseId id
    · exact (h.chooseId id).put (hop source rfl) _
  | update id partialSource =>
    unfold Memory.applyOperation
    dsimp only
    split
    · next hm' => exact h.mergeInto hmerge (hop partialSource rfl) hm'
    · exact h
  | delete id => exact h.remove id

lemma Stores.applyAll {ops : List BulkOperation} (h : m.Stores P address)
    (hops : ∀ source ∈ ops.filterMap BulkOperation.source?, P source) :
    (m.applyAll address ops).2.Stores P address := by
  induction ops generalizing m with
  | nil => exact h
  | cons op rest ih =>
    refine ih (h.applyOperation hmerge fun source hsource => ?_) fun source hsource => ?_
    · exact hops source (List.mem_filterMap.2 ⟨op, List.mem_cons_self, hsource⟩)
    · obtain ⟨other, hother, hsource⟩ := List.mem_filterMap.1 hsource
      exact hops source (List.mem_filterMap.2 ⟨other, List.mem_cons_of_mem op hother, hsource⟩)

/-- **The store makes nothing but the records it is sent and mergers of them.** -/
theorem Stores.answer (h : m.Stores P address) {r : Request}
    (hr : ∀ source ∈ r.sources, P source) : (client.answer address r m).2.Stores P address := by
  cases r with
  | update id partialSource =>
    have hpartial : P partialSource := hr partialSource (List.mem_singleton.2 rfl)
    change (m.settle (m.mergeInto address id partialSource)).2.Stores P address
    cases hm' : m.mergeInto address id partialSource with
    | error failure => exact h
    | ok m' => exact h.mergeInto hmerge hpartial hm'
  | deleteByQuery q =>
    change (m.settle (m.deleteByQuery address q)).2.Stores P address
    cases hm' : m.deleteByQuery address q with
    | error failure => exact h
    | ok m' => exact h.deleteByQuery hm'
  | bulk operations => exact h.applyAll hmerge hr
  | _ => exact h

end Merging

end Memory

end CriteriaSearch

import CriteriaSearch.Proofs.Removal
import CriteriaSearch.Proofs.SentRequests

/-!
# What is found

Looking up, searching and counting only read (`Session.ReadsOnly`), so they leave the store as it
is, and the steps of an operation made of them do not depend on each other.

Criteria that name identifiers are answered with the records of the stored ones, in the order in
which they are named (`Collection.result_find_of_lookup`).  All other criteria are answered with a
window of the matching documents in the order that is asked for, or with the failure of their
compilation, of their filter or of their sort (`Collection.result_find_of_search`).
-/

namespace CriteriaSearch

/-! ## Requests that only read -/

/-- Whether a request leaves every store as it is. -/
def Request.isRead : Request → Bool
  | multiGet _ => true
  | search _ => true
  | rawSearch _ => true
  | count _ => true
  | update _ _ => false
  | deleteByQuery _ => false
  | bulk _ => false

/-- Whether a request goes to an address and only reads. -/
def Request.ReadsAt (expected address : Address) (request : Request) : Prop :=
  address = expected ∧ request.isRead = true

namespace Session

variable {α β : Type}

/-- Whether a session only reads. -/
abbrev ReadsOnly (s : Session α) : Prop :=
  s.Sends fun _ r => r.isRead = true

/-- Reading leaves the store as it is. -/
lemma ReadsOnly.state_run {s : Session α} (h : s.ReadsOnly) (m : Memory) :
    (s.run Memory.client m).state = m := by
  refine Sends.run_keeps (P := fun state => state = m) h ?_ rfl
  rintro address r state hread rfl
  cases r with
  | update => cases hread
  | deleteByQuery => cases hread
  | bulk => cases hread
  | _ => rfl

/-- What comes after reading starts from the same store. -/
lemma ReadsOnly.result_bind {s : Session α} (h : s.ReadsOnly) (f : α → Session β) (m : Memory) :
    ((s >>= f).run Memory.client m).result = (s.run Memory.client m).result.bind fun a =>
      ((f a).run Memory.client m).result := by
  rw [Session.result_bind, h.state_run]

end Session

/-! ## Records -/

/-- A record that callers get tells the identifier of its document. -/
lemma Document.get?_hydrate (id : String) (body : Record) :
    (Document.hydrate id body).get? Schema.idField = some (.str id) := by
  have hstored : (body.insert Schema.storedIdField (.str id)).get? Schema.storedIdField =
      some (.str id) := by
    rw [Record.get?_insert, if_pos rfl]
  rw [← Record.map_fst_swapRemove, Option.map_eq_some_iff] at hstored
  obtain ⟨⟨_, rest⟩, hremoved, rfl⟩ := hstored
  rw [Document.hydrate, Document.exposeId, hremoved]
  dsimp only
  rw [Record.get?_insert, if_pos rfl]

/-- The record that a caller gets for a stored document. -/
def StoredDocument.toRecord (d : StoredDocument) : Record :=
  Document.hydrate d.id d.body

/-- The record that a caller gets for an identifier, if a document has it. -/
def Documents.record? (ds : Documents) (id : String) : Option Record :=
  ds[id]?.map (Document.hydrate id)

namespace Query

/-- The window of a query. -/
def window {α : Type} (q : Query) (l : List α) : List α :=
  (l.drop (q.start.getD 0)).take (q.size.getD Memory.defaultSize)

/-- What a query finds where it lists the given documents. -/
def found (q : Query) (listing : List StoredDocument) : FindResult :=
  let records := (q.window listing).map StoredDocument.toRecord
  if q.hasPayloads then .aggregate records (q.aggregations.map (aggregate listing)) none
  else .documents records

lemma records_found (q : Query) (listing : List StoredDocument) :
    (q.found listing).records = (q.window listing).map StoredDocument.toRecord := by
  unfold found
  dsimp only
  split <;> rfl

end Query

namespace Memory

/-- What a query lists: the documents that match, in its order. -/
def listing (m : Memory) (address : Address) (q : Query) :
    Except StoreFailure (List StoredDocument) :=
  ((m.documents address).matching m.patterns q.filter).bind (sortDocuments m.sorting q.sort)

variable {m : Memory} {address : Address} {q : Query} {ds : List StoredDocument}

/-- A query lists the documents that its filter selects, if that is decided on all of them and they
are sorted. -/
lemma listing_eq_ok_iff :
    m.listing address q = .ok ds ↔
      (m.documents address).matching m.patterns q.filter =
        .ok ((m.documents address).selected m.patterns q.filter) ∧
      sortDocuments m.sorting q.sort ((m.documents address).selected m.patterns q.filter) =
        .ok ds := by
  rw [listing]
  constructor
  · intro h
    obtain ⟨matched, hmatching, hsorted⟩ := bind_eq_ok_iff.1 h
    obtain rfl := Documents.eq_selected_of_matching hmatching
    exact ⟨hmatching, hsorted⟩
  · rintro ⟨hmatching, hsorted⟩
    exact bind_eq_ok_iff.2 ⟨_, hmatching, hsorted⟩

lemma listing_perm (h : m.listing address q = .ok ds) :
    ds.Perm ((m.documents address).selected m.patterns q.filter) :=
  sortDocuments_perm (listing_eq_ok_iff.1 h).2

end Memory

namespace Collection

variable {c : Collection} {criteria : Criteria}

/-! ## Look-ups -/

lemma recordsOf_multiGet (m : Memory) (address : Address) (ids : List String) :
    recordsOf (m.multiGet address ids) = ids.filterMap (m.documents address).record? := by
  induction ids with
  | nil => rfl
  | cons id rest ih =>
    rw [recordsOf, Memory.multiGet] at ih ⊢
    rw [List.map_cons, List.filter_cons, List.filterMap_cons, Documents.record?]
    cases (m.documents address)[id]? with
    | none => exact ih
    | some body => exact congrArg (Document.hydrate id body :: ·) ih

/-- Whether a session of a collection only reads at its address. -/
abbrev SendsReads (c : Collection) {α : Type} (s : Session α) : Prop :=
  s.Sends (Request.ReadsAt c.address)

lemma SendsReads.readsOnly {α : Type} {s : Session α} (h : c.SendsReads s) : s.ReadsOnly :=
  h.mono fun _ _ => And.right

lemma sendsReads_fetch (c : Collection) (ids : List String) : c.SendsReads (c.fetch ids) :=
  sends_fetch ⟨rfl, rfl⟩

lemma readsOnly_fetch (c : Collection) (ids : List String) : (c.fetch ids).ReadsOnly :=
  (c.sendsReads_fetch ids).readsOnly

/-- Looking documents up gives the records of those that are stored. -/
lemma result_fetch (c : Collection) (m : Memory) (ids : List String) :
    ((c.fetch ids).run Memory.client m).result =
      .ok (ids.filterMap (m.documents c.address).record?) := by
  cases ids with
  | nil => rfl
  | cons id rest =>
    rw [← recordsOf_multiGet]
    rfl

/-- **Named identifiers are answered with their records, whatever else is asked for.** -/
theorem result_find_of_lookup (c : Collection) (m : Memory) {ids : List String}
    (h : criteria.idLookup? = some ids) :
    ((c.find criteria).run Memory.client m).result =
      .ok (.documents (ids.filterMap (m.documents c.address).record?)) := by
  unfold find
  rw [h]
  dsimp only
  rw [(c.readsOnly_fetch ids).result_bind, result_fetch]
  rfl

/-! ## Searches -/

/-- What a collection makes of the answer to a search. -/
def foundIn (q : Query) (response : SearchResponse) : FindResult :=
  let hits := (response.hits.map Hits.hits).getD []
  let records := hits.map fun hit => Document.hydrate hit.id (hit.source.getD [])
  if q.hasPayloads then .aggregate records response.aggregations response.facets
  else .documents records

lemma find_eq_of_search (c : Collection) (h : criteria.idLookup? = none) :
    c.find criteria = do
      let q ← Session.ofExcept (c.compile criteria)
      let response ← Session.request c.address (.search q)
      return foundIn q response := by
  unfold find
  rw [h]
  refine congrArg (Session.ofExcept (c.compile criteria) >>= ·) (funext fun q => ?_)
  refine congrArg (Session.request c.address (.search q) >>= ·) (funext fun response => ?_)
  unfold foundIn
  dsimp only
  split <;> rfl

/-- The in-memory store answers with a window of what matches. -/
lemma map_foundIn_search {q : Query} (hsource : q.fetchSource = true) (m : Memory)
    (address : Address) :
    (m.search address q).map (foundIn q) =
      (m.listing address q).map q.found := by
  unfold Memory.search Memory.listing
  cases (m.documents address).matching m.patterns q.filter with
  | error failure => rfl
  | ok matched =>
    simp only [bind, Except.bind]
    cases sortDocuments m.sorting q.sort matched with
    | error failure => rfl
    | ok ds =>
      change Except.ok (foundIn q _) = Except.ok (q.found ds)
      simp only [foundIn, Query.found, Query.window, hsource, Option.map_some, Option.getD_some,
        List.map_map]
      rfl

/-- **A search is answered with a window of what matches.** -/
theorem result_find_of_search (c : Collection) (m : Memory) (h : criteria.idLookup? = none) :
    ((c.find criteria).run Memory.client m).result =
      (c.compile criteria).bind fun q =>
        ((m.listing c.address q).map q.found).mapError .store := by
  rw [c.find_eq_of_search h]
  cases hcompile : c.compile criteria with
  | error e => rfl
  | ok q =>
    have hsource : q.fetchSource = true := by rw [Query.of_ofCriteria hcompile]
    have hread : (Session.request c.address (.search q)).ReadsOnly := Session.sends_request rfl
    change ((Session.request c.address (.search q) >>= fun response =>
      pure (foundIn q response)).run Memory.client m).result = _
    rw [hread.result_bind, Session.result_request, Except.bind, ← map_foundIn_search hsource]
    change ((m.search c.address q).mapError SearchError.store).bind _ = _
    cases m.search c.address q <;> rfl

/-- A search that succeeds does so through its query and what this lists. -/
lemma result_find_eq_ok_iff {m : Memory} {found : FindResult} (h : criteria.idLookup? = none) :
    ((c.find criteria).run Memory.client m).result = .ok found ↔
      ∃ q ds, c.compile criteria = .ok q ∧ m.listing c.address q = .ok ds ∧
        found = q.found ds := by
  rw [c.result_find_of_search m h]
  cases c.compile criteria with
  | error e => simp [Except.bind]
  | ok q =>
    cases hlisting : m.listing c.address q with
    | error failure => simp [Except.bind, Except.map, Except.mapError, hlisting]
    | ok ds => simp [Except.bind, Except.map, Except.mapError, hlisting, eq_comm]

lemma sendsReads_find (c : Collection) (criteria : Criteria) :
    c.SendsReads (c.find criteria) := by
  cases h : criteria.idLookup? with
  | some ids =>
    unfold find
    rw [h]
    exact (c.sendsReads_fetch ids).bind fun records => Session.sends_pure _
  | none =>
    rw [c.find_eq_of_search h]
    refine Session.sends_ofExcept_bind fun q hq => ?_
    exact (Session.sends_request ⟨rfl, rfl⟩).bind fun response => Session.sends_pure _

lemma readsOnly_find (c : Collection) (criteria : Criteria) : (c.find criteria).ReadsOnly :=
  (c.sendsReads_find criteria).readsOnly

/-! ## Where records come from -/

lemma mem_of_listing {m : Memory} {address : Address} {q : Query} {ds : List StoredDocument}
    (h : m.listing address q = .ok ds) {d : StoredDocument} (hd : d ∈ ds) :
    (m.documents address)[d.id]? = some d.body :=
  ((Documents.mem_selected _ _ d).1 ((Memory.listing_perm h).mem_iff.1 hd)).1

/-- Every record that is found is that of a stored document. -/
lemma exists_stored_of_find {m : Memory} {found : FindResult}
    (h : ((c.find criteria).run Memory.client m).result = .ok found) :
    ∀ r ∈ found.records, ∃ id body, (m.documents c.address)[id]? = some body ∧
      r = Document.hydrate id body := by
  intro r hr
  cases hlookup : criteria.idLookup? with
  | some ids =>
    rw [c.result_find_of_lookup m hlookup] at h
    obtain rfl := Except.ok.inj h
    obtain ⟨id, -, hid⟩ := List.mem_filterMap.1 hr
    obtain ⟨body, hbody, rfl⟩ := Option.map_eq_some_iff.1 hid
    exact ⟨id, body, hbody, rfl⟩
  | none =>
    obtain ⟨q, ds, -, hlisting, rfl⟩ := (result_find_eq_ok_iff hlookup).1 h
    rw [Query.records_found] at hr
    obtain ⟨d, hd, rfl⟩ := List.mem_map.1 hr
    have hlisted : d ∈ ds := List.mem_of_mem_drop (List.mem_of_mem_take hd)
    exact ⟨d.id, d.body, mem_of_listing hlisting hlisted, rfl⟩

end Collection

end CriteriaSearch

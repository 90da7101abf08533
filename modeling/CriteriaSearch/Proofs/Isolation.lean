import CriteriaSearch.Proofs.ClientSideErrors

/-!
# Addresses are kept apart

A store with other documents at every address but one (`Memory.withOthers`) answers the requests to
that address as before, and changes in the same way (`Memory.answer_withOthers`).  So what is kept
elsewhere makes no difference to such a request, and the request makes none to it.

A session that keeps to one address inherits both (`Session.StaysAt.run_withOthers`), and every
operation of a collection, or of a client on its own, keeps to its address
(`Collection.Operation.staysAt`).
-/

namespace CriteriaSearch

/-! ## Stores that agree at an address -/

namespace Memory

variable (m : Memory) (address : Address) (others : Address → Documents)

/-- A store with other documents at every address but one. -/
def withOthers (m : Memory) (address : Address) (others : Address → Documents) : Memory :=
  { m with documents := fun a => if a = address then m.documents a else others a }

@[simp] lemma documents_withOthers_self :
    (m.withOthers address others).documents address = m.documents address :=
  if_pos rfl

lemma documents_withOthers_of_ne {other : Address} (h : other ≠ address) :
    (m.withOthers address others).documents other = others other :=
  if_neg h

@[simp] lemma issued_withOthers : (m.withOthers address others).issued = m.issued :=
  rfl

@[simp] lemma patterns_withOthers : (m.withOthers address others).patterns = m.patterns :=
  rfl

@[simp] lemma sorting_withOthers : (m.withOthers address others).sorting = m.sorting :=
  rfl

/-- Two stores that are built with the same libraries and agree at an address differ in the
documents at the others. -/
lemma eq_withOthers {m m' : Memory} {address : Address}
    (hdocuments : m'.documents address = m.documents address) (hissued : m'.issued = m.issued)
    (hpatterns : m'.patterns = m.patterns) (hsorting : m'.sorting = m.sorting) :
    m' = m.withOthers address m'.documents := by
  obtain ⟨documents, issued, patterns, sorting⟩ := m'
  obtain rfl : issued = m.issued := hissued
  obtain rfl : patterns = m.patterns := hpatterns
  obtain rfl : sorting = m.sorting := hsorting
  have hsame : documents = (m.withOthers address documents).documents := by
    funext a
    by_cases ha : a = address
    · subst ha
      rw [documents_withOthers_self]
      exact hdocuments
    · rw [documents_withOthers_of_ne m address documents ha]
  exact congrArg (Memory.mk · m.issued m.patterns m.sorting) hsame

/-! ## Requests -/

lemma setDocuments_withOthers (ds : Documents) :
    (m.withOthers address others).setDocuments address ds =
      (m.setDocuments address ds).withOthers address others := by
  refine congrArg (Memory.mk · m.issued m.patterns m.sorting) (funext fun a => ?_)
  by_cases ha : a = address
  · simp [setDocuments, ha]
  · simp [withOthers, ha]

lemma chooseId_withOthers (id : Option String) :
    (m.withOthers address others).chooseId address id =
      ((m.chooseId address id).1, (m.chooseId address id).2.withOthers address others) := by
  cases id with
  | some id => rfl
  | none =>
    simp only [chooseId, documents_withOthers_self, issued_withOthers]
    rfl

lemma put_withOthers (id : String) (body : Record) :
    (m.withOthers address others).put address id body =
      (m.put address id body).withOthers address others := by
  rw [put, put, documents_withOthers_self, setDocuments_withOthers]

lemma remove_withOthers (id : String) :
    (m.withOthers address others).remove address id =
      (m.remove address id).withOthers address others := by
  rw [remove, remove, documents_withOthers_self, setDocuments_withOthers]

lemma mergeInto_withOthers (id : String) (partialSource : Record) :
    (m.withOthers address others).mergeInto address id partialSource =
      (m.mergeInto address id partialSource).map (·.withOthers address others) := by
  rw [mergeInto, mergeInto, documents_withOthers_self]
  cases (m.documents address)[id]? with
  | none => rfl
  | some body => exact congrArg Except.ok (put_withOthers m address others id _)

lemma deleteByQuery_withOthers (q : Query) :
    (m.withOthers address others).deleteByQuery address q =
      (m.deleteByQuery address q).map (·.withOthers address others) := by
  rw [deleteByQuery, deleteByQuery, documents_withOthers_self, patterns_withOthers]
  cases (m.documents address).matching m.patterns q.filter with
  | error failure => rfl
  | ok matched => exact congrArg Except.ok (setDocuments_withOthers m address others _)

lemma settle_withOthers (changed : Except StoreFailure Memory) :
    (m.withOthers address others).settle (changed.map (·.withOthers address others)) =
      ((m.settle changed).1, (m.settle changed).2.withOthers address others) := by
  cases changed <;> rfl

lemma applyOperation_withOthers (op : BulkOperation) :
    (m.withOthers address others).applyOperation address op =
      ((m.applyOperation address op).1,
        (m.applyOperation address op).2.withOthers address others) := by
  cases op with
  | index id source =>
    rw [applyOperation, applyOperation, chooseId_withOthers]
    dsimp only
    rw [put_withOthers]
  | create id source =>
    rw [applyOperation, applyOperation, chooseId_withOthers]
    dsimp only
    rw [documents_withOthers_self, put_withOthers]
    split <;> rfl
  | update id partialSource =>
    rw [applyOperation, applyOperation, mergeInto_withOthers]
    cases m.mergeInto address id partialSource <;> rfl
  | delete id =>
    rw [applyOperation, applyOperation, remove_withOthers]

lemma applyAll_withOthers (ops : List BulkOperation) :
    (m.withOthers address others).applyAll address ops =
      ((m.applyAll address ops).1, (m.applyAll address ops).2.withOthers address others) := by
  induction ops generalizing m with
  | nil => rfl
  | cons op rest ih =>
    rw [applyAll, applyAll, applyOperation_withOthers]
    dsimp only
    rw [ih]

/-- **Documents at other addresses make no difference to a request, nor it to them.** -/
theorem answer_withOthers (r : Request) :
    client.answer address r (m.withOthers address others) =
      ((client.answer address r m).1, (client.answer address r m).2.withOthers address others) := by
  change answer address r (m.withOthers address others) =
    ((answer address r m).1, (answer address r m).2.withOthers address others)
  cases r with
  | multiGet ids =>
    simp only [answer, multiGet, documents_withOthers_self]
  | search q =>
    simp only [answer, search, documents_withOthers_self, patterns_withOthers, sorting_withOthers]
  | rawSearch body =>
    have hsearch : (m.withOthers address others).search address = m.search address := by
      funext q
      simp only [search, documents_withOthers_self, patterns_withOthers, sorting_withOthers]
    simp only [answer, hsearch]
  | update id partialSource =>
    rw [answer, answer, mergeInto_withOthers, settle_withOthers]
  | deleteByQuery q =>
    rw [answer, answer, deleteByQuery_withOthers, settle_withOthers]
  | count q =>
    simp only [answer, count, documents_withOthers_self, patterns_withOthers]
  | bulk operations =>
    rw [answer, answer, applyAll_withOthers]

end Memory

/-! ## Sessions -/

namespace Session

variable {σ α : Type} {client : Client σ}

/-- What goes along with every answer goes along with the outcome. -/
lemma Sends.run_map {allowed : Address → Request → Prop} {s : Session α} (hs : s.Sends allowed)
    {f : σ → σ}
    (hstep : ∀ address r state, allowed address r →
      client.answer address r (f state) =
        ((client.answer address r state).1, f (client.answer address r state).2))
    (state : σ) :
    s.run client (f state) =
      ⟨(s.run client state).result, f (s.run client state).state, (s.run client state).sent⟩ := by
  induction s generalizing state with
  | done result => rfl
  | ask address r next ih =>
    rw [run, run, hstep address r state hs.1]
    dsimp only
    rw [ih _ (hs.2 _)]

/-- Whether a session only sends requests to an address. -/
abbrev StaysAt (address : Address) (s : Session α) : Prop :=
  s.Sends fun a _ => a = address

/-- **A session at an address comes to the same whatever is kept elsewhere, and keeps that.** -/
theorem StaysAt.run_withOthers {address : Address} {s : Session α} (hs : s.StaysAt address)
    (m : Memory) (others : Address → Documents) :
    s.run Memory.client (m.withOthers address others) =
      ⟨(s.run Memory.client m).result,
        (s.run Memory.client m).state.withOthers address others,
        (s.run Memory.client m).sent⟩ := by
  refine Sends.run_map (f := (·.withOthers address others)) hs ?_ m
  rintro _ r state rfl
  exact state.answer_withOthers _ others r

lemma StaysAt.documents_run {address other : Address} {s : Session α} (hs : s.StaysAt address)
    (m : Memory) (h : other ≠ address) :
    (s.run Memory.client m).state.documents other = m.documents other := by
  have hrun := congrArg Outcome.state (hs.run_withOthers m m.documents)
  rw [← Memory.eq_withOthers (m := m) rfl rfl rfl rfl] at hrun
  rw [hrun]
  exact Memory.documents_withOthers_of_ne _ _ _ h

end Session

/-! ## Operations -/

namespace Collection

variable {c : Collection}

/-- An operation of a collection, or a request of a client on its own, by the form of its result. -/
inductive Operation : Type → Type 1
  | ofCall {α : Type} (call : Call α) : Operation α
  | updateBatch (partialSource : Record) (ids : List String) : Operation UpdateBatch
  | bulk (operations : List BulkOperation) : Operation BulkResponse
  | searchRaw (body : Json) : Operation SearchResponse
  | request (r : Request) : Operation (Except StoreFailure r.Answer)

/-- Whether a call only finds documents. -/
def Call.isRead {α : Type} : Call α → Bool
  | find _ => true
  | count _ => true
  | paginate _ _ => true
  | _ => false

namespace Operation

/-- The session of an operation. -/
def session (c : Collection) {α : Type} : Operation α → Session α
  | ofCall call => call.session c
  | updateBatch partialSource ids => c.updateBatch partialSource ids
  | bulk operations => c.bulk operations
  | searchRaw body => c.searchRaw body
  | request r => Session.attempt c.address r

/-- Whether an operation only finds documents. -/
def isRead {α : Type} : Operation α → Bool
  | ofCall call => call.isRead
  | searchRaw _ => true
  | request r => r.isRead
  | _ => false

end Operation

lemma Call.sendsReads {α : Type} {call : Call α} (h : call.isRead = true) :
    c.SendsReads (call.session c) := by
  cases call with
  | find criteria => exact c.sendsReads_find criteria
  | count criteria => exact c.sendsReads_count criteria
  | paginate criteria p => exact c.sendsReads_paginate criteria p
  | _ => cases h

lemma Operation.sendsReads {α : Type} {op : Operation α} (h : op.isRead = true) :
    c.SendsReads (op.session c) := by
  cases op with
  | ofCall call => exact Call.sendsReads h
  | searchRaw body => exact Session.sends_request ⟨rfl, rfl⟩
  | request r => exact Session.sends_attempt ⟨rfl, h⟩
  | _ => cases h

lemma SendsReads.staysAt {α : Type} {s : Session α} (h : c.SendsReads s) : s.StaysAt c.address :=
  h.mono fun _ _ => And.left

lemma SendsSettled.staysAt {α : Type} {s : Session α} (h : c.SendsSettled s) :
    s.StaysAt c.address :=
  h.mono fun _ _ => And.left

lemma Call.staysAt {α : Type} (call : Call α) : (call.session c).StaysAt c.address := by
  cases call with
  | find criteria => exact (c.sendsReads_find criteria).staysAt
  | insert records => exact (sends_insert records).staysAt
  | insertOne r => exact (sends_insertOne r).staysAt
  | update criteria values => exact (sends_update criteria values).staysAt
  | destroy criteria => exact (sends_destroy criteria).staysAt
  | count criteria => exact (c.sendsReads_count criteria).staysAt
  | paginate criteria p => exact (c.sendsReads_paginate criteria p).staysAt

/-- Every operation keeps to its address. -/
lemma Operation.staysAt {α : Type} (op : Operation α) : (op.session c).StaysAt c.address := by
  cases op with
  | ofCall call => exact call.staysAt
  | updateBatch partialSource ids => exact sends_updateBatch (fun _ => rfl) ids
  | bulk operations => exact Session.sends_request rfl
  | searchRaw body => exact Session.sends_request rfl
  | request r => exact Session.sends_attempt rfl

/-- **An operation leaves the documents at all other addresses as they are; stores of one build that
agree at its address, and in the identifiers that they issue, give it the same result and agree
there again; and one that only finds documents leaves the whole store as it is.** -/
theorem operations_stay_apart (c : Collection) {α : Type} (op : Operation α) (m : Memory) :
    (∀ other, other ≠ c.address →
      ((op.session c).run Memory.client m).state.documents other = m.documents other) ∧
    (∀ m' : Memory, m'.documents c.address = m.documents c.address → m'.issued = m.issued →
      m'.patterns = m.patterns → m'.sorting = m.sorting →
      ((op.session c).run Memory.client m').result =
        ((op.session c).run Memory.client m).result ∧
      ((op.session c).run Memory.client m').sent = ((op.session c).run Memory.client m).sent ∧
      ((op.session c).run Memory.client m').state.documents c.address =
        ((op.session c).run Memory.client m).state.documents c.address ∧
      ((op.session c).run Memory.client m').state.issued =
        ((op.session c).run Memory.client m).state.issued) ∧
    (op.isRead = true → ((op.session c).run Memory.client m).state = m) := by
  have hstays : (op.session c).StaysAt c.address := op.staysAt
  refine ⟨fun other hother => hstays.documents_run m hother, ?_, ?_⟩
  · intro m' hdocuments hissued hpatterns hsorting
    rw [Memory.eq_withOthers hdocuments hissued hpatterns hsorting, hstays.run_withOthers]
    exact ⟨rfl, rfl, Memory.documents_withOthers_self _ _ _, rfl⟩
  · exact fun hread => (Operation.sendsReads hread).readsOnly.state_run m

/-- Two types of one index, and a store without the other one. -/
theorem operations_stay_apart_types :
    let c : Collection := { index := "app", schema := { typeName := "item" } }
    let notes : Address := ⟨"app", "note"⟩
    let alone := ({} : Memory).put c.address "a" [("n", .str "1")]
    let m := alone.put notes "a" [("n", .str "2")]
    let destroyed := (c.destroy {}).run Memory.client m
    destroyed.state.documents notes = m.documents notes ∧
      (m.documents notes)["a"]? = some [("n", .str "2")] ∧
      destroyed.result = .ok [[("id", .str "a")]] ∧
      ((c.destroy {}).run Memory.client alone).result = destroyed.result ∧
      ((c.find {}).run Memory.client m).state = m := by
  intro c notes alone m destroyed
  have hother : notes ≠ c.address := by
    decide
  have hagree : alone.documents c.address = m.documents c.address := by
    simp [m, Memory.put, Memory.setDocuments, hother.symm]
  obtain ⟨hkept, hsame, -⟩ := operations_stay_apart c (.ofCall (.destroy {})) m
  obtain ⟨-, -, hread⟩ := operations_stay_apart c (.ofCall (.find {})) m
  refine ⟨hkept notes hother, ?_, ?_, (hsame alone hagree rfl rfl rfl).1, hread rfl⟩
  · cbv
  · cbv

end Collection

end CriteriaSearch

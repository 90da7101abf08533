import CriteriaSearch.Connection.Client
import CriteriaSearch.Proofs.ClientSideErrors
import CriteriaSearch.Store.Script
import Mathlib.Data.List.Basic
import Mathlib.Tactic.Common

/-!
# Acknowledged insertions

An insertion sends its documents in one bulk request, and the answer has one item for each of them,
in order.  The insertion fails when an item reports an error and otherwise looks up the identifiers
that the items name.  It does not count the items: so its success means that every document was
acknowledged exactly where the answer has as many items as there were documents, or an item that
reports an error (`Collection.insert_acknowledges_iff`).

Over the wire an answer has an item for every member of its list that names an action, and none
where the list is missing (`Wire.length_items`).  Where a member names several actions, the item is
that of any one of them, so whether an error is reported may be left to chance, and what follows is
said of every choice (`Wire.TableOrder`).
-/

namespace CriteriaSearch

namespace BulkResponse

/-! ## Items -/

/-- How many items report no error. -/
def acknowledged (r : BulkResponse) : Nat :=
  r.items.countP (·.error.isNone)

/-- Whether an item reports an error. -/
def reportsError (r : BulkResponse) : Bool :=
  r.items.any (·.error.isSome)

variable {r : BulkResponse}

lemma firstError?_eq_none (h : r.reportsError = false) : r.firstError? = none := by
  rw [reportsError, List.any_eq_false] at h
  exact List.find?_eq_none.2 h

lemma exists_firstError? (h : r.reportsError = true) : ∃ item, r.firstError? = some item := by
  rw [reportsError, List.any_eq_true] at h
  exact Option.isSome_iff_exists.1 (List.find?_isSome.2 h)

lemma acknowledged_eq_length (h : r.reportsError = false) : r.acknowledged = r.items.length := by
  rw [reportsError, List.any_eq_false] at h
  refine List.countP_eq_length.2 fun item hitem => ?_
  exact Option.isNone_iff_eq_none.2 (Option.not_isSome_iff_eq_none.1 (h item hitem))

end BulkResponse

namespace Wire

/-! ## Items over the wire -/

lemma ofText?_bulk {text : String} {members : List (List (String × BulkItem))}
    (h : Json.Decoder.ofText? bulkMembers text = some members) (order : TableOrder) :
    Json.Decoder.ofText? (bulk order) text = some (responseOf order members) := by
  obtain ⟨v, hv, hmembers⟩ := Option.bind_eq_some_iff.1 h
  refine Option.bind_eq_some_iff.2 ⟨v, hv, ?_⟩
  rw [bulk, hmembers, Option.map_some]

/-- A member has an outcome when it names an action, whichever action its table lists first. -/
lemma isSome_outcome? (order : TableOrder) (entries : List (String × BulkItem)) (member : Nat) :
    (outcome? order entries member).isSome = !entries.isEmpty := by
  have hperm := order.perm member (entries.map Prod.fst).eraseDups
  rw [outcome?]
  cases entries with
  | nil =>
    rw [List.perm_nil.1 hperm]
    rfl
  | cons first rest =>
    cases hlisted : order.list member ((first :: rest).map Prod.fst).eraseDups with
    | nil =>
      rw [hlisted, List.nil_perm] at hperm
      have hfirst : first.1 ∈ ((first :: rest).map Prod.fst).eraseDups :=
        List.mem_eraseDups.2 List.mem_cons_self
      rw [hperm] at hfirst
      cases hfirst
    | cons action others =>
      rw [hlisted] at hperm
      obtain ⟨entry, hentry, rfl⟩ :=
        List.mem_map.1 (List.mem_eraseDups.1 (hperm.mem_iff.1 List.mem_cons_self))
      have hlookup : ((first :: rest).reverse.lookup entry.1).isSome = true := by
        rw [List.lookup_isSome_iff]
        exact ⟨entry, List.mem_reverse.2 hentry, beq_self_eq_true _⟩
      exact hlookup

/-- **An answer has an item for every member that names an action.** -/
theorem length_items (order : TableOrder) (members : List (List (String × BulkItem))) :
    (responseOf order members).items.length = members.countP (!·.isEmpty) := by
  rw [responseOf, List.length_filterMap_eq_countP]
  conv_rhs => rw [← List.zipIdx_map_fst 0 members, List.countP_map]
  exact List.countP_congr fun member _ => by rw [isSome_outcome?, Function.comp_apply]

end Wire

namespace Collection

variable {c : Collection} {records : List Record} {prepared : List PreparedDocument}

/-! ## The course of an insertion -/

lemma writesOf_ne_nil (hsome : records ≠ []) (hprepared : records.mapM c.prepare = .ok prepared) :
    writesOf prepared ≠ [] := by
  cases records with
  | nil => exact absurd rfl hsome
  | cons r rest =>
    rw [List.mapM_cons] at hprepared
    obtain ⟨d, -, hrest⟩ := bind_eq_ok_iff.1 hprepared
    obtain ⟨others, -, hothers⟩ := bind_eq_ok_iff.1 hrest
    obtain rfl := pure_eq_ok_iff.1 hothers
    exact List.cons_ne_nil _ _

lemma readBack_of_not_reportsError {response : BulkResponse} (h : response.reportsError = false) :
    c.readBack response = c.fetch response.ids := by
  rw [readBack, firstFailure?, BulkResponse.firstError?_eq_none h]
  rfl

lemma readBack_of_reportsError {response : BulkResponse} (h : response.reportsError = true) :
    ∃ failure, c.readBack response = Session.fail (.store failure) := by
  obtain ⟨item, hitem⟩ := BulkResponse.exists_firstError? h
  refine ⟨.notIndexed item.id (item.error.getD ""), ?_⟩
  rw [readBack, firstFailure?, hitem]
  rfl

variable {σ : Type} {client : Client σ} {state : σ}

/-- Whether an insertion of so many documents came to a success with all of them acknowledged, or to
a failure of the store. -/
def Acknowledges (response : BulkResponse) (n : Nat) : Except SearchError (List Record) → Prop
  | .ok _ => response.acknowledged = n
  | .error e => ∃ failure, e = .store failure

lemma acknowledges_readBack {response : BulkResponse} {n : Nat}
    (h : response.reportsError = true ∨ response.items.length = n) :
    Acknowledges response n ((c.readBack response).run client state).result := by
  cases herror : response.reportsError with
  | true =>
    obtain ⟨failure, hfails⟩ := c.readBack_of_reportsError herror
    rw [hfails]
    exact ⟨failure, rfl⟩
  | false =>
    have hlength : response.items.length = n := h.resolve_left (by simp [herror])
    rw [readBack_of_not_reportsError herror]
    cases hresult : ((c.fetch response.ids).run client state).result with
    | ok written => exact (BulkResponse.acknowledged_eq_length herror).trans hlength
    | error e => exact (failsByStore_fetch response.ids).of_result hresult

/-- Where the look-up succeeds, nothing else makes an insertion acknowledge its documents. -/
lemma acknowledges_readBack_iff {response : BulkResponse} {n : Nat} {written : List Record}
    (hfetch : ((c.fetch response.ids).run client state).result = .ok written) :
    Acknowledges response n ((c.readBack response).run client state).result ↔
      response.reportsError = true ∨ response.items.length = n := by
  refine ⟨fun hacknowledges => ?_, acknowledges_readBack⟩
  cases herror : response.reportsError with
  | true => exact .inl rfl
  | false =>
    rw [readBack_of_not_reportsError herror, hfetch] at hacknowledges
    exact .inr ((BulkResponse.acknowledged_eq_length herror).symm.trans hacknowledges)

lemma result_insert (client : Client σ) (state : σ) (hsome : records ≠ [])
    (hprepared : records.mapM c.prepare = .ok prepared) :
    ((c.insert records).run client state).result =
      ((client.answer c.address (.bulk (writesOf prepared)) state).1.mapError .store).bind
        fun response => ((c.readBack response).run client
          (client.answer c.address (.bulk (writesOf prepared)) state).2).result := by
  rw [insert_eq hsome hprepared, Session.result_bind, Session.result_request, Session.run_request]

/-- A scripted store finds whatever it is asked for. -/
lemma exists_result_fetch_script (response : BulkResponse) (ids : List String) :
    ∃ written, ((c.fetch ids).run ({ bulk := some response } : Script).client ()).result =
      .ok written := by
  unfold fetch
  split
  · exact ⟨_, rfl⟩
  · exact ⟨_, rfl⟩

/-- A server answers operations by its next response. -/
lemma exists_answer_bulk (connection : Connection) (address : Address)
    {operations : List BulkOperation} (h : operations ≠ []) {server : Http.Playback}
    {response : Http.Response} {rest : List Http.Response}
    (hserver : server.responses = response :: rest) :
    ∃ sent, connection.client.answer address (.bulk operations) server =
      (Connection.readResponse (Wire.bulk connection.tables) response, ⟨rest, sent⟩) := by
  obtain ⟨responses, sent⟩ := server
  obtain rfl : responses = response :: rest := hserver
  have hnonempty : operations.isEmpty = false := List.isEmpty_eq_false_iff.2 h
  refine ⟨connection.bulkRequest [address.index, address.typeName, "_bulk"]
    (Wire.bulkLines operations) :: sent, ?_⟩
  simp only [Connection.client, Connection.answer, Connection.requestFor, hnonempty]
  rfl

/-- A server that answers nothing but empty objects finds nothing. -/
lemma exists_result_fetch_playback (connection : Connection) (sent : List Http.Request)
    (ids : List String) :
    ∃ written, ((c.fetch ids).run connection.client ⟨[], sent⟩).result = .ok written := by
  unfold fetch
  split
  · exact ⟨_, rfl⟩
  · refine ⟨recordsOf [], ?_⟩
    rw [Session.result_bind, Session.result_request]
    have hread : Connection.readResponse Wire.multiGet {} = .ok [] := by
      rfl
    change ((Connection.readResponse Wire.multiGet {}).mapError SearchError.store).bind _ = _
    rw [hread]
    rfl

/-- The script of the response settles for all stores whether it acknowledges an insertion. -/
lemma acknowledges_insert_iff (hsome : records ≠ [])
    (hprepared : records.mapM c.prepare = .ok prepared) (response : BulkResponse) (n : Nat) :
    (∀ (σ : Type) (client : Client σ) (state : σ),
      (client.answer c.address (.bulk (writesOf prepared)) state).1 = .ok response →
        Acknowledges response n ((c.insert records).run client state).result) ↔
      response.reportsError = true ∨ response.items.length = n := by
  constructor
  · intro h
    obtain ⟨written, hfetch⟩ := c.exists_result_fetch_script response response.ids
    have hscript := h Unit ({ bulk := some response } : Script).client () rfl
    rw [result_insert _ _ hsome hprepared] at hscript
    exact (acknowledges_readBack_iff hfetch).1 hscript
  · intro h σ client state hanswer
    rw [result_insert client state hsome hprepared, hanswer]
    exact acknowledges_readBack h

/-- A server that has this answer alone settles for all servers whether it acknowledges an
insertion. -/
lemma acknowledges_insert_iff_of_readResponse (hsome : records ≠ [])
    (hprepared : records.mapM c.prepare = .ok prepared) {answer : Http.Response}
    {response : BulkResponse} {order : Wire.TableOrder}
    (hread : Connection.readResponse (Wire.bulk order) answer = .ok response) (n : Nat) :
    (∀ (connection : Connection) (server : Http.Playback) (rest : List Http.Response),
      connection.tables = order → server.responses = answer :: rest →
        Acknowledges response n ((c.insert records).run connection.client server).result) ↔
      response.reportsError = true ∨ response.items.length = n := by
  have hwrites : writesOf prepared ≠ [] := writesOf_ne_nil hsome hprepared
  constructor
  · intro h
    let connection : Connection := { url := {}, indexName := c.index, tables := order }
    let server : Http.Playback := ⟨[answer], []⟩
    have hresponses : server.responses = [answer] := rfl
    obtain ⟨sent, hanswer⟩ := exists_answer_bulk connection c.address hwrites hresponses
    have hserver := h connection server [] rfl hresponses
    rw [result_insert _ _ hsome hprepared, hanswer, hread] at hserver
    obtain ⟨written, hfetch⟩ := c.exists_result_fetch_playback connection sent response.ids
    exact (acknowledges_readBack_iff hfetch).1 hserver
  · rintro h connection server rest rfl hserver
    obtain ⟨sent, hanswer⟩ := exists_answer_bulk connection c.address hwrites hserver
    rw [result_insert _ _ hsome hprepared, hanswer, hread]
    exact acknowledges_readBack h

/-- **The success of an insertion means that the store acknowledged every document exactly where the
answer to its bulk request has an item for each, or one that reports an error.**  That is so of any
store, and of a server by the text that it answers with and by the actions that are taken from it; a
request that fails is a failure of the store in any case. -/
theorem insert_acknowledges_iff (c : Collection) (records : List Record)
    (prepared : List PreparedDocument) (hsome : records ≠ [])
    (hprepared : records.mapM c.prepare = .ok prepared) :
    let request : Request := .bulk (writesOf prepared)
    (∀ (σ : Type) (client : Client σ) (state : σ) (failure : StoreFailure),
      (client.answer c.address request state).1 = .error failure →
        ((c.insert records).run client state).result = .error (.store failure)) ∧
    (∀ response : BulkResponse,
      (∀ (σ : Type) (client : Client σ) (state : σ),
        (client.answer c.address request state).1 = .ok response →
          Acknowledges response records.length ((c.insert records).run client state).result) ↔
      response.reportsError = true ∨ response.items.length = records.length) ∧
    ∀ (answer : Http.Response) (members : List (List (String × BulkItem)))
      (order : Wire.TableOrder), Http.isSuccess answer.status = true →
      Json.Decoder.ofText? Wire.bulkMembers answer.body = some members →
      ((∀ (connection : Connection) (server : Http.Playback) (rest : List Http.Response),
        connection.tables = order → server.responses = answer :: rest →
          Acknowledges (Wire.responseOf order members) records.length
            ((c.insert records).run connection.client server).result) ↔
      (Wire.responseOf order members).reportsError = true ∨
        members.countP (!·.isEmpty) = records.length) := by
  intro request
  refine ⟨?_, ?_, ?_⟩
  · intro σ client state failure hanswer
    rw [result_insert client state hsome hprepared, hanswer]
    rfl
  · intro response
    exact acknowledges_insert_iff hsome hprepared response records.length
  · intro answer members order hsuccess hmembers
    have hread : Connection.readResponse (Wire.bulk order) answer =
        .ok (Wire.responseOf order members) := by
      rw [Connection.readResponse, if_pos hsuccess, Wire.ofText?_bulk hmembers]
    rw [← Wire.length_items order]
    exact acknowledges_insert_iff_of_readResponse hsome hprepared hread records.length

/-- Two documents, the second of which the server acknowledges without naming it. -/
theorem insert_acknowledges_iff_unnamed :
    let c : Collection := { index := "app", schema := { typeName := "item" } }
    let connection : Connection := { url := {}, indexName := "app" }
    let records : List Record := [[("id", .str "a"), ("n", .num (.int 1))], [("n", .num (.int 2))]]
    let text := "\x7b\"items\":[\x7b\"index\":\x7b\"_id\":\"a\"\x7d\x7d," ++
      "\x7b\"index\":\x7b\"status\":201\x7d\x7d]\x7d"
    let members : List (List (String × BulkItem)) := [[("index", ⟨some "a", none⟩)],
      [("index", ⟨none, none⟩)]]
    Json.Decoder.ofText? Wire.bulkMembers text = some members ∧
      Acknowledges (Wire.responseOf {} members) 2
        ((c.insert records).run connection.client ⟨[{ body := text }], []⟩).result := by
  intro c connection records text members
  have hmembers : Json.Decoder.ofText? Wire.bulkMembers text = some members := by
    decide +kernel
  let prepared : List PreparedDocument :=
    [⟨some "a", [("n", .num (.int 1))]⟩, ⟨none, [("n", .num (.int 2))]⟩]
  have hprepared : records.mapM c.prepare = .ok prepared := by
    rfl
  obtain ⟨-, -, hserved⟩ :=
    insert_acknowledges_iff c records prepared (List.cons_ne_nil _ _) hprepared
  refine ⟨hmembers, ?_⟩
  have hacknowledges := (hserved { body := text } members {} (by decide) hmembers).2 (.inr rfl)
  exact hacknowledges connection ⟨[{ body := text }], []⟩ [] rfl rfl

/-- A member without an action acknowledges nothing, and the insertion succeeds all the same. -/
theorem insert_succeeds_unacknowledged :
    let c : Collection := { index := "app", schema := { typeName := "item" } }
    let connection : Connection := { url := {}, indexName := "app" }
    let records : List Record := [[("id", .str "a"), ("n", .num (.int 1))]]
    let text := "\x7b\"items\":[\x7b\x7d]\x7d"
    (∀ order, Json.Decoder.ofText? (Wire.bulk order) text = some ⟨[]⟩) ∧
      ((c.insert records).run connection.client ⟨[{ body := text }], []⟩).result = .ok [] ∧
      ¬Acknowledges ⟨[]⟩ records.length
        ((c.insert records).run connection.client ⟨[{ body := text }], []⟩).result := by
  intro c connection records text
  have hmembers : Json.Decoder.ofText? Wire.bulkMembers text = some [[]] := by
    decide +kernel
  have hread (order : Wire.TableOrder) :
      Json.Decoder.ofText? (Wire.bulk order) text = some ⟨[]⟩ := by
    have hnone : (Wire.responseOf order [[]]).items = [] :=
      List.length_eq_zero_iff.1 (Wire.length_items order [[]])
    rw [Wire.ofText?_bulk hmembers, ← hnone]
  have hprepared : records.mapM c.prepare = .ok [⟨some "a", [("n", .num (.int 1))]⟩] := by
    rfl
  have hsome : records ≠ [] := List.cons_ne_nil _ _
  have hserved : Connection.readResponse (Wire.bulk connection.tables) { body := text } =
      .ok ⟨[]⟩ := by
    rw [Connection.readResponse, if_pos (by decide), hread]
  have hresult :
      ((c.insert records).run connection.client ⟨[{ body := text }], []⟩).result = .ok [] := by
    have hserver : (⟨[{ body := text }], []⟩ : Http.Playback).responses = [{ body := text }] := rfl
    obtain ⟨sent, hanswer⟩ := exists_answer_bulk connection c.address
      (writesOf_ne_nil hsome hprepared) hserver
    rw [result_insert _ _ hsome hprepared, hanswer, hserved]
    rfl
  refine ⟨hread, hresult, ?_⟩
  rw [hresult]
  exact Nat.zero_ne_one

end Collection

end CriteriaSearch

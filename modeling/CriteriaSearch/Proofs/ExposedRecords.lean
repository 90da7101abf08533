import CriteriaSearch.Proofs.FoundRecords
import CriteriaSearch.Proofs.Merging
import CriteriaSearch.Proofs.Pagination

/-!
# The identifier that callers see

A stored body may hold anything under `id` and `_id`, at any place.  The record that a caller gets
for it holds neither: its `id` is the identifier under which the document is stored, there is no
`_id`, and every other field is that of the body (`Document.presents_hydrate`).  Moving identifiers
once is as good as moving them again (`Document.exposeId_exposeId`).

Every operation that gives records to callers makes them in this way, from what is stored when it
ends (`Collection.records_present_stored`).
-/

namespace CriteriaSearch

namespace Document

/-! ## Moving identifiers -/

variable {r : Record}

lemma exposeId_of_not_mem (h : Schema.storedIdField ∉ r.map Prod.fst) : exposeId r = r := by
  rw [exposeId, Record.swapRemove_eq_none_iff.2 h]

/-- A store identifier is taken out, wherever it is, and set under the name that callers use. -/
lemma exists_exposeId_eq_insert (h : Schema.storedIdField ∈ r.map Prod.fst) :
    ∃ id rest, r.Perm ((Schema.storedIdField, id) :: rest) ∧
      exposeId r = Record.insert rest Schema.idField id := by
  cases hremoved : r.swapRemove Schema.storedIdField with
  | none => exact absurd h (Record.swapRemove_eq_none_iff.1 hremoved)
  | some found =>
    obtain ⟨id, rest⟩ := found
    refine ⟨id, rest, Record.perm_of_swapRemove hremoved, ?_⟩
    rw [exposeId, hremoved]

lemma distinctKeys_exposeId (hr : r.DistinctKeys) : (exposeId r).DistinctKeys := by
  by_cases h : Schema.storedIdField ∈ r.map Prod.fst
  · obtain ⟨id, rest, hperm, hexposed⟩ := exists_exposeId_eq_insert h
    have hkeys := (hperm.map Prod.fst).nodup_iff.1 hr
    rw [hexposed]
    exact Record.distinctKeys_insert _ _ (List.nodup_cons.1 hkeys).2
  · rwa [exposeId_of_not_mem h]

/-- **What a record holds once its identifier is moved.** -/
theorem get?_exposeId (hr : r.DistinctKeys) (key : String) :
    (exposeId r).get? key =
      if key = Schema.storedIdField then none
      else if key = Schema.idField then
        (r.get? Schema.storedIdField).or (r.get? Schema.idField)
      else r.get? key := by
  by_cases h : Schema.storedIdField ∈ r.map Prod.fst
  · obtain ⟨id, rest, hperm, hexposed⟩ := exists_exposeId_eq_insert h
    have hkeys := (hperm.map Prod.fst).nodup_iff.1 hr
    have hgone : Record.get? rest Schema.storedIdField = none :=
      Record.get?_eq_none_iff.2 (List.nodup_cons.1 hkeys).1
    have hids : Schema.idField ≠ Schema.storedIdField := by decide
    rw [hexposed, Record.get?_insert, Record.get?_eq_of_perm hperm hr Schema.storedIdField,
      Record.get?_eq_of_perm hperm hr key, Record.get?, if_pos rfl, Option.some_or, Record.get?]
    by_cases hstored : key = Schema.storedIdField
    · rw [if_pos hstored, hstored, if_neg hids, hgone]
    · rw [if_neg hstored, if_neg (Ne.symm hstored)]
      by_cases hid : key = Schema.idField
      · rw [if_pos hid, if_pos hid.symm]
      · rw [if_neg hid, if_neg (Ne.symm hid)]
  · have hnone := Record.get?_eq_none_iff.2 h
    rw [exposeId_of_not_mem h, hnone, Option.none_or]
    by_cases hstored : key = Schema.storedIdField
    · rw [if_pos hstored, hstored, hnone]
    · rw [if_neg hstored]
      split
      · next hid => rw [hid]
      · rfl

lemma storedIdField_not_mem_exposeId (hr : r.DistinctKeys) :
    Schema.storedIdField ∉ (exposeId r).map Prod.fst := by
  rw [← Record.get?_eq_none_iff, get?_exposeId hr, if_pos rfl]

/-- Moving identifiers again changes nothing. -/
theorem exposeId_exposeId (hr : r.DistinctKeys) : exposeId (exposeId r) = exposeId r :=
  exposeId_of_not_mem (storedIdField_not_mem_exposeId hr)

/-- Moving identifiers leaves all other fields alone. -/
lemma get?_exposeId_of_ne (hr : r.DistinctKeys) {key : String}
    (hkey : Schema.isIdField key = false) : (exposeId r).get? key = r.get? key := by
  obtain ⟨hid, hstored⟩ : key ≠ Schema.idField ∧ key ≠ Schema.storedIdField := by
    simpa [Schema.isIdField] using hkey
  rw [get?_exposeId hr, if_neg hstored, if_neg hid]

/-! ## Records of bodies -/

/-- Whether a record is what callers see of the body that is stored under an identifier. -/
structure Presents (id : String) (body r : Record) : Prop where
  distinctKeys : r.DistinctKeys
  not_mem : Schema.storedIdField ∉ r.map Prod.fst
  id_eq : r.get? Schema.idField = some (.str id)
  field_eq : ∀ key, Schema.isIdField key = false → r.get? key = body.get? key

/-- **The record that is made of a body is what callers see of it.** -/
theorem presents_hydrate {body : Record} (h : body.DistinctKeys) (id : String) :
    Presents id body (hydrate id body) := by
  have hkeys := Record.distinctKeys_insert Schema.storedIdField (.str id) h
  refine ⟨distinctKeys_exposeId hkeys, storedIdField_not_mem_exposeId hkeys, ?_, ?_⟩
  · have hids : Schema.idField ≠ Schema.storedIdField := by decide
    rw [hydrate, get?_exposeId hkeys, if_neg hids, if_pos rfl, Record.get?_insert, if_pos rfl,
      Option.some_or]
  · intro key hkey
    have hstored : Schema.storedIdField ≠ key := by
      rintro rfl
      cases hkey
    rw [hydrate, get?_exposeId_of_ne hkeys hkey, Record.get?_insert, if_neg hstored]

end Document

namespace Collection

open Document (Presents exposeId hydrate presents_hydrate)

variable {c : Collection} {m m' : Memory} {α : Type}

/-! ## Records of stored documents -/

/-- Whether a record is what callers see of a stored document. -/
def Shows (c : Collection) (m : Memory) (r : Record) : Prop :=
  ∃ id body, (m.documents c.address)[id]? = some body ∧ Presents id body r

/-- Whether all records that a session ends with are made of documents that are stored then. -/
def YieldsStored (c : Collection) (s : Session (List Record)) : Prop :=
  ∀ ⦃m records m'⦄, s.Yields Memory.client m records m' →
    ∀ r ∈ records, ∃ id body, (m'.documents c.address)[id]? = some body ∧ r = hydrate id body

lemma yieldsStored_nil (c : Collection) : c.YieldsStored (pure []) := by
  intro m records m' h
  obtain ⟨rfl, -⟩ := Session.yields_pure_iff.1 h
  exact List.forall_mem_nil _

lemma yieldsStored_fail (c : Collection) (e : SearchError) : c.YieldsStored (Session.fail e) := by
  intro m records m' h
  cases h.1

lemma YieldsStored.bind {s : Session α} {f : α → Session (List Record)}
    (hf : ∀ a, c.YieldsStored (f a)) : c.YieldsStored (s >>= f) := by
  intro m records m' h
  obtain ⟨a, between, -, hlast⟩ := Session.yields_bind_iff.1 h
  exact hf a hlast

lemma yieldsStored_fetch (c : Collection) (ids : List String) : c.YieldsStored (c.fetch ids) := by
  rintro m records m' ⟨hresult, hstate⟩ r hr
  rw [result_fetch] at hresult
  rw [(c.readsOnly_fetch ids).state_run] at hstate
  obtain rfl := Except.ok.inj hresult
  subst hstate
  obtain ⟨id, -, hid⟩ := List.mem_filterMap.1 hr
  obtain ⟨body, hbody, rfl⟩ := Option.map_eq_some_iff.1 hid
  exact ⟨id, body, hbody, rfl⟩

lemma yieldsStored_insert (c : Collection) (records : List Record) :
    c.YieldsStored (c.insert records) := by
  rcases c.insert_cases records with ⟨-, h⟩ | ⟨-, -, e, -, h⟩ | ⟨prepared, -, h⟩ <;> rw [h]
  · exact c.yieldsStored_nil
  · exact c.yieldsStored_fail e
  · refine YieldsStored.bind fun response => ?_
    rcases c.readBack_cases response with ⟨failure, hfails⟩ | hfetch
    · rw [hfails]
      exact c.yieldsStored_fail _
    · rw [hfetch]
      exact c.yieldsStored_fetch _

lemma yieldsStored_update (c : Collection) (criteria : Criteria) (values : Record) :
    c.YieldsStored (c.update criteria values) := by
  refine YieldsStored.bind fun prepared => YieldsStored.bind fun q => ?_
  refine YieldsStored.bind fun response => ?_
  split
  · exact c.yieldsStored_fail _
  · refine YieldsStored.bind fun batch => YieldsStored.bind fun ids => ?_
    exact c.yieldsStored_fetch ids

/-- A page has the items that it is made of. -/
lemma items_of_yields_toPage {p : PageRequest} {items : List Record} {total : Nat}
    {page : Page Record} {client : Client σ} {state : σ}
    (h : ((Session.ofExcept ((p.toPage items total).mapError .panicked)).run client state).result =
      .ok page) : page.items = items := by
  have hmade : (p.toPage items total).mapError SearchError.panicked = .ok page := h
  rw [PageRequest.toPage] at hmade
  cases hnext : p.next? total with
  | error cause =>
    rw [hnext] at hmade
    cases hmade
  | ok next =>
    rw [hnext] at hmade
    rw [← Except.ok.inj hmade]

/-- The items of a page are among the documents that a search for its window finds. -/
lemma exists_found_of_paginate {criteria : Criteria} {p : PageRequest} {page : Page Record}
    (h : ((c.paginate criteria p).run Memory.client m).result = .ok page) :
    ∃ found, ((c.find (p.window criteria)).run Memory.client m).result = .ok found ∧
      ∀ r ∈ page.items, r ∈ found.records := by
  rw [paginate, (c.readsOnly_count criteria).result_bind] at h
  obtain ⟨total, -, h⟩ := bind_eq_ok_iff.1 h
  rw [(c.readsOnly_find (p.window criteria)).result_bind] at h
  obtain ⟨found, hfound, h⟩ := bind_eq_ok_iff.1 h
  refine ⟨found, hfound, fun r hr => ?_⟩
  rw [items_of_yields_toPage h] at hr
  split at hr
  · exact List.mem_of_mem_drop (List.mem_of_mem_take hr)
  · exact hr

/-! ## Distinct keys -/

/-- A session that sends settled records keeps the keys of stored bodies distinct. -/
lemma stores_distinctKeys_of_yields {s : Session α} (hs : c.SendsSettled s)
    (h : m.Stores Record.DistinctKeys c.address) {a : α} (hyields : s.Yields Memory.client m a m') :
    m'.Stores Record.DistinctKeys c.address := by
  rw [← hyields.2]
  refine Session.Sends.run_keeps hs ?_ h
  rintro address r state ⟨rfl, hsources⟩ hstate
  refine hstate.answer (fun target added htarget _ => Record.distinctKeys_merge added htarget) ?_
  exact fun source hsource => (hsources source hsource).distinctKeys

/-- What is made of a stored document shows it. -/
lemma shows_of_stored (h : m.Stores Record.DistinctKeys c.address) {r : Record}
    (hr : ∃ id body, (m.documents c.address)[id]? = some body ∧ r = hydrate id body) :
    c.Shows m r := by
  obtain ⟨id, body, hbody, rfl⟩ := hr
  exact ⟨id, body, hbody, presents_hydrate (h id body hbody) id⟩

/-! ## Operations -/

/-- **Every record that a caller gets shows a stored document under the identifier that it is stored
under, with its other fields as they are stored, whatever stands under `id` and `_id` in the body;
and moving identifiers of records is idempotent and leaves all other fields alone.** -/
theorem records_present_stored (c : Collection) (m : Memory)
    (h : m.Stores Record.DistinctKeys c.address) :
    (∀ (criteria : Criteria) (found : FindResult),
      ((c.find criteria).run Memory.client m).result = .ok found →
        ∀ r ∈ found.records, c.Shows m r) ∧
    (∀ (records written : List Record) (m' : Memory),
      (c.insert records).Yields Memory.client m written m' → ∀ r ∈ written, c.Shows m' r) ∧
    (∀ (r written : Record) (m' : Memory),
      (c.insertOne r).Yields Memory.client m written m' → c.Shows m' written) ∧
    (∀ (criteria : Criteria) (values : Record) (updated : List Record) (m' : Memory),
      (c.update criteria values).Yields Memory.client m updated m' →
        ∀ r ∈ updated, c.Shows m' r) ∧
    (∀ (criteria : Criteria) (p : PageRequest) (page : Page Record),
      ((c.paginate criteria p).run Memory.client m).result = .ok page →
        ∀ r ∈ page.items, c.Shows m r) ∧
    ∀ records : List Record, (∀ r ∈ records, r.DistinctKeys) →
      (records.map exposeId).map exposeId = records.map exposeId ∧
      ∀ r ∈ records, ∀ key, Schema.isIdField key = false →
        (exposeId r).get? key = r.get? key := by
  have hinsert : ∀ {records written : List Record} {m' : Memory},
      (c.insert records).Yields Memory.client m written m' → ∀ r ∈ written, c.Shows m' r :=
    fun hyields r hr => shows_of_stored
      (stores_distinctKeys_of_yields (sends_insert _) h hyields)
      (c.yieldsStored_insert _ hyields r hr)
  refine ⟨?_, fun _ _ _ => hinsert, ?_, ?_, ?_, ?_⟩
  · intro criteria found hfound r hr
    exact shows_of_stored h (exists_stored_of_find hfound r hr)
  · intro r written m' hyields
    obtain ⟨all, between, hall, hlast⟩ := Session.yields_bind_iff.1 hyields
    cases all with
    | nil => cases hlast.1
    | cons first rest =>
      obtain ⟨rfl, rfl⟩ := Session.yields_pure_iff.1 hlast
      exact hinsert hall first List.mem_cons_self
  · intro criteria values updated m' hyields r hr
    exact shows_of_stored (stores_distinctKeys_of_yields (sends_update _ _) h hyields)
      (c.yieldsStored_update _ _ hyields r hr)
  · intro criteria p page hpage r hr
    obtain ⟨found, hfound, hitems⟩ := exists_found_of_paginate hpage
    exact shows_of_stored h (exists_stored_of_find hfound r (hitems r hr))
  · intro records hrecords
    refine ⟨?_, fun r hr key hkey => Document.get?_exposeId_of_ne (hrecords r hr) hkey⟩
    rw [List.map_map]
    exact List.map_congr_left fun r hr => Document.exposeId_exposeId (hrecords r hr)

/-- A raw body that names itself twice, and an update of its document. -/
theorem records_present_stored_raw :
    let c : Collection := { index := "app", schema := { typeName := "item" } }
    let raw : Record :=
      [("_id", .str "x"), ("n", .str "1"), ("id", .num (.int 7)), ("z", .str "2")]
    let m := ({} : Memory).put c.address "a" raw
    let update := (c.update {} [("n", .str "3")]).run Memory.client m
    let shown : Record := [("z", .str "2"), ("n", .str "1"), ("id", .str "a")]
    let updated : Record := [("z", .str "2"), ("n", .str "3"), ("id", .str "a")]
    m.Stores Record.DistinctKeys c.address ∧
      ((c.find {}).run Memory.client m).result = .ok (.documents [shown]) ∧ c.Shows m shown ∧
      update.result = .ok [updated] ∧ c.Shows update.state updated ∧
      [exposeId (exposeId raw)] = [exposeId raw] := by
  intro c raw m update shown updated
  have hstored : m.Stores Record.DistinctKeys c.address :=
    (Memory.stores_empty _ _).put (by decide) "a"
  obtain ⟨hfinds, -, -, hupdates, -, hmoves⟩ := records_present_stored c m hstored
  have hfind : ((c.find {}).run Memory.client m).result = .ok (.documents [shown]) := by
    rfl
  have hupdate : update.result = .ok [updated] := by
    show ((c.update {} _).run Memory.client m).result = _
    rw [update_eq_of_hits]
    cbv
  have hshown : c.Shows m shown := hfinds {} _ hfind shown List.mem_cons_self
  have hchanged : c.Shows update.state updated :=
    hupdates {} _ _ _ (Session.yields_of_result_eq_ok hupdate) updated List.mem_cons_self
  obtain ⟨hexposed, -⟩ := hmoves [raw] (List.forall_mem_singleton.2 (by decide))
  exact ⟨hstored, hfind, hshown, hupdate, hchanged, hexposed⟩

end Collection

end CriteriaSearch

import CriteriaSearch.Proofs.BulkOperations
import CriteriaSearch.Proofs.FoundRecords

/-!
# Insertion of several records

An insertion prepares its records, writes them one after another and looks up what it wrote.  What
it writes for the prepared documents is told by `Documents.Writes`: a document without an identifier
gets one that no document has by then, so it takes the place of none.

A document that has the identifier of an earlier one takes its place, and the look-up comes after
all of them are written.  Hence the record that stands for a document is that of the last one with
the same identifier (`Collection.insert_writes_in_order`).  A record that cannot be prepared ends
the insertion before anything is written.
-/

namespace CriteriaSearch

/-! ## Documents that are written -/

/-- Whether a document is the last of those written under an identifier. -/
def StoredDocument.IsLastOf (last : StoredDocument) (written : List StoredDocument) (id : String) :
    Prop :=
  ∃ before after, written = before ++ last :: after ∧ last.id = id ∧
    ∀ later ∈ after, later.id ≠ id

lemma StoredDocument.IsLastOf.id_eq {last : StoredDocument} {written : List StoredDocument}
    {id : String} (h : last.IsLastOf written id) : last.id = id := by
  obtain ⟨before, after, -, hid, -⟩ := h
  exact hid

namespace Documents

variable {ds : Documents} {prepared : List PreparedDocument} {written : List StoredDocument}
  {d last : StoredDocument} {id : String}

/-- The documents after one is written. -/
def write (ds : Documents) (d : StoredDocument) : Documents :=
  ds.insert d.id d.body

/-- Whether documents are what prepared ones are written as, one after another: each has the body
that was prepared, and the identifier that was prepared or else an issued one that no document has
by then. -/
inductive Writes : Documents → List PreparedDocument → List StoredDocument → Prop
  | nil (ds : Documents) : Writes ds [] []
  | cons {ds : Documents} {p : PreparedDocument} {d : StoredDocument}
    {prepared : List PreparedDocument} {written : List StoredDocument}
    (hid : ds.Uses p.id d.id) (hbody : d.body = p.body)
    (hrest : Writes (ds.write d) prepared written) : Writes ds (p :: prepared) (d :: written)

lemma getElem?_write (ds : Documents) (d : StoredDocument) (id : String) :
    (ds.write d)[id]? = if d.id = id then some d.body else ds[id]? := by
  simp [write, Std.TreeMap.getElem?_insert]

/-- Documents with other identifiers leave a document alone. -/
lemma getElem?_foldl_write_of_ne (h : ∀ d ∈ written, d.id ≠ id) :
    (written.foldl write ds)[id]? = ds[id]? := by
  induction written generalizing ds with
  | nil => rfl
  | cons d rest ih =>
    rw [List.forall_mem_cons] at h
    rw [List.foldl_cons, ih h.2, getElem?_write, if_neg h.1]

/-- Of the documents that are written under an identifier, the last one stays. -/
lemma getElem?_foldl_write (h : last.IsLastOf written id) :
    (written.foldl write ds)[id]? = some last.body := by
  obtain ⟨before, after, rfl, hid, hafter⟩ := h
  rw [List.foldl_append, List.foldl_cons, getElem?_foldl_write_of_ne hafter, getElem?_write,
    if_pos hid]

end Documents

/-- Among documents that are written there is a last one with the identifier of each. -/
lemma StoredDocument.exists_isLastOf {written : List StoredDocument} {d : StoredDocument}
    (h : d ∈ written) : ∃ last : StoredDocument, last.IsLastOf written d.id := by
  induction written generalizing d with
  | nil => simp at h
  | cons first rest ih =>
    by_cases hlater : ∃ later ∈ rest, later.id = d.id
    · obtain ⟨later, hmem, hid⟩ := hlater
      obtain ⟨last, before, after, rfl, hlast, hafter⟩ := ih hmem
      rw [hid] at hlast hafter
      exact ⟨last, first :: before, after, rfl, hlast, hafter⟩
    · have hother : ∀ later ∈ rest, later.id ≠ d.id := by
        intro later hmem hid
        exact hlater ⟨later, hmem, hid⟩
      obtain rfl : d = first := by
        rcases List.mem_cons.1 h with hfirst | hrest
        · exact hfirst
        · exact absurd rfl (hother d hrest)
      exact ⟨d, [], rest, rfl, rfl, hother⟩

namespace Memory

/-- Operations that write documents are all accepted. -/
lemma applyAll_writesOf (m : Memory) (address : Address) (prepared : List PreparedDocument) :
    ∃ written, (m.documents address).Writes prepared written ∧
      (m.applyAll address (Collection.writesOf prepared)).1 =
        (written.map fun d => ⟨some d.id, none⟩) ∧
      (m.applyAll address (Collection.writesOf prepared)).2.documents address =
        written.foldl Documents.write (m.documents address) := by
  induction prepared generalizing m with
  | nil => exact ⟨[], .nil _, rfl, rfl⟩
  | cons p rest ih =>
    have htakes := m.takes_applyOperation address (.index p.id p.body)
    obtain ⟨written, hwrites, hitems, hdocuments⟩ :=
      ih (m.applyOperation address (.index p.id p.body)).2
    rw [Collection.writesOf, List.map_cons, applyAll_cons]
    rw [Collection.writesOf] at hitems hdocuments
    generalize (m.applyOperation address (.index p.id p.body)).1 = item at htakes ⊢
    generalize (m.applyOperation address (.index p.id p.body)).2 = between
      at htakes hwrites hitems hdocuments ⊢
    cases htakes with
    | refused hid hrefused => cases hrefused
    | @accepted id _ hid haccepted hstored hothers =>
      have hwritten : between.documents address = (m.documents address).write ⟨id, p.body⟩ :=
        hstored
      rw [hwritten] at hwrites hdocuments
      refine ⟨⟨id, p.body⟩ :: written, .cons hid rfl hwrites, ?_, ?_⟩
      · rw [hitems, List.map_cons]
      · rw [hdocuments, List.foldl_cons]

end Memory

namespace BulkResponse

variable {written : List StoredDocument}

lemma firstError?_written :
    firstError? ⟨written.map fun d => ⟨some d.id, none⟩⟩ = none := by
  simp [firstError?]

lemma ids_written :
    ids ⟨written.map fun d => ⟨some d.id, none⟩⟩ = written.map StoredDocument.id := by
  induction written with
  | nil => rfl
  | cons d rest ih => simpa [ids] using ih

end BulkResponse

namespace Collection

variable {c : Collection}

/-- After documents are written they are looked up. -/
lemma readBack_written (c : Collection) (written : List StoredDocument) :
    c.readBack ⟨written.map fun d => ⟨some d.id, none⟩⟩ =
      c.fetch (written.map StoredDocument.id) := by
  rw [readBack, firstFailure?, BulkResponse.firstError?_written, BulkResponse.ids_written]
  rfl

/-- What a look-up shows of documents that were written: for each the record of the last one with
its identifier. -/
def ShowsLast (written : List StoredDocument) (shown : List Record) : Prop :=
  List.Forall₂ (fun d r => ∃ last : StoredDocument, last.IsLastOf written d.id ∧ r = last.toRecord)
    written shown

lemma showsLast_record? (ds : Documents) (written : List StoredDocument) :
    ShowsLast written
      ((written.map StoredDocument.id).filterMap (written.foldl Documents.write ds).record?) := by
  -- The induction is on a part of what was written; the documents are those after all of it.
  have run : ∀ part : List StoredDocument, (∀ d ∈ part, d ∈ written) →
      List.Forall₂
        (fun d r => ∃ last : StoredDocument, last.IsLastOf written d.id ∧ r = last.toRecord) part
        ((part.map StoredDocument.id).filterMap (written.foldl Documents.write ds).record?) := by
    intro part hpart
    induction part with
    | nil => exact .nil
    | cons d rest ih =>
      rw [List.forall_mem_cons] at hpart
      obtain ⟨last, hlast⟩ := StoredDocument.exists_isLastOf hpart.1
      have hrecord : (written.foldl Documents.write ds).record? d.id = some last.toRecord := by
        have hid : last.id = d.id := hlast.id_eq
        rw [Documents.record?, Documents.getElem?_foldl_write hlast, StoredDocument.toRecord, hid]
        rfl
      rw [List.map_cons, List.filterMap_cons, hrecord]
      exact .cons ⟨last, hlast, rfl⟩ (ih hpart.2)
  exact run written fun d hd => hd

/-- Where all records can be prepared, an insertion writes them and shows what each came to. -/
lemma exists_yields_insert {records : List Record} {prepared : List PreparedDocument}
    (hprepared : records.mapM c.prepare = .ok prepared) (m : Memory) :
    ∃ written shown m', (m.documents c.address).Writes prepared written ∧
      (c.insert records).Yields Memory.client m shown m' ∧ ShowsLast written shown ∧
      m'.documents c.address = written.foldl Documents.write (m.documents c.address) ∧
      ∀ other, other ≠ c.address → m'.documents other = m.documents other := by
  by_cases hsome : records = []
  · subst hsome
    obtain rfl : prepared = [] := (pure_eq_ok_iff.1 hprepared).symm
    exact ⟨[], [], m, .nil _, Session.yields_pure_iff.2 ⟨rfl, rfl⟩, .nil, rfl, fun _ _ => rfl⟩
  · obtain ⟨written, hwrites, hitems, hdocuments⟩ := m.applyAll_writesOf c.address prepared
    have hothers : ∀ other, other ≠ c.address →
        (m.applyAll c.address (writesOf prepared)).2.documents other = m.documents other := by
      intro other hother
      exact Memory.documents_applyAll_of_ne hother m _
    refine ⟨written, _, _, hwrites, ?_, showsLast_record? (m.documents c.address) written,
      hdocuments, hothers⟩
    rw [insert_eq hsome hprepared, Session.yields_bind_iff]
    refine ⟨_, _, Session.yields_request_iff.2 (Memory.answer_bulk _ _ _), ?_⟩
    rw [hitems, readBack_written, ← hdocuments]
    exact ⟨result_fetch c _ _, (c.readsOnly_fetch _).state_run _⟩

/-- **An insertion either writes all of its records, one after another, and shows what each of them
came to, or it fails for the first one that cannot be prepared and changes nothing.** -/
theorem insert_writes_in_order (c : Collection) (m : Memory) (records : List Record) :
    (∃ prepared written shown m',
      List.Forall₂ (fun r p => Document.prepare c.schema.schema r = .ok p) records prepared ∧
      (m.documents c.address).Writes prepared written ∧
      (c.insert records).Yields Memory.client m shown m' ∧ ShowsLast written shown ∧
      m'.documents c.address = written.foldl Documents.write (m.documents c.address) ∧
      ∀ other, other ≠ c.address → m'.documents other = m.documents other) ∨
    ∃ before r after cause, records = before ++ r :: after ∧
      (∀ earlier ∈ before, ∃ p, Document.prepare c.schema.schema earlier = .ok p) ∧
      Document.prepare c.schema.schema r = .error cause ∧
      ((c.insert records).run Memory.client m).result = .error (.invalidDocument cause) ∧
      ((c.insert records).run Memory.client m).state = m := by
  obtain ⟨prepared, hprepared, hpairs⟩ | ⟨before, r, after, e, hrecords, hbefore, hr, hfails⟩ :=
    mapM_cases c.prepare records
  · left
    have hprepare : List.Forall₂ (fun r p => Document.prepare c.schema.schema r = .ok p) records
        prepared := hpairs.imp fun r p => prepare_eq_ok_iff.1
    obtain ⟨written, shown, m', hwritten⟩ := exists_yields_insert hprepared m
    exact ⟨prepared, written, shown, m', hprepare, hwritten⟩
  · right
    obtain ⟨cause, hcause, rfl⟩ := prepare_eq_error_iff.1 hr
    refine ⟨before, r, after, cause, hrecords, ?_, hcause, ?_, ?_⟩
    · intro earlier hearlier
      obtain ⟨p, hp⟩ := hbefore earlier hearlier
      exact ⟨p, prepare_eq_ok_iff.1 hp⟩
    · rw [insert_eq_fail hfails]
      rfl
    · rw [insert_eq_fail hfails]
      rfl

/-- A number and its text name one document, so the second record takes the place of the first. -/
theorem insert_writes_in_order_same_identifier :
    let c : Collection := { index := "app", schema := { typeName := "item" } }
    let m := ({} : Memory).put c.address "a" [("n", .str "0")]
    let records : List Record :=
      [[("id", .num (.int 7)), ("n", .str "1")], [("n", .str "2"), ("id", .str "7")]]
    let outcome := (c.insert records).run Memory.client m
    let latest : Record := [("n", .str "2"), ("id", .str "7")]
    outcome.result = .ok [latest, latest] ∧
      ∃ prepared written, (m.documents c.address).Writes prepared written ∧
        ShowsLast written [latest, latest] ∧
        outcome.state.documents c.address =
          written.foldl Documents.write (m.documents c.address) := by
  intro c m records outcome latest
  have hresult : outcome.result = .ok [latest, latest] := by
    rfl
  obtain ⟨prepared, written, shown, m', -, hwrites, ⟨hshown, hstate⟩, hlast, hdocuments, -⟩ |
    ⟨before, r, after, cause, -, -, -, herror, -⟩ := insert_writes_in_order c m records
  · obtain rfl : [latest, latest] = shown := Except.ok.inj (hresult.symm.trans hshown)
    refine ⟨hresult, prepared, written, hwrites, hlast, ?_⟩
    rw [← hdocuments, ← hstate]
  · have hboth : Except.error (SearchError.invalidDocument cause) = .ok [latest, latest] :=
      herror.symm.trans hresult
    cases hboth

end Collection

end CriteriaSearch

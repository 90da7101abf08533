import CriteriaSearch.Proofs.QueryRequests
import CriteriaSearch.Proofs.WrittenValues

/-!
# Finding what was inserted

A document that was inserted comes back with its identifier, and asking for that identifier finds
the document and nothing else (`Collection.find_byId_eq_iff`), whether the caller gave the
identifier or the store issued it.

The empty text is an identifier too, but as a value for `id` it asks for no identifier at all, so
looking for it lists whatever there is.
-/

namespace CriteriaSearch

/-- The criteria that ask for the document of an identifier. -/
def Criteria.byId (id : String) : Criteria :=
  { clause := some (.eq Schema.idField (.str id)) }

/-- The criteria as a caller writes them. -/
lemma Criteria.ofJson?_byId (id : String) :
    ofJson? (.obj [("where", .obj [(Schema.idField, .str id)])]) = .ok (byId id) := by
  rfl

lemma Criteria.idLookup?_byId {id : String} (h : id ≠ "") : (byId id).idLookup? = some [id] := by
  simp [idLookup?, byId, Clause.eq, Clause.ofField, Clause.idLookup?, Json.isTruthy, Json.idText?,
    h]

/-! ## Everything -/

namespace Documents

variable {ds : Documents}

/-- A stored document is the only one exactly when no other identifier is stored. -/
lemma toDocuments_eq_singleton_iff {id : String} {body : Record} (h : ds[id]? = some body) :
    ds.toDocuments = [⟨id, body⟩] ↔ ∀ other ∈ ds, other = id := by
  have hmem : (⟨id, body⟩ : StoredDocument) ∈ ds.toDocuments := (mem_toDocuments ds ⟨id, body⟩).2 h
  constructor
  · intro hsingle other hother
    obtain ⟨stored, hstored⟩ :=
      Option.isSome_iff_exists.1 (Std.TreeMap.mem_iff_isSome_getElem?.1 hother)
    have hfound := (mem_toDocuments ds ⟨other, stored⟩).2 hstored
    rw [hsingle, List.mem_singleton] at hfound
    exact congrArg StoredDocument.id hfound
  · intro honly
    have hsame : ∀ d ∈ ds.toDocuments, d = ⟨id, body⟩ := by
      rintro ⟨other, stored⟩ hd
      have hstored : ds[other]? = some stored := (mem_toDocuments ds ⟨other, stored⟩).1 hd
      have hother : other ∈ ds :=
        Std.TreeMap.mem_iff_isSome_getElem?.2 (Option.isSome_iff_exists.2 ⟨stored, hstored⟩)
      obtain rfl := honly other hother
      rw [Option.some.inj (h.symm.trans hstored)]
    have hreplicate := List.eq_replicate_iff.2 ⟨rfl, hsame⟩
    have hle : ds.toDocuments.length ≤ 1 := by
      have hnodup : ds.toDocuments.Nodup := ds.nodup_ids.of_map
      rw [hreplicate] at hnodup
      exact List.nodup_replicate.1 hnodup
    have hone : ds.toDocuments.length = 1 :=
      le_antisymm hle (List.length_pos_of_mem hmem)
    rw [hreplicate, hone]
    rfl

/-- A window with room for two shows a stored document alone exactly when it is the only one. -/
lemma take_toRecord_eq_singleton_iff {id : String} {body : Record} (h : ds[id]? = some body)
    {limit : Nat} (hlimit : 2 ≤ limit) :
    (ds.toDocuments.take limit).map StoredDocument.toRecord = [Document.hydrate id body] ↔
      ∀ other ∈ ds, other = id := by
  rw [← toDocuments_eq_singleton_iff h]
  constructor
  · intro hshown
    have hlength : ds.toDocuments.length = 1 := by
      have hshownLength := congrArg List.length hshown
      rw [List.length_map, List.length_take, List.length_singleton] at hshownLength
      omega
    obtain ⟨d, hd⟩ := List.length_eq_one_iff.1 hlength
    have hmem := (mem_toDocuments ds ⟨id, body⟩).2 h
    rw [hd, List.mem_singleton] at hmem
    rw [hd, hmem]
  · intro hsingle
    rw [hsingle, List.take_of_length_le (le_trans (Nat.le_succ 1) hlimit)]
    rfl

end Documents

namespace Collection

open Document (hydrate)

variable {c : Collection} {m m' : Memory} {r written : Record}

/-- Asking for nothing lists the first documents. -/
lemma result_find_all (c : Collection) (m : Memory) :
    ((c.find {}).run Memory.client m).result =
      .ok (.documents (((m.documents c.address).toDocuments.take Memory.defaultSize).map
        StoredDocument.toRecord)) := by
  have hlisting : m.listing c.address { typeName := c.schema.typeName } =
      .ok (m.documents c.address).toDocuments := by
    rw [Memory.listing, Documents.matching_matchAll]
    exact sortDocuments_nil m.sorting _
  exact (result_find_eq_ok_iff rfl).2 ⟨_, _, rfl, hlisting, rfl⟩

/-- Asking for the empty identifier asks for nothing in particular. -/
lemma find_byId_empty (c : Collection) : c.find (.byId "") = c.find {} :=
  rfl

/-- **Asking for the identifier that an inserted document came back with finds that document and
nothing else, but for the empty identifier beside others.**  Asking for that one is asking for
everything. -/
theorem find_byId_eq_iff (c : Collection) (m m' : Memory) (r written : Record)
    (h : (c.insertOne r).Yields Memory.client m written m') :
    ∃ id, written.get? Schema.idField = some (.str id) ∧
      Criteria.ofJson? (.obj [("where", .obj [(Schema.idField, .str id)])]) = .ok (.byId id) ∧
      (((c.find (.byId id)).run Memory.client m').result = .ok (.documents [written]) ↔
        (id = "" → ∀ other ∈ m'.documents c.address, other = id)) ∧
      (id = "" → c.find (.byId id) = c.find {}) := by
  obtain ⟨d, -, rfl, rfl⟩ := exists_put_of_yields_insertOne h
  generalize hid : (m.chooseId c.address d.id).1 = id
  generalize hm' : (m.chooseId c.address d.id).2.put c.address id d.body = m'
  have hstored : (m'.documents c.address)[id]? = some d.body := by
    rw [← hm', Memory.getElem?_put, if_pos rfl]
  refine ⟨id, Document.get?_hydrate id d.body, Criteria.ofJson?_byId id, ?_, ?_⟩
  · by_cases hempty : id = ""
    · subst hempty
      have htwo : 2 ≤ Memory.defaultSize := by decide
      rw [find_byId_empty, result_find_all, forall_prop_of_true rfl,
        ← Documents.take_toRecord_eq_singleton_iff hstored htwo, Except.ok.injEq,
        FindResult.documents.injEq]
    · have hlookup := result_find_of_lookup c m' (Criteria.idLookup?_byId hempty)
      have hrecord : (m'.documents c.address).record? id = some (hydrate id d.body) := by
        rw [Documents.record?, hstored]
        rfl
      rw [hlookup, List.filterMap_cons, hrecord]
      simp [hempty]
  · rintro rfl
    exact c.find_byId_empty

/-- A number for an identifier, beside another document. -/
theorem find_byId_eq_iff_number :
    let c : Collection := { index := "app", schema := { typeName := "item" } }
    let m := ({} : Memory).put c.address "b" [("n", .str "1")]
    let outcome := (c.insertOne [("id", .num (.int 7)), ("n", .str "2")]).run Memory.client m
    let written : Record := [("n", .str "2"), ("id", .str "7")]
    outcome.result = .ok written ∧
      ((c.find (.byId "7")).run Memory.client outcome.state).result =
        .ok (.documents [written]) := by
  intro c m outcome written
  have hresult : outcome.result = .ok written := by
    rfl
  obtain ⟨id, hid, -, hfound, -⟩ :=
    find_byId_eq_iff c m _ _ written (Session.yields_of_result_eq_ok hresult)
  obtain rfl : "7" = id := Json.str.inj (Option.some.inj hid)
  have hsome : ¬"7" = "" := by
    decide
  exact ⟨hresult, hfound.2 fun hempty => absurd hempty hsome⟩

/-- Beside another document, asking for the empty identifier finds both. -/
theorem find_byId_empty_finds_others :
    let c : Collection := { index := "app", schema := { typeName := "item" } }
    let m := ({} : Memory).put c.address "b" [("n", .str "1")]
    let outcome := (c.insertOne [("id", .str ""), ("n", .str "2")]).run Memory.client m
    let written : Record := [("n", .str "2"), ("id", .str "")]
    outcome.result = .ok written ∧
      ((c.find (.byId "")).run Memory.client outcome.state).result =
        .ok (.documents [written, [("n", .str "1"), ("id", .str "b")]]) ∧
      [written, [("n", .str "1"), ("id", .str "b")]] ≠ [written] := by
  intro c m outcome written
  refine ⟨?_, ?_, ?_⟩
  · rfl
  · rfl
  · exact fun hsame => by cases (List.cons.inj hsame).2

end Collection

end CriteriaSearch

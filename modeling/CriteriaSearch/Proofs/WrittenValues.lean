import CriteriaSearch.Criteria.Build
import CriteriaSearch.Proofs.Evaluation
import CriteriaSearch.Proofs.WriteBack

/-!
# Finding what was written

A value is coerced in the same way when it is written and when it is searched for.  Beyond that, a
point in time is brought to its canonical text when it is written, and only then.  So the document
of a record is matched by each plain value of the record, except that a temporal attribute is
matched exactly by null and by the canonical text itself
(`Collection.holds_eq_iff_isCanonicalDate`).
-/

namespace CriteriaSearch

/-! ## Stored values -/

lemma Json.anyItem_of_isScalar {v : Json} (h : v.isScalar = true) (check : Json → Bool) :
    v.anyItem check = check v := by
  cases v with
  | arr items => cases h
  | _ => rfl

namespace Document

variable {schema : Schema} {field : String}

/-- Whether a value is one that a temporal attribute holds and takes back: null, or the canonical
text of a point in time with a plain year. -/
def IsCanonicalDate (v : Json) : Prop :=
  v = .null ∨ ∃ t : Timestamp, t.WellFormed ∧ t.HasPlainYear ∧ v = .str t.text

lemma canonicalDate_eq_self_iff (field : String) {v : Json} :
    canonicalDate field v = .ok v ↔ IsCanonicalDate v := by
  constructor
  · intro h
    rcases eq_text_of_canonicalDate h with ⟨hnull, -⟩ | ⟨t, ht, rfl⟩
    · exact .inl hnull
    · refine .inr ⟨t, ht, ?_, rfl⟩
      by_contra hfar
      rw [canonicalDate_text_of_not_hasPlainYear hfar] at h
      cases h
  · rintro (rfl | ⟨t, ht, hplain, rfl⟩)
    · rfl
    · exact canonicalDate_text ht hplain

/-- A stored point in time is alike with the value that it was made of only where it is that
value. -/
lemma alike_iff_of_canonicalDate {v w : Json} (h : canonicalDate field v = .ok w) :
    w.alike v = true ↔ IsCanonicalDate v := by
  rw [← canonicalDate_eq_self_iff field, h, Except.ok.injEq]
  rcases eq_text_of_canonicalDate h with ⟨rfl, rfl⟩ | ⟨t, -, rfl⟩
  · simp [Json.alike]
  · cases v with
    | str s => simp [Json.alike]
    | _ => simp [Json.alike]

/-- A plain value is stored as no container. -/
lemma isScalar_of_storedValue {v w : Json} (hv : v.isScalar = true)
    (h : storedValue schema field v = .ok w) : w.isScalar = true := by
  rw [storedValue_eq] at h
  split at h
  · rcases eq_text_of_canonicalDate h with ⟨-, rfl⟩ | ⟨t, -, rfl⟩
    · rfl
    · rfl
  · exact Except.ok.inj h ▸ Json.isScalar_coerce _ hv

/-- A stored value is alike with the coerced one that it was made of, but for points in time that
were not canonical. -/
lemma alike_coerce_iff_of_storedValue {v w : Json} (hv : v.isScalar = true)
    (h : storedValue schema field v = .ok w) :
    w.alike (schema.coerce field v) = true ↔
      (schema.isTemporal field = true → IsCanonicalDate (schema.coerce field v)) := by
  rw [storedValue_eq] at h
  split at h
  · next htemporal =>
    rw [alike_iff_of_canonicalDate h]
    exact ⟨fun hcanonical _ => hcanonical, fun hcanonical => hcanonical htemporal⟩
  · next htemporal =>
    obtain rfl := Except.ok.inj h
    have halike :=
      Json.alike_self_of_isScalar (Json.isScalar_coerce (schema.declaredType? field) hv)
    exact ⟨fun _ hyes => absurd hyes htemporal, fun _ => halike⟩

end Document

/-! ## Equality clauses -/

namespace Filter

variable {schema : Schema} {patterns : PatternLibrary} {typeName field id : String} {body : Record}

/-- An equality on a field that names no identifier compares with the coerced value. -/
lemma ofWhere_eq (hid : Schema.isIdField field = false) (v : Json) :
    ofWhere schema typeName (some (.eq field v)) = .term field (schema.coerce field v) := by
  have hasks : (Clause.eq field v).asksNoId = false := by
    simp [Clause.eq, Clause.ofField, Clause.asksNoId, hid]
  rw [ofWhere, hasks]
  simp [Clause.eq, Clause.ofField, ofClause, all, ofExpression, ofLiteral, hid]

/-- An equality holds of a document by the value that it has under the name of the field. -/
lemma holds_eq_iff (hid : Schema.isIdField field = false) {w : Json}
    (hw : body.get? field = some w) (hscalar : w.isScalar = true) (v : Json) :
    (ofWhere schema typeName (some (.eq field v))).holds patterns id body = .ok true ↔
      w.alike (schema.coerce field v) = true := by
  have hstored : field ≠ Schema.storedIdField := by
    rintro rfl
    cases hid
  have hresolve : body.resolve? field = some w := by
    rw [Record.resolve?, if_neg hstored, hw]
  rw [ofWhere_eq hid, holds, fieldHolds, hresolve]
  simp [Json.anyItem_of_isScalar hscalar]

end Filter

/-! ## Written records -/

namespace Collection

open Document (hydrate IsCanonicalDate)

variable {c : Collection} {m m' : Memory} {r written : Record}

/-- Writing one record and taking the first of what comes back. -/
lemma exists_put_of_yields_insertOne (h : (c.insertOne r).Yields Memory.client m written m') :
    ∃ d, c.prepare r = .ok d ∧ written = hydrate (m.chooseId c.address d.id).1 d.body ∧
      m' = (m.chooseId c.address d.id).2.put c.address (m.chooseId c.address d.id).1 d.body := by
  obtain ⟨records, between, hinsert, hfirst⟩ := Session.yields_bind_iff.1 h
  obtain ⟨d, hprepare, rfl, rfl⟩ := yields_insert_singleton_iff.1 hinsert
  obtain ⟨rfl, rfl⟩ := Session.yields_pure_iff.1 hfirst
  exact ⟨d, hprepare, rfl, rfl⟩

/-- **The document of a written record is matched by each plain value of the record, but for points
in time that were not canonical.** -/
theorem holds_eq_iff_isCanonicalDate (c : Collection) (m m' : Memory) (r written : Record)
    (hr : r.DistinctKeys) (h : (c.insertOne r).Yields Memory.client m written m') :
    ∃ id body, (m'.documents c.address)[id]? = some body ∧ written = hydrate id body ∧
      ∀ (field : String) (v : Json), (field, v) ∈ r → Schema.isIdField field = false →
        v.isScalar = true →
        ((c.filterOf { clause := some (.eq field v) }).holds m'.patterns id body = .ok true ↔
          (c.schema.schema.isTemporal field = true →
            IsCanonicalDate (c.schema.schema.coerce field v))) := by
  obtain ⟨d, hprepare, rfl, rfl⟩ := exists_put_of_yields_insertOne h
  refine ⟨(m.chooseId c.address d.id).1, d.body, ?_, rfl, ?_⟩
  · rw [Memory.getElem?_put, if_pos rfl]
  · intro field v hmem hid hscalar
    obtain ⟨w, hw, hstored⟩ :=
      Document.get?_body_of_prepare hr (prepare_eq_ok_iff.1 hprepare) hmem hid
    have hscalarStored := Document.isScalar_of_storedValue hscalar hw
    rw [filterOf, Filter.holds_eq_iff hid hstored hscalarStored]
    exact Document.alike_coerce_iff_of_storedValue hscalar hw

/-- A number that is written as text, and a date that is written in canonical form. -/
theorem holds_eq_iff_isCanonicalDate_text :
    let c : Collection :=
      { index := "app"
        schema :=
          { typeName := "item"
            schema := .ofList [("n", { type := .integer }), ("born", { type := .date })] } }
    let r : Record := [("id", .str "a"), ("n", .str "42"), ("born", .str "2020-01-02T00:00:00Z")]
    let body : Record := [("n", .num (.int 42)), ("born", .str "2020-01-02T00:00:00Z")]
    ((c.insertOne r).run Memory.client {}).result = .ok (hydrate "a" body) ∧
      ∃ id stored, hydrate "a" body = hydrate id stored ∧
        (c.filterOf { clause := some (.eq "n" (.str "42")) }).holds .unlimited id stored =
          .ok true ∧
        (c.filterOf { clause := some (.eq "born" (.str "2020-01-02T00:00:00Z")) }).holds
          .unlimited id stored = .ok true := by
  intro c r body
  have hresult : ((c.insertOne r).run Memory.client {}).result = .ok (hydrate "a" body) := by
    rfl
  obtain ⟨id, stored, -, hwritten, hmatched⟩ :=
    holds_eq_iff_isCanonicalDate c {} _ r _ (by decide) (Session.yields_of_result_eq_ok hresult)
  have hn : c.schema.schema.isTemporal "n" = false := by
    rfl
  have hborn : Document.canonicalDate "born"
      (c.schema.schema.coerce "born" (.str "2020-01-02T00:00:00Z")) =
        .ok (c.schema.schema.coerce "born" (.str "2020-01-02T00:00:00Z")) := by
    rfl
  refine ⟨hresult, id, stored, hwritten, (hmatched "n" (.str "42") ?_ rfl rfl).2 ?_,
    (hmatched "born" (.str "2020-01-02T00:00:00Z") ?_ rfl rfl).2 ?_⟩
  · exact List.mem_cons_of_mem _ List.mem_cons_self
  · exact fun htemporal => absurd htemporal (Bool.eq_false_iff.1 hn)
  · exact List.mem_cons_of_mem _ (List.mem_cons_of_mem _ List.mem_cons_self)
  · exact fun _ => (Document.canonicalDate_eq_self_iff "born").1 hborn

/-- A day is stored as the point in time at which it begins, and the day itself does not find
it. -/
theorem holds_eq_day_false :
    let c : Collection :=
      { index := "app"
        schema := { typeName := "item", schema := .ofList [("born", { type := .date })] } }
    let r : Record := [("id", .str "a"), ("born", .str "2020-01-02")]
    let body : Record := [("born", .str "2020-01-02T00:00:00Z")]
    ((c.insertOne r).run Memory.client {}).result = .ok (hydrate "a" body) ∧
      (((c.insertOne r).run Memory.client {}).state.documents c.address)["a"]? = some body ∧
      (c.filterOf { clause := some (.eq "born" (.str "2020-01-02")) }).holds .unlimited "a" body =
        .ok false := by
  intro c r body
  refine ⟨?_, ?_, ?_⟩
  · rfl
  · rfl
  · rfl

end Collection

end CriteriaSearch

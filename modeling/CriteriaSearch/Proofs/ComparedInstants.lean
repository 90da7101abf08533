import CriteriaSearch.Proofs.ChronologicalTexts
import CriteriaSearch.Proofs.PreparedDocuments

/-!
# Stored points in time, compared

A value of a temporal attribute that stands for a point in time is stored as the canonical text of
the point (`Document.resolve?_of_instant?`).  Range filters and sorts compare the texts, which is
the chronological order unless the text of a point is a later one cut off, or a year has a sign
(`Document.prepared_texts_in_order_iff`).
-/

namespace CriteriaSearch

/-- The point in time that a value stands for: a text that reads as one, or a number of
milliseconds. -/
def Json.instant? : Json → Option Timestamp
  | str s => Timestamp.ofText? s
  | num n => n.toSigned?.bind Timestamp.ofMillis?
  | _ => none

namespace Document

variable {schema : Schema} {field : String} {t u : Timestamp} {v w : Json}

lemma wellFormed_of_instant? (h : v.instant? = some t) : t.WellFormed := by
  cases v with
  | str s => exact Timestamp.wellFormed_of_ofText? h
  | num n =>
    obtain ⟨millis, -, hmillis⟩ := Option.bind_eq_some_iff.1 h
    exact Timestamp.wellFormed_of_ofMillis? hmillis
  | _ => cases h

/-- A value that stands for a point in time is none of the words that stand for something else. -/
lemma coerce_of_instant? (htemporal : schema.isTemporal field = true) (h : v.instant? = some t) :
    schema.coerce field v = v := by
  cases v with
  | str s =>
    have hne (word : String) (hword : Timestamp.ofText? word = none) : s ≠ word := by
      rintro rfl
      cases hword.symm.trans h
    have htrue := hne "true" (by decide +kernel)
    have hfalse := hne "false" (by decide +kernel)
    have hnull := hne "null" (by decide +kernel)
    rw [Schema.isTemporal, Option.any_eq_true] at htemporal
    obtain ⟨type, htype, htemporal⟩ := htemporal
    have hnone : type.readText? s = none := by
      cases type <;> simp [AttributeType.isTemporal] at htemporal <;>
        simp [AttributeType.readText?, htrue, hfalse, hnull]
    rw [Schema.coerce, htype, Json.coerce, Option.bind_some, hnone]
    rfl
  | num n => rfl
  | _ => cases h

/-- A point in time is stored as its canonical text. -/
lemma storedValue_of_instant? (htemporal : schema.isTemporal field = true)
    (h : v.instant? = some t) : storedValue schema field v = .ok (.str t.text) := by
  rw [storedValue_eq, if_pos htemporal, coerce_of_instant? htemporal h]
  cases v with
  | str s =>
    have hread : Timestamp.ofText? s = some t := h
    simp [canonicalDate, hread]
  | num n =>
    have hread : n.toSigned?.bind Timestamp.ofMillis? = some t := h
    simp [canonicalDate, hread]
  | _ => cases h

/-- A record of one point in time is stored with its canonical text. -/
lemma prepare_singleton (hid : Schema.isIdField field = false)
    (htemporal : schema.isTemporal field = true) (h : v.instant? = some t) :
    prepare schema [(field, v)] = .ok ⟨none, [(field, .str t.text)]⟩ := by
  have hstep := prepareField_eq (e := (field, v)) hid (storedValue_of_instant? htemporal h)
    ⟨none, []⟩
  rw [prepare, List.foldlM_cons, hstep]
  rfl

/-- A prepared body has the canonical text under the field. -/
lemma resolve?_of_instant? {r : Record} {p : PreparedDocument}
    (hid : Schema.isIdField field = false) (htemporal : schema.isTemporal field = true)
    (hr : r.DistinctKeys) (hp : prepare schema r = .ok p) (hv : (field, v) ∈ r)
    (h : v.instant? = some t) : p.body.resolve? field = some (.str t.text) := by
  obtain ⟨w, hw, hget⟩ := get?_body_of_prepare hr hp hv hid
  rw [storedValue_of_instant? htemporal h] at hw
  obtain rfl := Except.ok.inj hw
  have hstored : field ≠ Schema.storedIdField := by
    rintro rfl
    exact absurd hid (by decide)
  rw [Record.resolve?, if_neg hstored, hget]

lemma order?_text_eq_lt_iff :
    (Json.str t.text).order? (.str u.text) = some .lt ↔ t.text < u.text := by
  rw [Json.order?, Option.some_inj, compare_lt_iff_lt]

/-- **Stored points in time are compared in chronological order, except that the text of a point
which cuts a later one off is behind its text, and that years with a sign are in the order of their
texts.**  Range filters and sorts compare in just this way. -/
theorem prepared_texts_in_order_iff {r r' : Record} {p p' : PreparedDocument} {v' : Json}
    (hid : Schema.isIdField field = false) (htemporal : schema.isTemporal field = true)
    (hr : r.DistinctKeys) (hr' : r'.DistinctKeys) (hp : prepare schema r = .ok p)
    (hp' : prepare schema r' = .ok p') (hv : (field, v) ∈ r) (hv' : (field, v') ∈ r')
    (ht : v.instant? = some t) (hu : v'.instant? = some u) (h : t.Before u) :
    ∃ w w' : Json, p.body.resolve? field = some w ∧ p'.body.resolve? field = some w' ∧
      (w.order? w' = some .lt ↔
        Timestamp.yearText t.year < Timestamp.yearText u.year ∨ t.year = u.year ∧ ¬t.CutsOff u) ∧
      (t.HasPlainYear → u.HasPlainYear → (w.order? w' = some .lt ↔ ¬t.CutsOff u)) ∧
      (∀ library id, (Filter.range field [(.lt, w')]).holds library id p.body = .ok true ↔
        w.order? w' = some .lt) ∧
      ∀ id id', SortKey.compare ⟨field, .asc⟩ ⟨id, p.body⟩ ⟨id', p'.body⟩ = .lt ↔
        w.order? w' = some .lt := by
  have hw := resolve?_of_instant? hid htemporal hr hp hv ht
  have hw' := resolve?_of_instant? hid htemporal hr' hp' hv' hu
  have hwell := wellFormed_of_instant? ht
  have hwell' := wellFormed_of_instant? hu
  refine ⟨_, _, hw, hw', ?_, ?_, ?_, ?_⟩
  · rw [order?_text_eq_lt_iff]
    exact Timestamp.text_lt_iff hwell hwell' h
  · intro hyear hyear'
    rw [order?_text_eq_lt_iff]
    exact Timestamp.text_lt_iff_of_hasPlainYear hwell hwell' h hyear hyear'
  · intro library id
    rw [Filter.holds, Filter.fieldHolds, hw]
    simp [Json.anyItem, RangeBound.holds, RangeBound.admits, Json.order?]
  · intro id id'
    have hstored : field ≠ Schema.storedIdField := by
      rintro rfl
      exact absurd hid (by decide)
    simp [SortKey.compare, StoredDocument.sortValue, hstored, hw, hw', Json.order?]

/-- A number of milliseconds and a text with an offset, of one second. -/
theorem prepared_texts_in_order_iff_offset :
    let schema : Schema := .ofList [("born", { type := .datetime })]
    let v : Json := .num (.int 1577836800500)
    let v' : Json := .str "2020-01-01T01:00:00.75+01:00"
    Schema.isIdField "born" = false ∧ schema.isTemporal "born" = true ∧
      prepare schema [("born", v)] = .ok ⟨none, [("born", .str "2020-01-01T00:00:00.500Z")]⟩ ∧
      prepare schema [("born", v')] = .ok ⟨none, [("born", .str "2020-01-01T00:00:00.750Z")]⟩ ∧
      v.instant? = some ⟨18262, 0, 500000000⟩ ∧ v'.instant? = some ⟨18262, 0, 750000000⟩ ∧
      (Json.str "2020-01-01T00:00:00.500Z").order? (.str "2020-01-01T00:00:00.750Z") =
        some .lt := by
  intro schema v v'
  have hid : Schema.isIdField "born" = false := by decide
  have htemporal : schema.isTemporal "born" = true := by rfl
  have ht : v.instant? = some ⟨18262, 0, 500000000⟩ := by decide +kernel
  have hu : v'.instant? = some ⟨18262, 0, 750000000⟩ := by decide +kernel
  have htext : Timestamp.text ⟨18262, 0, 500000000⟩ = "2020-01-01T00:00:00.500Z" := by
    decide +kernel
  have htext' : Timestamp.text ⟨18262, 0, 750000000⟩ = "2020-01-01T00:00:00.750Z" := by
    decide +kernel
  have hp := prepare_singleton hid htemporal ht
  have hp' := prepare_singleton hid htemporal hu
  rw [htext] at hp
  rw [htext'] at hp'
  have hkeys (v : Json) : Record.DistinctKeys [("born", v)] := List.nodup_singleton "born"
  obtain ⟨w, w', hw, hw', -, horder, -, -⟩ := prepared_texts_in_order_iff hid htemporal
    (hkeys v) (hkeys v') hp hp' List.mem_cons_self List.mem_cons_self ht hu
    (.inr ⟨rfl, .inr ⟨rfl, by decide⟩⟩)
  obtain rfl := Option.some.inj hw
  obtain rfl := Option.some.inj hw'
  exact ⟨hid, htemporal, hp, hp', ht, hu,
    (horder (by decide +kernel) (by decide +kernel)).2 (by decide)⟩

/-- The start of a second is behind the middle of it. -/
theorem prepared_texts_out_of_order :
    let schema : Schema := .ofList [("born", { type := .date })]
    let body : Record := [("born", .str "2020-01-01T00:00:00Z")]
    let body' : Record := [("born", .str "2020-01-01T00:00:00.500Z")]
    prepare schema body = .ok ⟨none, body⟩ ∧ prepare schema body' = .ok ⟨none, body'⟩ ∧
      (Json.str "2020-01-01T00:00:00Z").instant? = some ⟨18262, 0, 0⟩ ∧
      (Json.str "2020-01-01T00:00:00.500Z").instant? = some ⟨18262, 0, 500000000⟩ ∧
      Timestamp.Before ⟨18262, 0, 0⟩ ⟨18262, 0, 500000000⟩ ∧
      (Filter.range "born" [(.lt, .str "2020-01-01T00:00:00.500Z")]).holds .unlimited "a" body =
        .ok false ∧
      SortKey.compare ⟨"born", .asc⟩ ⟨"a", body⟩ ⟨"b", body'⟩ = .gt := by
  intro schema body body'
  have hid : Schema.isIdField "born" = false := by decide
  have htemporal : schema.isTemporal "born" = true := by rfl
  have ht : (Json.str "2020-01-01T00:00:00Z").instant? = some ⟨18262, 0, 0⟩ := by
    decide +kernel
  have hu : (Json.str "2020-01-01T00:00:00.500Z").instant? = some ⟨18262, 0, 500000000⟩ := by
    decide +kernel
  have htext : Timestamp.text ⟨18262, 0, 0⟩ = "2020-01-01T00:00:00Z" := by
    decide +kernel
  have htext' : Timestamp.text ⟨18262, 0, 500000000⟩ = "2020-01-01T00:00:00.500Z" := by
    decide +kernel
  have hp := prepare_singleton hid htemporal ht
  have hp' := prepare_singleton hid htemporal hu
  rw [htext] at hp
  rw [htext'] at hp'
  refine ⟨hp, hp', ht, hu, .inr ⟨rfl, .inr ⟨rfl, by decide⟩⟩, ?_, ?_⟩
  · rfl
  · decide +kernel

end Document

end CriteriaSearch

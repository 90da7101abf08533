import CriteriaSearch.Document
import CriteriaSearch.Proofs.CanonicalText
import CriteriaSearch.Proofs.Coercions
import CriteriaSearch.Proofs.Records
import CriteriaSearch.Proofs.Successes
import CriteriaSearch.Store.Memory

/-!
# What the write path leaves behind

A prepared body is settled: its keys are distinct and name no identifier, coercion has nothing more
to do, and a temporal attribute holds null or the canonical text of a point in time
(`settled_of_prepare`).  Merging one settled body into another leaves a settled body
(`Settled.merge`).

Preparing a settled body again changes nothing where it succeeds, and it succeeds exactly when every
point in time that the body holds has a plain year (`prepare_eq_self_iff`).
-/

namespace CriteriaSearch

/-! ## Temporal attributes -/

/-- Whether the declaration of a field asks for points in time. -/
def Schema.isTemporal (s : Schema) (field : String) : Bool :=
  (s.declaredType? field).any AttributeType.isTemporal

/-- A canonical text is none of the words that stand for something else. -/
lemma Schema.coerce_text {s : Schema} {field : String} (h : s.isTemporal field = true)
    (t : Timestamp) : s.coerce field (.str t.text) = .str t.text := by
  have hne : ∀ word : String, 'Z' ∉ word.toList → t.text ≠ word := fun word hword heq =>
    hword (heq ▸ t.mem_text)
  have htrue := hne "true" (by decide)
  have hfalse := hne "false" (by decide)
  have hnull := hne "null" (by decide)
  rw [isTemporal, Option.any_eq_true] at h
  obtain ⟨type, htype, htemporal⟩ := h
  have hnone : type.readText? t.text = none := by
    cases type <;> simp [AttributeType.isTemporal] at htemporal <;>
      simp [AttributeType.readText?, htrue, hfalse, hnull]
  rw [coerce, htype, Json.coerce, Option.bind_some, hnone]
  rfl

namespace Document

variable {schema : Schema} {field : String}

/-! ## Stored values -/

/-- The form in which a field is stored. -/
structure StoredForm (schema : Schema) (field : String) (v : Json) : Prop where
  coerced : schema.coerce field v = v
  temporal : schema.isTemporal field = true →
    v = .null ∨ ∃ t : Timestamp, t.WellFormed ∧ v = .str t.text

lemma storedValue_eq (schema : Schema) (field : String) (v : Json) :
    storedValue schema field v =
      if schema.isTemporal field then canonicalDate field (schema.coerce field v)
      else .ok (schema.coerce field v) := by
  unfold storedValue Schema.isTemporal
  cases schema.declaredType? field <;> rfl

/-- What canonical form comes to: null, or the text of a point in time. -/
lemma eq_text_of_canonicalDate {v w : Json} (h : canonicalDate field v = .ok w) :
    (v = .null ∧ w = .null) ∨ ∃ t : Timestamp, t.WellFormed ∧ w = .str t.text := by
  cases v with
  | null => exact .inl ⟨rfl, (Except.ok.inj h).symm⟩
  | str s =>
    cases ht : Timestamp.ofText? s with
    | none => simp [canonicalDate, ht] at h
    | some t =>
      simp only [canonicalDate, ht] at h
      exact .inr ⟨t, Timestamp.wellFormed_of_ofText? ht, (Except.ok.inj h).symm⟩
  | num n =>
    cases ht : n.toSigned?.bind Timestamp.ofMillis? with
    | none => simp [canonicalDate, ht] at h
    | some t =>
      simp only [canonicalDate, ht] at h
      obtain ⟨millis, -, hmillis⟩ := Option.bind_eq_some_iff.1 ht
      exact .inr ⟨t, Timestamp.wellFormed_of_ofMillis? hmillis, (Except.ok.inj h).symm⟩
  | _ => simp [canonicalDate] at h

/-- The canonical text of a point with a plain year is its own canonical form. -/
lemma canonicalDate_text {t : Timestamp} (h : t.WellFormed) (hyear : t.HasPlainYear) :
    canonicalDate field (.str t.text) = .ok (.str t.text) := by
  simp [canonicalDate, Timestamp.ofText?_text h hyear]

/-- The canonical text of a point with any other year is taken for no point in time. -/
lemma canonicalDate_text_of_not_hasPlainYear {t : Timestamp} (h : ¬t.HasPlainYear) :
    canonicalDate field (.str t.text) = .error (.notDate field (.str t.text)) := by
  simp [canonicalDate, Timestamp.ofText?_text_of_not_hasPlainYear h]

lemma storedForm_of_storedValue {v w : Json} (h : storedValue schema field v = .ok w) :
    StoredForm schema field w := by
  rw [storedValue_eq] at h
  split at h
  · next htemporal =>
    rcases eq_text_of_canonicalDate h with ⟨-, rfl⟩ | ⟨t, ht, rfl⟩
    · exact ⟨rfl, fun _ => .inl rfl⟩
    · exact ⟨Schema.coerce_text htemporal t, fun _ => .inr ⟨t, ht, rfl⟩⟩
  · next htemporal =>
    obtain rfl := Except.ok.inj h
    exact ⟨Json.coerce_coerce _ v, fun h => absurd h htemporal⟩

/-- A value in stored form is stored as it is, if the point in time that it may be has a plain
year. -/
lemma storedValue_eq_self {v : Json} (h : StoredForm schema field v)
    (hplain : ∀ t : Timestamp, v = .str t.text → schema.isTemporal field = true →
      t.HasPlainYear) : storedValue schema field v = .ok v := by
  rw [storedValue_eq, h.coerced]
  split
  · next htemporal =>
    rcases h.temporal htemporal with rfl | ⟨t, ht, rfl⟩
    · rfl
    · exact canonicalDate_text ht (hplain t rfl htemporal)
  · rfl

/-- No other point in time is stored. -/
lemma hasPlainYear_of_storedValue {t : Timestamp} {w : Json}
    (htemporal : schema.isTemporal field = true)
    (h : storedValue schema field (.str t.text) = .ok w) : t.HasPlainYear := by
  by_contra hfar
  rw [storedValue_eq, if_pos htemporal, Schema.coerce_text htemporal,
    canonicalDate_text_of_not_hasPlainYear hfar] at h
  cases h

/-! ## Settled bodies -/

/-- A body as preparing leaves it. -/
structure Settled (schema : Schema) (body : Record) : Prop where
  distinctKeys : body.DistinctKeys
  noId : ∀ e ∈ body, Schema.isIdField e.1 = false
  storedForm : ∀ e ∈ body, StoredForm schema e.1 e.2

lemma settled_nil (schema : Schema) : Settled schema [] :=
  ⟨List.nodup_nil, by simp, by simp⟩

lemma Settled.insert {body : Record} (h : Settled schema body) {v : Json}
    (hid : Schema.isIdField field = false) (hv : StoredForm schema field v) :
    Settled schema (body.insert field v) where
  distinctKeys := Record.distinctKeys_insert field v h.distinctKeys
  noId e he := by
    rcases Record.eq_or_mem_of_mem_insert he with rfl | he
    · exact hid
    · exact h.noId e he
  storedForm e he := by
    rcases Record.eq_or_mem_of_mem_insert he with rfl | he
    · exact hv
    · exact h.storedForm e he

/-- Where an object is in stored form, every object is. -/
lemma StoredForm.obj {entries : Record} (h : StoredForm schema field (.obj entries))
    (others : Record) : StoredForm schema field (.obj others) where
  coerced := rfl
  temporal htemporal := by
    rcases h.temporal htemporal with hnull | ⟨t, -, htext⟩
    · cases hnull
    · cases htext

/-- **Merging settled bodies gives a settled body.** -/
theorem Settled.merge {target added : Record} (htarget : Settled schema target)
    (hadded : Settled schema added) : Settled schema (target.merge added) := by
  obtain ⟨-, hid, hform⟩ := hadded
  induction added generalizing target with
  | nil =>
    rw [Record.merge]
    exact htarget
  | cons e rest ih =>
    obtain ⟨key, v⟩ := e
    rw [List.forall_mem_cons] at hid hform
    have finish : ∀ w, StoredForm schema key w →
        Settled schema ((target.insert key w).merge rest) := fun w hw =>
      ih (htarget.insert hid.1 hw) hid.2 hform.2
    cases v with
    | obj inner =>
      rw [Record.merge]
      split
      · exact finish _ (hform.1.obj _)
      · exact finish _ hform.1
    | _ =>
      rw [Record.merge]
      · exact finish _ hform.1
      · rintro _ ⟨⟩

/-! ## Preparing -/

/-- What taking one field into a prepared document does: an identifier field leaves the body alone,
any other field is set to its stored value. -/
lemma cases_of_prepareField {p p' : PreparedDocument} {e : String × Json}
    (h : prepareField schema p e = .ok p') :
    (Schema.isIdField e.1 = true ∧ p'.body = p.body) ∨
    (Schema.isIdField e.1 = false ∧ ∃ w, storedValue schema e.1 e.2 = .ok w ∧
      p' = { p with body := p.body.insert e.1 w }) := by
  obtain ⟨key, v⟩ := e
  unfold prepareField at h
  dsimp only at h
  split at h
  · next hstored =>
    obtain rfl := Except.ok.inj h
    exact .inl ⟨by simp [Schema.isIdField, hstored], rfl⟩
  split at h
  · next hid =>
    obtain rfl := Except.ok.inj h
    exact .inl ⟨by simp [Schema.isIdField, hid], rfl⟩
  · next hstored hid =>
    refine .inr ⟨by simp [Schema.isIdField, hid, hstored], ?_⟩
    cases hvalue : storedValue schema key v with
    | error e => simp [hvalue, Except.map] at h
    | ok w =>
      rw [hvalue] at h
      exact ⟨w, rfl, (Except.ok.inj h).symm⟩

lemma prepareField_eq {e : String × Json} {w : Json} (hid : Schema.isIdField e.1 = false)
    (hvalue : storedValue schema e.1 e.2 = .ok w) (p : PreparedDocument) :
    prepareField schema p e = .ok { p with body := p.body.insert e.1 w } := by
  simp only [Schema.isIdField, Bool.or_eq_false_iff, beq_eq_false_iff_ne] at hid
  simp only [prepareField, if_neg hid.1, if_neg hid.2, hvalue]
  rfl

/-- **Preparing leaves a settled body.** -/
theorem settled_of_prepare {r : Record} {p : PreparedDocument} (h : prepare schema r = .ok p) :
    Settled schema p.body := by
  refine foldlM_keeps (P := fun p => Settled schema p.body) ?_ (settled_nil schema) h
  intro p e p' hp hstep
  rcases cases_of_prepareField hstep with ⟨-, hbody⟩ | ⟨hid, w, hw, rfl⟩
  · rw [hbody]
    exact hp
  · exact hp.insert hid (storedForm_of_storedValue hw)

/-- Entries of other keys leave the value of a key alone. -/
lemma get?_body_of_not_mem {rest : Record} {p p' : PreparedDocument}
    (h : rest.foldlM (prepareField schema) p = .ok p') (hnew : field ∉ rest.map Prod.fst) :
    p'.body.get? field = p.body.get? field := by
  induction rest generalizing p with
  | nil => rw [pure_eq_ok_iff.1 h]
  | cons e rest ih =>
    rw [List.foldlM_cons, bind_eq_ok_iff] at h
    obtain ⟨next, hstep, hrest⟩ := h
    rw [List.map_cons, List.mem_cons, not_or] at hnew
    rw [ih hrest hnew.2]
    rcases cases_of_prepareField hstep with ⟨-, hbody⟩ | ⟨-, w, -, rfl⟩
    · rw [hbody]
    · rw [Record.get?_insert, if_neg (Ne.symm hnew.1)]

/-- **Under its key a prepared body has the stored value of each entry.** -/
theorem get?_body_of_prepare {r : Record} {p : PreparedDocument} (hr : r.DistinctKeys)
    (h : prepare schema r = .ok p) {v : Json} (hmem : (field, v) ∈ r)
    (hid : Schema.isIdField field = false) :
    ∃ w, storedValue schema field v = .ok w ∧ p.body.get? field = some w := by
  unfold prepare at h
  -- The induction is on the entries, from whatever is prepared before them.
  generalize (⟨none, []⟩ : PreparedDocument) = q at h
  induction r generalizing q with
  | nil => simp at hmem
  | cons e rest ih =>
    rw [Record.DistinctKeys, List.map_cons, List.nodup_cons] at hr
    rw [List.foldlM_cons, bind_eq_ok_iff] at h
    obtain ⟨next, hstep, hrest⟩ := h
    rcases List.mem_cons.1 hmem with rfl | hmem
    · rcases cases_of_prepareField hstep with ⟨hidField, -⟩ | ⟨-, w, hw, rfl⟩
      · exact absurd hidField (Bool.eq_false_iff.1 hid)
      · refine ⟨w, hw, ?_⟩
        rw [get?_body_of_not_mem hrest hr.1, Record.get?_insert, if_pos rfl]
    · exact ih hr.2 hmem _ hrest

/-- Whether every point in time that a body holds has a plain year. -/
def HasPlainYears (schema : Schema) (body : Record) : Prop :=
  ∀ (field : String) (t : Timestamp), (field, Json.str t.text) ∈ body →
    schema.isTemporal field = true → t.HasPlainYear

/-- Entries of new keys go into the body with their stored values. -/
lemma foldlM_prepareField_map {id : Option String} {w : String × Json → Json} (done rest : Record)
    (hdistinct : Record.DistinctKeys (done ++ rest))
    (hid : ∀ e ∈ rest, Schema.isIdField e.1 = false)
    (hvalue : ∀ e ∈ rest, storedValue schema e.1 e.2 = .ok (w e)) :
    rest.foldlM (prepareField schema) ⟨id, done⟩ =
      .ok ⟨id, done ++ rest.map fun e => (e.1, w e)⟩ := by
  induction rest generalizing done with
  | nil => simp [pure, Except.pure]
  | cons e rest ih =>
    rw [List.forall_mem_cons] at hid hvalue
    have hnew : e.1 ∉ done.map Prod.fst := by
      intro hold
      rw [Record.DistinctKeys, List.map_append, List.map_cons] at hdistinct
      exact List.disjoint_of_nodup_append hdistinct hold List.mem_cons_self
    have hkeys : Record.DistinctKeys (done ++ [(e.1, w e)] ++ rest) := by
      simpa [Record.DistinctKeys] using hdistinct
    have hstep := prepareField_eq hid.1 hvalue.1 ⟨id, done⟩
    rw [Record.insert_of_not_mem (w e) hnew] at hstep
    rw [List.foldlM_cons, hstep]
    change rest.foldlM (prepareField schema) ⟨id, done ++ [(e.1, w e)]⟩ = _
    rw [ih _ hkeys hid.2 hvalue.2, List.append_assoc, List.singleton_append, List.map_cons]

/-- Entries that are stored as they are go into the body as they are. -/
lemma foldlM_prepareField {id : Option String} (done rest : Record)
    (hdistinct : Record.DistinctKeys (done ++ rest))
    (hid : ∀ e ∈ rest, Schema.isIdField e.1 = false)
    (hvalue : ∀ e ∈ rest, storedValue schema e.1 e.2 = .ok e.2) :
    rest.foldlM (prepareField schema) ⟨id, done⟩ = .ok ⟨id, done ++ rest⟩ := by
  have hprepared : rest.foldlM (prepareField schema) ⟨id, done⟩ = _ :=
    foldlM_prepareField_map done rest hdistinct hid hvalue
  rwa [List.map_id'' fun _ => rfl] at hprepared

/-- What is prepared at all holds no point in time with another year. -/
lemma hasPlainYears_of_prepare {r : Record} {p : PreparedDocument}
    (hid : ∀ e ∈ r, Schema.isIdField e.1 = false) (h : prepare schema r = .ok p) :
    HasPlainYears schema r := by
  intro field t hmem htemporal
  obtain ⟨q, q', hstep⟩ := exists_step_of_foldlM h _ hmem
  rcases cases_of_prepareField hstep with ⟨hidField, -⟩ | ⟨-, w, hw, -⟩
  · exact absurd hidField (Bool.eq_false_iff.1 (hid _ hmem))
  · exact hasPlainYear_of_storedValue htemporal hw

/-- A settled body with plain years is prepared as it is. -/
lemma prepare_eq_self {body : Record} (h : Settled schema body)
    (hplain : HasPlainYears schema body) : prepare schema body = .ok ⟨none, body⟩ := by
  refine foldlM_prepareField [] body h.distinctKeys h.noId fun e he => ?_
  refine storedValue_eq_self (h.storedForm e he) fun t ht htemporal => ?_
  exact hplain e.1 t (ht ▸ he) htemporal

/-- **A settled body is prepared as it is exactly when its points in time have plain years.** -/
theorem prepare_eq_self_iff {body : Record} (h : Settled schema body) :
    prepare schema body = .ok ⟨none, body⟩ ↔ HasPlainYears schema body :=
  ⟨hasPlainYears_of_prepare h.noId, prepare_eq_self h⟩

/-- An identifier at the end of a record is taken out of it. -/
lemma prepare_append_id (r : Record) (id : String) :
    prepare schema (r ++ [(Schema.idField, .str id)]) =
      (prepare schema r).map fun p => { p with id := some id } := by
  rw [prepare, prepare, List.foldlM_append]
  cases r.foldlM (prepareField schema) ⟨none, []⟩ <;> rfl

/-! ## Records for callers -/

lemma Settled.not_mem_keys {body : Record} (h : Settled schema body) (key : String)
    (hkey : Schema.isIdField key = true) : key ∉ body.map Prod.fst := by
  intro hmem
  obtain ⟨e, he, rfl⟩ := List.mem_map.1 hmem
  exact absurd hkey (Bool.eq_false_iff.1 (h.noId e he))

/-- The record of a settled body is the body with the identifier behind it. -/
lemma Settled.hydrate_eq {body : Record} (h : Settled schema body) (id : String) :
    hydrate id body = body ++ [(Schema.idField, .str id)] := by
  have hstored := h.not_mem_keys Schema.storedIdField rfl
  have hid := h.not_mem_keys Schema.idField rfl
  rw [hydrate, Record.insert_of_not_mem _ hstored, exposeId,
    Record.swapRemove_append_singleton _ hstored]
  exact Record.insert_of_not_mem _ hid

/-- The record of a stored document is prepared as that document. -/
lemma Settled.prepare_hydrate {body : Record} (h : Settled schema body) (id : String)
    (hplain : HasPlainYears schema body) :
    prepare schema (hydrate id body) = .ok ⟨some id, body⟩ := by
  rw [h.hydrate_eq, prepare_append_id, prepare_eq_self h hplain]
  rfl

lemma Settled.hasPlainYears_of_prepare_hydrate {body : Record} (h : Settled schema body)
    {id : String} {p : PreparedDocument} (hp : prepare schema (hydrate id body) = .ok p) :
    HasPlainYears schema body := by
  rw [h.hydrate_eq, prepare_append_id] at hp
  cases hbody : prepare schema body with
  | error e => simp [hbody, Except.map] at hp
  | ok q => exact hasPlainYears_of_prepare h.noId hbody

end Document

end CriteriaSearch

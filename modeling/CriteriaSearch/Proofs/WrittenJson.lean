import CriteriaSearch.Json.Decoding
import CriteriaSearch.Proofs.Induction
import CriteriaSearch.Proofs.Records
import CriteriaSearch.Proofs.Successes

/-!
# Values written down and read back

A value whose objects have distinct keys, at any depth, is the value of what it is written as
(`Json.toJson?_ofJson`).  A record with distinct keys, written down, gives each field once
(`Json.Given.of?_ofJson`), and under its name the value of that field (`Json.Given.get?_ofRecord`).
-/

namespace CriteriaSearch.Json

/-- Whether no object in a value has a key twice. -/
inductive HasDistinctKeys : Json → Prop
  | null : HasDistinctKeys .null
  | bool (b : Bool) : HasDistinctKeys (.bool b)
  | num (n : JsonNumber) : HasDistinctKeys (.num n)
  | str (s : String) : HasDistinctKeys (.str s)
  | arr {items : List Json} (hitems : ∀ v ∈ items, HasDistinctKeys v) : HasDistinctKeys (.arr items)
  | obj {entries : Record} (hkeys : entries.DistinctKeys)
    (hvalues : ∀ e ∈ entries, HasDistinctKeys e.2) : HasDistinctKeys (.obj entries)

namespace Written

lemma ofItems_eq_map (items : List Json) : ofItems items = items.map ofJson := by
  induction items with
  | nil => rfl
  | cons v rest ih => rw [ofItems, ih, List.map_cons]

lemma ofEntries_eq_map (entries : Record) :
    ofEntries entries = entries.map fun e => (some e.1, ofJson e.2) := by
  induction entries with
  | nil => rfl
  | cons e rest ih =>
    obtain ⟨k, v⟩ := e
    rw [ofEntries, ih, List.map_cons]

lemma toItems?_ofItems {items : List Json} (h : ∀ v ∈ items, (ofJson v).toJson? = some v) :
    toItems? (ofItems items) = some items := by
  induction items with
  | nil => rfl
  | cons v rest ih =>
    rw [List.forall_mem_cons] at h
    rw [ofItems, toItems?, h.1, ih h.2]
    rfl

lemma toEntries?_ofEntries {entries : Record}
    (h : ∀ e ∈ entries, (ofJson e.2).toJson? = some e.2) :
    toEntries? (ofEntries entries) = some entries := by
  induction entries with
  | nil => rfl
  | cons e rest ih =>
    obtain ⟨k, v⟩ := e
    rw [List.forall_mem_cons] at h
    rw [ofEntries, toEntries?, h.1, ih h.2]
    rfl

/-- **What is written down is read back.** -/
theorem toJson?_ofJson {v : Json} (h : v.HasDistinctKeys) : (ofJson v).toJson? = some v := by
  induction v with
  | arr items ih =>
    cases h with
    | arr hitems =>
      rw [ofJson, toJson?, toItems?_ofItems fun v hv => ih v hv (hitems v hv)]
      rfl
  | obj entries ih =>
    cases h with
    | obj hkeys hvalues =>
      rw [ofJson, toJson?, toEntries?_ofEntries fun e he => ih e he (hvalues e he)]
      exact congrArg (some ∘ Json.obj) (Record.ofEntries_of_distinctKeys hkeys)
  | _ => rfl

end Written

namespace Given

open Written (ofJson)

/-- The fields of a record, written down. -/
def ofRecord (r : Record) : Given :=
  .named (r.map fun e => (e.1, ofJson e.2))

lemma get?_ofRecord (r : Record) (name : String) :
    (ofRecord r).get? name = (r.get? name).map ofJson := by
  induction r with
  | nil => rfl
  | cons e rest ih =>
    obtain ⟨k, v⟩ := e
    by_cases hk : k = name
    · subst hk
      simp [ofRecord, get?, Record.get?]
    · have hother : (name == k) = false := beq_eq_false_iff_ne.2 (Ne.symm hk)
      rw [Record.get?, if_neg hk, ← ih]
      simp [ofRecord, get?, List.lookup_cons, hother]

/-- Where keys are distinct, no key occurs twice. -/
lemma occurrences_le_one {entries : List (String × Written)} (h : (entries.map Prod.fst).Nodup)
    (key : String) : occurrences entries key ≤ 1 := by
  have hcount : occurrences entries key = (entries.map Prod.fst).count key := by
    rw [occurrences, ← List.countP_eq_length_filter, List.count, List.countP_map]
    rfl
  rw [hcount]
  exact List.nodup_iff_count_le_one.1 h key

lemma entries?_ofJson (r : Record) :
    (ofJson (.obj r)).entries? = some (r.map fun e => (e.1, ofJson e.2)) := by
  rw [ofJson, Written.entries?, Written.ofEntries_eq_map]
  induction r with
  | nil => rfl
  | cons e rest ih =>
    rw [List.map_cons, List.mapM_cons, ih]
    rfl

/-- **A record with distinct keys, written down, gives each of its fields once.** -/
theorem of?_ofJson {r : Record} (h : r.DistinctKeys) (names : List String) :
    of? names (ofJson (.obj r)) = some (ofRecord r) := by
  have hkeys : ((r.map fun e => (e.1, ofJson e.2)).map Prod.fst).Nodup := by
    rw [List.map_map]
    exact h
  have hall : (names.all fun name =>
      decide (occurrences (r.map fun e => (e.1, ofJson e.2)) name ≤ 1)) = true :=
    List.all_eq_true.2 fun name _ => decide_eq_true (occurrences_le_one hkeys name)
  change (ofJson (.obj r)).entries?.bind _ = _
  rw [entries?_ofJson, Option.bind_some, if_pos hall, ofRecord]

end Given

end CriteriaSearch.Json

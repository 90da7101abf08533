import CriteriaSearch.Model.Collection
import CriteriaSearch.Proofs.WrittenJson

/-!
# Values of shapes

The values that a field of each kind has in written form (`FieldKind.Holds`).  A field whose value
is one of its kind is read as it is (`Shape.decodeField_of_holds`), so a record with such a value
for every field of a shape is read as the structure of these values (`Shape.decode_of_fits`), and
one that lacks it for some field is not read at all (`Shape.decode_eq_none`).
-/

namespace CriteriaSearch

/-- Whether a value is one of a kind, in written form. -/
inductive FieldKind.Holds : FieldKind → Json → Prop
  | text (s : String) : Holds .text (.str s)
  | optionalText (s : Option String) : Holds .optionalText (.strOrNull s)
  | integer {n : Int} (hlower : -0x8000000000000000 ≤ n) (hupper : n < 0x8000000000000000) :
    Holds .integer (.num (.int n))
  | optionalNumber (x : Option Binary64) :
    Holds .optionalNumber (.orNull (x.map fun x => .num (.float x)))
  | boolean (b : Bool) : Holds .boolean (.bool b)
  | texts (ss : List String) : Holds .texts (.arr (ss.map .str))
  | any {v : Json} (hv : v.HasDistinctKeys) : Holds .any v

namespace Shape

open Json (Given)

variable {f : FieldShape} {g : Given} {v : Json} {r : Record}

/-- A list of texts is one where every item is a text. -/
lemma asList_asText_ofJson (items : List Json) :
    Json.asList Json.asText (.ofJson (.arr items)) = items.mapM Json.str? := by
  rw [Json.Written.ofJson, Json.asList, Json.Written.ofItems_eq_map]
  induction items with
  | nil => rfl
  | cons v rest ih =>
    rw [List.map_cons, List.mapM_cons, List.mapM_cons, ih]
    cases v <;> rfl

lemma mapM_str?_map_str (ss : List String) : (ss.map Json.str).mapM Json.str? = some ss := by
  induction ss with
  | nil => rfl
  | cons s rest ih =>
    rw [List.map_cons, List.mapM_cons, ih]
    rfl

/-- **A field whose value is one of its kind is read as it is.** -/
theorem decodeField_of_holds (hget : g.get? f.name = some (.ofJson v)) (h : f.kind.Holds v) :
    decodeField g f = some v := by
  unfold decodeField
  generalize f.kind = kind at h
  cases h with
  | text s =>
    simp only [Given.required, hget, Option.bind_some]
    rfl
  | optionalText s =>
    cases s with
    | none =>
      simp only [Given.optional, hget]
      rfl
    | some s =>
      simp only [Given.optional, hget]
      rfl
  | @integer n hlower hupper =>
    have hsigned : (JsonNumber.int n).toSigned? = some n := if_pos ⟨hlower, hupper⟩
    simp only [Given.required, hget, Option.bind_some]
    change ((JsonNumber.int n).toSigned?).map _ = _
    rw [hsigned]
    rfl
  | optionalNumber x =>
    cases x with
    | none =>
      simp only [Given.optional, hget]
      rfl
    | some x =>
      simp only [Given.optional, hget]
      rfl
  | boolean b =>
    simp only [Given.required, hget, Option.bind_some]
    rfl
  | texts ss =>
    simp only [Given.required, hget, Option.bind_some, asList_asText_ofJson, mapM_str?_map_str]
    rfl
  | any hv =>
    simp only [Given.withDefault, hget]
    exact Json.Written.toJson?_ofJson hv

/-- The entry of a field that has a value; only null may be left out. -/
lemma entryOf_of_holds (hget : g.get? f.name = some (.ofJson v)) (h : f.kind.Holds v)
    (hkeep : v = .null → f.omitNull = false) : entryOf g f = some [(f.name, v)] := by
  rw [entryOf, decodeField_of_holds hget h]
  cases v with
  | null => simp [hkeep rfl]
  | _ => rfl

/-- A list that is not one of texts is no value of a field of texts. -/
lemma decodeField_texts_eq_none {items : List Json} (hkind : f.kind = .texts)
    (hget : g.get? f.name = some (.ofJson (.arr items)))
    (hitems : items.mapM Json.str? = none) : decodeField g f = none := by
  unfold decodeField
  rw [hkind]
  simp only [Given.required, hget, Option.bind_some, asList_asText_ofJson, hitems]
  rfl

/-- A missing text that is left out where it is null is read as null. -/
lemma entryOf_of_missing (hget : (Given.ofRecord r).get? f.name = none)
    (hkind : f.kind = .optionalText) (homit : f.omitNull = true) :
    entryOf (Given.ofRecord r) f = some [] := by
  rw [entryOf, decodeField, hkind]
  simp only [Given.optional, hget]
  simp [Given.ofRecord, Json.strOrNull, homit]

/-- Whether a record has, for every field of a shape, a value of its kind, be it by leaving null
out. -/
def Fits (s : Shape) (r : Record) : Prop :=
  ∀ f ∈ s.fields,
    (∃ v, r.get? f.name = some v ∧ f.kind.Holds v ∧ (v = .null → f.omitNull = false)) ∨
    (r.get? f.name = none ∧ f.kind = .optionalText ∧ f.omitNull = true)

/-- **A record that fits a shape is read as the structure of its values, in the order of the
fields.** -/
theorem decode_of_fits {s : Shape} (hr : r.DistinctKeys) (hfits : s.Fits r) :
    s.decode.ofValue? (.obj r) = some (.obj (s.fields.filterMap fun f =>
      (r.get? f.name).map fun v => (f.name, v))) := by
  have hentries : s.fields.mapM (entryOf (Given.ofRecord r)) =
      some (s.fields.map fun f => ((r.get? f.name).map fun v => (f.name, v)).toList) := by
    refine mapM_eq_pure_map fun f hf => ?_
    rcases hfits f hf with ⟨v, hv, hholds, hkeep⟩ | ⟨hmissing, hkind, homit⟩
    · have hget : (Given.ofRecord r).get? f.name = some (.ofJson v) := by
        rw [Given.get?_ofRecord, hv]
        rfl
      rw [entryOf_of_holds hget hholds hkeep, hv]
      rfl
    · have hget : (Given.ofRecord r).get? f.name = none := by
        rw [Given.get?_ofRecord, hmissing]
        rfl
      rw [entryOf_of_missing hget hkind homit, hmissing]
      rfl
  rw [Json.Decoder.ofValue?, decode, Given.of?_ofJson hr, List.filterMap_eq_flatMap_toList]
  change (s.fields.mapM (entryOf (Given.ofRecord r))).bind _ = _
  rw [hentries]
  rfl

/-- A record without a value of its kind for some field is not read. -/
theorem decode_eq_none {s : Shape} (hr : r.DistinctKeys) {f : FieldShape}
    (hf : f ∈ s.fields) (hnone : decodeField (Given.ofRecord r) f = none) :
    s.decode.ofValue? (.obj r) = none := by
  have hentry : entryOf (Given.ofRecord r) f = none := by
    rw [entryOf, hnone]
    rfl
  rw [Json.Decoder.ofValue?, decode, Given.of?_ofJson hr]
  change (s.fields.mapM (entryOf (Given.ofRecord r))).bind _ = _
  rw [mapM_eq_none hf hentry]
  rfl

end Shape

end CriteriaSearch

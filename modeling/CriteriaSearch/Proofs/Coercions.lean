import CriteriaSearch.Coercion
import CriteriaSearch.Proofs.Induction
import Mathlib.Data.List.Forall2
import Mathlib.Tactic.Common

/-!
# Coerced values

A text is read as null, a boolean or a number, none of which is coerced any further.  So coercing
twice is coercing once (`Json.coerce_coerce`), and a value that is no container stays one that is
none (`Json.isScalar_coerce`).  Lists keep their items in place, and nothing but their texts is ever
changed (`Json.keepsShape_coerce`).
-/

namespace CriteriaSearch

/-- What a text can be read as. -/
lemma AttributeType.cases_of_readText? {t : AttributeType} {s : String} {v : Json}
    (h : t.readText? s = some v) : v = .null ∨ (∃ b, v = .bool b) ∨ ∃ n, v = .num n := by
  unfold readText? at h
  split at h
  · simp at h
  · simp at h
  · obtain ⟨n, -, rfl⟩ := Option.map_eq_some_iff.1 h
    exact .inr (.inr ⟨.int n, rfl⟩)
  · obtain ⟨x, -, rfl⟩ := Option.map_eq_some_iff.1 h
    exact .inr (.inr ⟨.float x, rfl⟩)
  · split at h
    · exact .inr (.inl ⟨true, (Option.some.inj h).symm⟩)
    split at h
    · exact .inr (.inl ⟨false, (Option.some.inj h).symm⟩)
    split at h
    · exact .inl (Option.some.inj h).symm
    · simp at h

namespace Json

lemma coerceItems_eq_map (type : Option AttributeType) (items : List Json) :
    coerceItems type items = items.map (coerce type) := by
  induction items with
  | nil => rfl
  | cons v rest ih => rw [coerceItems, ih, List.map_cons]

/-- A coerced text is that text, or null, a boolean or a number. -/
lemma cases_of_coerce_str (type : Option AttributeType) (s : String) :
    (str s).coerce type = str s ∨ (str s).coerce type = null ∨
      (∃ b, (str s).coerce type = bool b) ∨ ∃ n, (str s).coerce type = num n := by
  rw [coerce]
  cases hread : type.bind fun t => t.readText? s with
  | none => exact .inl rfl
  | some v =>
    obtain ⟨t, -, ht⟩ := Option.bind_eq_some_iff.1 hread
    exact .inr (AttributeType.cases_of_readText? ht)

/-- **Coercing twice is coercing once.** -/
theorem coerce_coerce (type : Option AttributeType) (v : Json) :
    (v.coerce type).coerce type = v.coerce type := by
  induction v with
  | str s =>
    rcases cases_of_coerce_str type s with h | h | ⟨b, h⟩ | ⟨n, h⟩
    · rw [h, h]
    all_goals
      rw [h]
      rfl
  | arr items ih =>
    simp only [coerce, coerceItems_eq_map, List.map_map]
    exact congrArg Json.arr (List.map_congr_left ih)
  | _ => rfl

/-- Where nothing is declared, nothing is coerced. -/
lemma coerce_none (v : Json) : v.coerce none = v := by
  induction v with
  | arr items ih =>
    rw [coerce, coerceItems_eq_map, List.map_congr_left ih]
    exact congrArg Json.arr (List.map_id' items)
  | _ => rfl

/-! ## Plain values -/

/-- Whether a value is no container. -/
def isScalar : Json → Bool
  | arr _ => false
  | obj _ => false
  | _ => true

lemma isScalar_coerce (type : Option AttributeType) {v : Json} (h : v.isScalar = true) :
    (v.coerce type).isScalar = true := by
  cases v with
  | str s =>
    rcases cases_of_coerce_str type s with h | h | ⟨b, h⟩ | ⟨n, h⟩ <;> rw [h] <;> rfl
  | arr items => cases h
  | obj entries => cases h
  | _ => rfl

lemma alike_self_of_isScalar {v : Json} (h : v.isScalar = true) : v.alike v = true := by
  cases v with
  | arr items => cases h
  | obj entries => cases h
  | _ => simp [alike, JsonNumber.alike]

/-! ## Nested lists -/

/-- Whether a value is another one up to the texts in its lists, each of which may have become a
plain value that is no text. -/
inductive KeepsShape : Json → Json → Prop
  | same (v : Json) : KeepsShape v v
  | read (s : String) {v : Json} (hscalar : v.isScalar = true) (hstr : v.str? = none) :
    KeepsShape (.str s) v
  | list {items read : List Json} (h : List.Forall₂ KeepsShape items read) :
    KeepsShape (.arr items) (.arr read)

/-- **Coercion changes nothing but texts, and no list in its length or nesting.** -/
theorem keepsShape_coerce (type : Option AttributeType) (v : Json) :
    v.KeepsShape (v.coerce type) := by
  induction v with
  | str s =>
    rcases cases_of_coerce_str type s with h | h | ⟨b, h⟩ | ⟨n, h⟩ <;> rw [h]
    · exact .same _
    all_goals exact .read s rfl rfl
  | arr items ih =>
    rw [coerce, coerceItems_eq_map]
    exact .list (List.forall₂_map_right_iff.2 (List.forall₂_same.2 ih))
  | _ => exact .same _

end Json

/-- **What is coerced is not coerced any further, and it has the shape of what it comes from.** -/
theorem Schema.coerce_idempotent_keepsShape (s : Schema) (field : String) (v : Json) :
    s.coerce field (s.coerce field v) = s.coerce field v ∧ v.KeepsShape (s.coerce field v) :=
  ⟨Json.coerce_coerce _ v, Json.keepsShape_coerce _ v⟩

example :
    (Json.arr [.str "42x", .arr [.str "x", .bool true], .obj [("n", .str "42")]]).coerce
        (some .integer) =
      .arr [.num (.int 42), .arr [.str "x", .bool true], .obj [("n", .str "42")]] :=
  rfl

end CriteriaSearch

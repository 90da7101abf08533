import CriteriaSearch.Proofs.Coercions
import CriteriaSearch.Proofs.Records
import CriteriaSearch.Store.Evaluation
import Mathlib.Logic.Relation
import Mathlib.Tactic.Common

/-!
# The order of keys

`Json.Reordered` relates values that differ only in the order of the keys of the objects inside
them, at any depth.  One step, `Json.Exchange`, lets two neighbouring entries of one object change
places; the entries of an object with distinct keys can be put in any order so
(`Json.reordered_of_perm`), and steps inside a value are steps of all that holds it.

No comparison sees such a step: stored values are equal to the one value where they are equal to the
other (`Json.Exchange.alike_eq`), neither has an order or is an identifier, and coercion goes along
(`Json.Exchange.coerce`).
-/

namespace CriteriaSearch

/-- Two neighbouring entries of one object inside a value, under different keys, change places. -/
inductive Json.Exchange : Json → Json → Prop
  | entries {k l : String} (hkeys : k ≠ l) (before : Record) (v w : Json) (behind : Record) :
    Exchange (.obj (before ++ (k, v) :: (l, w) :: behind))
      (.obj (before ++ (l, w) :: (k, v) :: behind))
  | underKey {v w : Json} (h : Exchange v w) (before : Record) (key : String) (behind : Record) :
    Exchange (.obj (before ++ (key, v) :: behind)) (.obj (before ++ (key, w) :: behind))
  | item {v w : Json} (h : Exchange v w) (before behind : List Json) :
    Exchange (.arr (before ++ v :: behind)) (.arr (before ++ w :: behind))

/-- Whether two values differ only in the order of the keys of the objects inside them. -/
def Json.Reordered : Json → Json → Prop :=
  Relation.ReflTransGen Json.Exchange

namespace Json

/-! ## Reordered values -/

lemma Reordered.underKey {v w : Json} (h : v.Reordered w) (before : Record) (key : String)
    (behind : Record) :
    Reordered (.obj (before ++ (key, v) :: behind)) (.obj (before ++ (key, w) :: behind)) := by
  induction h with
  | refl => exact .refl
  | tail _ h ih => exact ih.tail (.underKey h before key behind)

lemma Reordered.item {v w : Json} (h : v.Reordered w) (before behind : List Json) :
    Reordered (.arr (before ++ v :: behind)) (.arr (before ++ w :: behind)) := by
  induction h with
  | refl => exact .refl
  | tail _ h ih => exact ih.tail (.item h before behind)

/-- **The entries of an object can be put in any order.** -/
theorem reordered_of_perm {entries others : Record} (h : entries.Perm others)
    (hkeys : entries.DistinctKeys) : Reordered (.obj entries) (.obj others) := by
  -- The induction is on the permutation, behind any entries that stay where they are.
  suffices ∀ before, Reordered (.obj (before ++ entries)) (.obj (before ++ others)) from this []
  induction h with
  | nil => exact fun _ => .refl
  | cons e _ ih =>
    intro before
    have hrest := ih (List.nodup_cons.1 hkeys).2 (before ++ [e])
    rwa [List.append_assoc, List.append_assoc] at hrest
  | swap e f rest =>
    intro before
    have hne : f.1 ≠ e.1 := fun he => (List.nodup_cons.1 hkeys).1 (he ▸ List.mem_cons_self)
    exact .single (.entries hne before f.2 e.2 rest)
  | trans h _ ih ih' =>
    exact fun before => (ih hkeys before).trans (ih' ((h.map Prod.fst).nodup_iff.1 hkeys) before)

/-! ## Comparisons -/

lemma alikeItems_append_cons {v w : Json} (h : ∀ u : Json, u.alike v = u.alike w)
    (us before behind : List Json) :
    alikeItems us (before ++ v :: behind) = alikeItems us (before ++ w :: behind) := by
  induction before generalizing us with
  | nil => cases us <;> simp [alikeItems, h]
  | cons b rest ih => cases us <;> simp [alikeItems, ih]

lemma alikeEntries_eq_all (us r : Record) :
    alikeEntries us r = us.all fun e => (Record.get? r e.1).any e.2.alike := by
  induction us with
  | nil => simp [alikeEntries]
  | cons e rest ih =>
    obtain ⟨k, u⟩ := e
    rw [alikeEntries, ih, List.all_cons]
    cases Record.get? r k <;> rfl

variable {v w : Json}

/-- Objects of one size whose values pass the same comparisons key by key are equal to the same. -/
lemma alike_obj_eq {r s : Record} (hlength : r.length = s.length)
    (h : ∀ key (u : Json), (Record.get? r key).any u.alike = (Record.get? s key).any u.alike)
    (u : Json) : u.alike (.obj r) = u.alike (.obj s) := by
  cases u with
  | obj us => simp only [alike, alikeEntries_eq_all, hlength, h]
  | _ => simp [alike]

/-- **An exchange of keys does not change what a value is equal to.** -/
theorem Exchange.alike_eq (h : v.Exchange w) (u : Json) : u.alike v = u.alike w := by
  induction h generalizing u with
  | @entries k l hkeys before v w behind =>
    refine alike_obj_eq (by simp) (fun key u => ?_) u
    rw [Record.get?_append_cons, Record.get?_append_cons, Record.get?, Record.get?]
    by_cases hk : k = key
    · have hl : ¬l = key := fun hl => hkeys (hk.trans hl.symm)
      rw [if_pos hk, if_neg hl, if_pos hk]
    · rw [if_neg hk, if_neg hk]
  | @underKey v w h before k behind ih =>
    refine alike_obj_eq (by simp) (fun key u => ?_) u
    rw [Record.get?_append_cons, Record.get?_append_cons]
    by_cases hk : k = key
    · rw [if_pos hk, if_pos hk]
      cases Record.get? before key with
      | some _ => rfl
      | none => exact ih u
    · rw [if_neg hk, if_neg hk]
  | item h before behind ih =>
    cases u with
    | arr us =>
      simp only [alike]
      exact alikeItems_append_cons ih us before behind
    | _ => simp [alike]

/-- **Coercion goes along with an exchange of keys.** -/
theorem Exchange.coerce (type : Option AttributeType) (h : v.Exchange w) :
    (v.coerce type).Exchange (w.coerce type) := by
  induction h with
  | entries hkeys before v w behind => exact .entries hkeys before v w behind
  | underKey h before key behind _ => exact .underKey h before key behind
  | item h before behind ih =>
    simp only [Json.coerce, coerceItems_eq_map, List.map_append, List.map_cons]
    exact .item ih _ _

/-- What holds an object is no identifier. -/
lemma Exchange.idText?_eq (h : v.Exchange w) : v.idText? = w.idText? := by
  cases h <;> rfl

/-- What holds an object compares with nothing. -/
lemma Exchange.order?_eq (h : v.Exchange w) (u : Json) : u.order? v = u.order? w := by
  cases h <;> cases u <;> rfl

end Json

end CriteriaSearch

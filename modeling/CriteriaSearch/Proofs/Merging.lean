import CriteriaSearch.Proofs.Records
import CriteriaSearch.Store.Memory

/-!
# Merging, key by key

Merging a record into another sets the keys of the added record one after another.  Where the added
record has distinct keys, what is under a key afterwards depends only on what was under that key on
both sides (`Record.get?_merge`).  So a key that the added record does not have keeps its value
(`Record.get?_merge_of_not_mem`), and two records that agree on a key agree on it after the same
merge (`Record.get?_merge_congr`).
-/

namespace CriteriaSearch.Record

/-- The value that a key gets when a value is merged over what is there: objects are merged, and
everything else is replaced. -/
def mergeValue (old : Option Json) (added : Json) : Json :=
  match old, added with
  | some (.obj existing), .obj inner => .obj (Record.merge existing inner)
  | _, v => v

lemma merge_nil (target : Record) : target.merge [] = target := by
  rw [merge]

lemma merge_cons (target : Record) (key : String) (v : Json) (rest : Record) :
    target.merge ((key, v) :: rest) =
      (target.insert key (mergeValue (target.get? key) v)).merge rest := by
  cases v with
  | obj inner =>
    rw [merge]
    cases target.get? key with
    | none => rfl
    | some old => cases old <;> rfl
  | _ =>
    rw [merge]
    · cases target.get? key with
      | none => rfl
      | some old => cases old <;> rfl
    · rintro _ ⟨⟩

lemma distinctKeys_merge {target : Record} (added : Record) (h : target.DistinctKeys) :
    (target.merge added).DistinctKeys := by
  induction added generalizing target with
  | nil => rwa [merge_nil]
  | cons e rest ih =>
    rw [merge_cons]
    exact ih (distinctKeys_insert e.1 _ h)

/-- **What is under a key after a merge.** -/
theorem get?_merge (target : Record) {added : Record} (h : added.DistinctKeys) (key : String) :
    (target.merge added).get? key =
      match added.get? key with
      | none => target.get? key
      | some v => some (mergeValue (target.get? key) v) := by
  induction added generalizing target with
  | nil => rw [merge_nil, get?_nil]
  | cons e rest ih =>
    obtain ⟨k, v⟩ := e
    rw [DistinctKeys, List.map_cons, List.nodup_cons] at h
    rw [merge_cons, ih _ h.2, get?_insert]
    by_cases hk : k = key
    · subst hk
      have hrest : get? rest k = none := get?_eq_none_iff.2 h.1
      have hfirst : get? ((k, v) :: rest) k = some v := if_pos rfl
      rw [hrest, hfirst, if_pos rfl]
    · have hfirst : get? ((k, v) :: rest) key = get? rest key := if_neg hk
      rw [hfirst, if_neg hk]

/-- A merge leaves the keys alone that the added record does not have. -/
lemma get?_merge_of_not_mem (target : Record) {added : Record} (h : added.DistinctKeys)
    {key : String} (hkey : key ∉ added.map Prod.fst) :
    (target.merge added).get? key = target.get? key := by
  rw [get?_merge target h, get?_eq_none_iff.2 hkey]

/-- Records that agree on a key agree on it after the same merge. -/
lemma get?_merge_congr {target other added : Record} (h : added.DistinctKeys) {key : String}
    (heq : target.get? key = other.get? key) :
    (target.merge added).get? key = (other.merge added).get? key := by
  rw [get?_merge target h, get?_merge other h, heq]

end CriteriaSearch.Record

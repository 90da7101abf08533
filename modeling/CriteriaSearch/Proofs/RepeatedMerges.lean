import CriteriaSearch.Proofs.Merging
import CriteriaSearch.Proofs.SentRequests
import CriteriaSearch.Proofs.WrittenJson

/-!
# Merging the same record again

A partial update can be sent again when its answer got lost: the second merge finds every value of
the added record in place (`Record.merge_eq_self`) and changes nothing, not even the order of keys
(`Record.merge_merge_self`).  Behind this stands the same fact on single values, by induction on the
value that is added: a list, a text or a number has replaced what was there, and an object meets
itself or what it was merged into.

A merge keeps the keys that are there in their places and puts new ones behind them
(`Record.keys_merge`), and under each key it does what the two values say
(`Record.merge_deep_and_repeatable`).
-/

namespace CriteriaSearch

lemma Json.hasDistinctKeys_obj_iff {entries : Record} :
    (Json.obj entries).HasDistinctKeys ↔
      entries.DistinctKeys ∧ ∀ e ∈ entries, e.2.HasDistinctKeys := by
  constructor
  · intro h
    cases h with
    | obj hkeys hvalues => exact ⟨hkeys, hvalues⟩
  · exact fun h => .obj h.1 h.2

namespace Record

variable {r target added : Record} {key : String} {v : Json}

/-! ## Values in place -/

/-- A merge changes nothing where every value that it adds is in place, alone and merged. -/
lemma merge_eq_self
    (h : ∀ e ∈ added, ∃ w, target.get? e.1 = some w ∧ mergeValue (some w) e.2 = w) :
    target.merge added = target := by
  induction added with
  | nil => exact merge_nil target
  | cons e rest ih =>
    obtain ⟨k, v⟩ := e
    rw [List.forall_mem_cons] at h
    obtain ⟨⟨w, hw, hvalue⟩, hrest⟩ := h
    rw [merge_cons, hw, hvalue, insert_of_get?_eq_some hw, ih hrest]

/-- Only objects are merged; everything else replaces what is there. -/
lemma mergeValue_of_ne {old : Option Json}
    (h : ∀ existing inner, old = some (.obj existing) → v ≠ .obj inner) :
    mergeValue old v = v := by
  unfold mergeValue
  split
  · next existing inner => exact absurd rfl (h existing inner rfl)
  · rfl

/-- **A value that is merged over what it was merged over stays as it is.** -/
lemma mergeValue_mergeValue (hv : v.HasDistinctKeys) (old : Option Json) :
    mergeValue (some (mergeValue old v)) v = mergeValue old v := by
  induction v generalizing old with
  | obj entries ih =>
    obtain ⟨hkeys, hvalues⟩ := Json.hasDistinctKeys_obj_iff.1 hv
    -- What an entry leaves under its key takes the entry again.
    have hagain (base : Record) : (base.merge entries).merge entries = base.merge entries := by
      refine merge_eq_self fun e he => ⟨mergeValue (base.get? e.1) e.2, ?_, ?_⟩
      · rw [get?_merge base hkeys, (get?_eq_some_iff_mem hkeys).2 he]
      · exact ih e he (hvalues e he) _
    have hself : Record.merge entries entries = entries := by
      refine merge_eq_self fun e he => ⟨e.2, (get?_eq_some_iff_mem hkeys).2 he, ?_⟩
      exact ih e he (hvalues e he) none
    have hreplaced : mergeValue (some (.obj entries)) (.obj entries) = .obj entries :=
      congrArg Json.obj hself
    cases old with
    | none => exact hreplaced
    | some w =>
      cases w with
      | obj existing => exact congrArg Json.obj (hagain existing)
      | _ => exact hreplaced
  | _ => rw [mergeValue_of_ne (by simp), mergeValue_of_ne (by simp)]

/-- **The same merge again changes nothing.** -/
theorem merge_merge_self (target : Record) (h : (Json.obj added).HasDistinctKeys) :
    (target.merge added).merge added = target.merge added := by
  obtain ⟨hkeys, hvalues⟩ := Json.hasDistinctKeys_obj_iff.1 h
  refine merge_eq_self fun e he => ⟨mergeValue (target.get? e.1) e.2, ?_, ?_⟩
  · rw [get?_merge target hkeys, (get?_eq_some_iff_mem hkeys).2 he]
  · exact mergeValue_mergeValue (hvalues e he) _

/-! ## Keys -/

/-- **A merge keeps the keys in their order and puts the new ones behind them, in theirs.** -/
theorem keys_merge (target : Record) (h : added.DistinctKeys) :
    (target.merge added).map Prod.fst =
      target.map Prod.fst ++ (added.map Prod.fst).filter (· ∉ target.map Prod.fst) := by
  induction added generalizing target with
  | nil => simp [merge_nil]
  | cons e rest ih =>
    obtain ⟨k, v⟩ := e
    rw [DistinctKeys, List.map_cons, List.nodup_cons] at h
    rw [merge_cons, ih _ h.2, keys_insert, List.map_cons]
    by_cases hk : k ∈ target.map Prod.fst
    · rw [if_pos hk, List.filter_cons_of_neg (by simpa using hk)]
    · -- The new key is not among the ones behind it, so they are filtered as before.
      have hrest : (rest.map Prod.fst).filter (· ∉ target.map Prod.fst ++ [k]) =
          (rest.map Prod.fst).filter (· ∉ target.map Prod.fst) := by
        refine List.filter_congr fun other hother => ?_
        have hne : other ≠ k := fun heq => h.1 (heq ▸ hother)
        simp [hne]
      rw [if_neg hk, hrest, List.filter_cons_of_pos (by simpa using hk), List.append_assoc,
        List.singleton_append]

/-! ## Updates -/

/-- **A partial update is a deep merge that may be sent again.**  A key that is not sent keeps its
value; two objects are merged, and any other value that is sent replaces what is there; keys keep
their order and new ones go last.  A store that has taken the update takes it again, and shows the
same documents afterwards. -/
theorem merge_deep_and_repeatable (target added : Record)
    (h : (Json.obj added).HasDistinctKeys) :
    (target.merge added).merge added = target.merge added ∧
    (∀ key, added.get? key = none → (target.merge added).get? key = target.get? key) ∧
    (∀ (key : String) (existing inner : Record), target.get? key = some (.obj existing) →
      added.get? key = some (.obj inner) →
      (target.merge added).get? key = some (.obj (existing.merge inner))) ∧
    (∀ key v, added.get? key = some v →
      (∀ existing inner, target.get? key = some (.obj existing) → v ≠ .obj inner) →
      (target.merge added).get? key = some v) ∧
    (target.merge added).map Prod.fst =
      target.map Prod.fst ++ (added.map Prod.fst).filter (· ∉ target.map Prod.fst) ∧
    ∀ (m : Memory) (address : Address) (id : String),
      (m.documents address)[id]? = some target →
      ∃ m' m'', Memory.client.answer address (.update id added) m = (.ok (), m') ∧
        (m'.documents address)[id]? = some (target.merge added) ∧
        Memory.client.answer address (.update id added) m' = (.ok (), m'') ∧
        ∀ (other : Address) (key : String),
          (m''.documents other)[key]? = (m'.documents other)[key]? := by
  have hagain := merge_merge_self target h
  obtain ⟨hkeys, -⟩ := Json.hasDistinctKeys_obj_iff.1 h
  refine ⟨hagain, ?_, ?_, ?_, keys_merge target hkeys, ?_⟩
  · intro key hnone
    rw [get?_merge target hkeys, hnone]
  · intro key existing inner hexisting hinner
    rw [get?_merge target hkeys, hinner, hexisting]
    rfl
  · intro key v hv hnot
    rw [get?_merge target hkeys, hv]
    exact congrArg some (mergeValue_of_ne hnot)
  · intro m address id hstored
    have hfirst := Memory.answer_update_of_stored hstored added
    have hbetween : ((m.put address id (target.merge added)).documents address)[id]? =
        some (target.merge added) := by
      rw [Memory.getElem?_put, if_pos rfl]
    have hsecond := Memory.answer_update_of_stored hbetween added
    rw [hagain] at hsecond
    refine ⟨_, _, hfirst, hbetween, hsecond, fun other key => ?_⟩
    by_cases hat : other = address ∧ key = id
    · obtain ⟨rfl, rfl⟩ := hat
      rw [Memory.getElem?_put, if_pos rfl, hbetween]
    · exact Memory.getElem?_put_of_ne hat _

/-- An object meets an object two levels deep, a text meets an object and an object a number. -/
theorem merge_deep_and_repeatable_nested :
    let target : Record :=
      [("title", .str "alpha"), ("meta", .obj [("seen", .bool false), ("by", .obj [("a", .null)])]),
       ("size", .obj [("w", .num (.int 1))])]
    let added : Record :=
      [("new", .null), ("size", .num (.int 5)), ("meta", .obj [("by", .obj [("b", .null)])]),
       ("title", .obj [("en", .str "omega")])]
    let merged : Record :=
      [("title", .obj [("en", .str "omega")]),
       ("meta", .obj [("seen", .bool false), ("by", .obj [("a", .null), ("b", .null)])]),
       ("size", .num (.int 5)), ("new", .null)]
    (Json.obj added).HasDistinctKeys ∧ target.merge added = merged ∧
      merged.merge added = merged := by
  intro target added merged
  have hadded : (Json.obj added).HasDistinctKeys := by
    simp [added, Json.hasDistinctKeys_obj_iff, DistinctKeys, Json.HasDistinctKeys.null,
      Json.HasDistinctKeys.num, Json.HasDistinctKeys.str]
  have hmerged : target.merge added = merged := by
    cbv
  obtain ⟨hagain, -⟩ := merge_deep_and_repeatable target added hadded
  rw [hmerged] at hagain
  exact ⟨hadded, hmerged, hagain⟩

end Record

end CriteriaSearch

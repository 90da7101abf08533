import CriteriaSearch.Json.Basic
import Mathlib.Data.List.Induction
import Mathlib.Data.List.Nodup
import Mathlib.Tactic.Common

/-!
# Records with distinct keys

A record is a list of entries, and what is read into one or set in one has distinct keys.  Then the
value of a key is the one that stands beside it (`get?_eq_some_iff_mem`), a new key goes last, and
entries set one after another are the record that they make (`ofEntries_of_distinctKeys`).  Where
keys are the names of things, each thing has one entry, at its first place (`ofEntries_map`).
-/

namespace CriteriaSearch

/-- One more element goes last, unless it was there before. -/
lemma eraseDups_concat {α : Type} [BEq α] [LawfulBEq α] (l : List α) (a : α)
    [Decidable (a ∈ l)] :
    (l ++ [a]).eraseDups = if a ∈ l then l.eraseDups else l.eraseDups ++ [a] := by
  rw [List.eraseDups_append]
  by_cases h : a ∈ l <;> simp [List.removeAll, h, List.eraseDups_cons]

lemma nodup_eraseDups {α : Type} [BEq α] [LawfulBEq α] (l : List α) : l.eraseDups.Nodup := by
  classical
  induction l using List.reverseRecOn with
  | nil => exact List.nodup_nil
  | append_singleton l a ih =>
    rw [eraseDups_concat]
    split
    · exact ih
    · next hnew =>
      rw [← List.concat_eq_append, List.nodup_concat, List.mem_eraseDups]
      exact ⟨hnew, ih⟩

namespace Record

instance (r : Record) : Decidable r.DistinctKeys :=
  inferInstanceAs (Decidable (r.map Prod.fst).Nodup)

/-! ## Look-ups -/

lemma mem_of_get?_eq_some {r : Record} {key : String} {v : Json} (h : r.get? key = some v) :
    (key, v) ∈ r := by
  induction r with
  | nil => simp at h
  | cons e rest ih =>
    obtain ⟨k, w⟩ := e
    unfold get? at h
    split at h
    · next hk =>
      obtain rfl := Option.some.inj h
      exact hk ▸ List.mem_cons_self
    · exact List.mem_cons_of_mem _ (ih h)

/-- Under distinct keys the value of a key is the one that stands beside it. -/
lemma get?_eq_some_iff_mem {r : Record} (hr : r.DistinctKeys) {key : String} {v : Json} :
    r.get? key = some v ↔ (key, v) ∈ r := by
  refine ⟨mem_of_get?_eq_some, fun h => ?_⟩
  induction r with
  | nil => simp at h
  | cons e rest ih =>
    obtain ⟨k, w⟩ := e
    rw [DistinctKeys, List.map_cons, List.nodup_cons] at hr
    unfold get?
    rcases List.mem_cons.1 h with heq | hrest
    · obtain ⟨rfl, rfl⟩ := Prod.mk.inj heq
      exact if_pos rfl
    · have hkey : key ∈ rest.map Prod.fst := List.mem_map_of_mem hrest
      have hne : k ≠ key := fun hk => hr.1 (hk ▸ hkey)
      rw [if_neg hne]
      exact ih hr.2 hrest

/-- A key has no value exactly when no entry has it. -/
lemma get?_eq_none_iff {r : Record} {key : String} :
    r.get? key = none ↔ key ∉ r.map Prod.fst := by
  induction r with
  | nil => simp
  | cons e rest ih =>
    obtain ⟨k, w⟩ := e
    rw [get?, List.map_cons, List.mem_cons, not_or]
    split
    · next hk => simp [hk]
    · next hk => rw [ih, and_iff_right (Ne.symm hk)]

/-- The order of entries with distinct keys does not show in look-ups. -/
lemma get?_eq_of_perm {r s : Record} (h : r.Perm s) (hr : r.DistinctKeys) (key : String) :
    r.get? key = s.get? key := by
  have hs : s.DistinctKeys := (h.map Prod.fst).nodup_iff.1 hr
  ext v
  rw [get?_eq_some_iff_mem hr, get?_eq_some_iff_mem hs, h.mem_iff]

/-- The value of a key in a record with an entry in its midst. -/
lemma get?_append_cons (before behind : Record) (k : String) (v : Json) (key : String) :
    get? (before ++ (k, v) :: behind) key =
      (get? before key).or (if k = key then some v else get? behind key) := by
  induction before with
  | nil => rfl
  | cons e rest ih =>
    obtain ⟨l, w⟩ := e
    rw [List.cons_append, get?, get?, ih]
    split <;> rfl

lemma get?_append_cons_self {before : Record} {key : String} (h : key ∉ before.map Prod.fst)
    (v : Json) (behind : Record) : get? (before ++ (key, v) :: behind) key = some v := by
  rw [get?_append_cons, get?_eq_none_iff.2 h, if_pos rfl, Option.none_or]

/-- An entry in the midst of a record does not show under other keys. -/
lemma get?_append_cons_of_ne {e : String × Json} {key : String} (h : e.1 ≠ key)
    (before behind : Record) : get? (before ++ e :: behind) key = get? (before ++ behind) key := by
  induction before with
  | nil => exact if_neg h
  | cons first rest ih =>
    obtain ⟨l, w⟩ := first
    rw [List.cons_append, List.cons_append, get?, get?, ih]

/-! ## Setting keys -/

lemma insert_of_not_mem {r : Record} {key : String} (v : Json) (h : key ∉ r.map Prod.fst) :
    r.insert key v = r ++ [(key, v)] := by
  induction r with
  | nil => rfl
  | cons e rest ih =>
    obtain ⟨k, w⟩ := e
    rw [List.map_cons, List.mem_cons, not_or] at h
    rw [Record.insert, if_neg (Ne.symm h.1), ih h.2, List.cons_append]

/-- What is set is the new entry; what else is there was there before. -/
lemma eq_or_mem_of_mem_insert {r : Record} {key : String} {v : Json} {e : String × Json}
    (h : e ∈ r.insert key v) : e = (key, v) ∨ e ∈ r := by
  induction r with
  | nil => exact .inl (List.mem_singleton.1 h)
  | cons first rest ih =>
    obtain ⟨k, w⟩ := first
    unfold insert at h
    split at h
    · next hk =>
      subst hk
      rcases List.mem_cons.1 h with rfl | hrest
      · exact .inl rfl
      · exact .inr (List.mem_cons_of_mem _ hrest)
    · rcases List.mem_cons.1 h with rfl | hrest
      · exact .inr List.mem_cons_self
      · exact (ih hrest).imp_right (List.mem_cons_of_mem _)

lemma keys_insert (r : Record) (key : String) (v : Json) :
    (r.insert key v).map Prod.fst =
      if key ∈ r.map Prod.fst then r.map Prod.fst else r.map Prod.fst ++ [key] := by
  induction r with
  | nil => simp [insert]
  | cons first rest ih =>
    obtain ⟨k, w⟩ := first
    by_cases hk : k = key
    · simp [insert, hk]
    · have hne : key ≠ k := Ne.symm hk
      simp only [insert, hk, if_false, List.map_cons, ih, List.mem_cons, hne, false_or]
      split <;> simp

lemma distinctKeys_insert {r : Record} (key : String) (v : Json) (h : r.DistinctKeys) :
    (r.insert key v).DistinctKeys := by
  rw [DistinctKeys, keys_insert]
  split
  · exact h
  · next hnew =>
    refine List.nodup_append.2 ⟨h, List.nodup_singleton _, ?_⟩
    rintro k hk _ hlast rfl
    rw [List.mem_singleton] at hlast
    exact hnew (hlast ▸ hk)

/-- Things without repetition, by names that tell them apart. -/
lemma distinctKeys_map_eraseDups {α : Type} [BEq α] [LawfulBEq α] {name : α → String}
    (hname : Function.Injective name) (value : α → Json) (l : List α) :
    DistinctKeys (l.eraseDups.map fun a => (name a, value a)) := by
  rw [DistinctKeys, List.map_map]
  exact (nodup_eraseDups l).map hname

/-- Entries of distinct keys are a record as they stand. -/
lemma ofEntries_of_distinctKeys {r : Record} (h : r.DistinctKeys) : ofEntries r = r := by
  -- The induction is on the entries, after those that are already set.
  have step : ∀ (done rest : Record), DistinctKeys (done ++ rest) →
      rest.foldl (fun r e => r.insert e.1 e.2) done = done ++ rest := by
    intro done rest
    induction rest generalizing done with
    | nil => simp
    | cons e rest ih =>
      intro h
      have hnew : e.1 ∉ done.map Prod.fst := by
        intro hold
        rw [DistinctKeys, List.map_append, List.map_cons] at h
        exact List.disjoint_of_nodup_append h hold List.mem_cons_self
      rw [List.foldl_cons, insert_of_not_mem e.2 hnew, ih _ (by simpa using h)]
      simp
  exact step [] r h

/-- Setting a key to the value that it has changes nothing. -/
lemma insert_of_get?_eq_some {r : Record} {key : String} {v : Json} (h : r.get? key = some v) :
    r.insert key v = r := by
  induction r with
  | nil => cases h
  | cons e rest ih =>
    obtain ⟨k, w⟩ := e
    rw [get?] at h
    rw [Record.insert]
    split at h
    · next hk =>
      obtain rfl := Option.some.inj h
      rw [if_pos hk, hk]
    · next hk => rw [if_neg hk, ih h]

/-- **Names that tell things apart make one entry for each thing, at its first place.** -/
lemma ofEntries_map {α : Type} [BEq α] [LawfulBEq α] {name : α → String}
    (hname : Function.Injective name) (value : α → Json) (l : List α) :
    ofEntries (l.map fun a => (name a, value a)) =
      l.eraseDups.map fun a => (name a, value a) := by
  classical
  induction l using List.reverseRecOn with
  | nil => rfl
  | append_singleton l a ih =>
    have hset : ofEntries ((l ++ [a]).map fun a => (name a, value a)) =
        (ofEntries (l.map fun a => (name a, value a))).insert (name a) (value a) := by
      simp [ofEntries]
    rw [hset, ih, eraseDups_concat]
    have hdistinct := distinctKeys_map_eraseDups hname value l
    split
    · next hold =>
      refine insert_of_get?_eq_some ((get?_eq_some_iff_mem hdistinct).2 ?_)
      exact List.mem_map_of_mem (List.mem_eraseDups.2 hold)
    · next hnew =>
      rw [insert_of_not_mem, List.map_append, List.map_singleton]
      rw [List.map_map, List.mem_map]
      rintro ⟨b, hb, heq⟩
      exact hnew (hname heq ▸ List.mem_eraseDups.1 hb)

/-! ## Taking keys out -/

lemma swapRemove_eq_none_iff {r : Record} {key : String} :
    r.swapRemove key = none ↔ key ∉ r.map Prod.fst := by
  induction r with
  | nil => simp [swapRemove]
  | cons e rest ih =>
    obtain ⟨k, w⟩ := e
    rw [swapRemove, List.map_cons, List.mem_cons, not_or]
    split
    · next hk => cases rest.getLast? <;> simp [hk]
    · next hk => rw [Option.map_eq_none_iff, ih, and_iff_right (Ne.symm hk)]

/-- What is taken out is what the key had. -/
lemma map_fst_swapRemove (r : Record) (key : String) :
    (r.swapRemove key).map Prod.fst = r.get? key := by
  induction r with
  | nil => rfl
  | cons e rest ih =>
    obtain ⟨k, w⟩ := e
    by_cases hk : k = key
    · rw [swapRemove, if_pos hk, get?, if_pos hk]
      cases rest.getLast? <;> rfl
    · rw [swapRemove, if_neg hk, get?, if_neg hk, ← ih, Option.map_map]
      rfl

/-- What is taken out and what is left are the entries that were there. -/
lemma perm_of_swapRemove {r rest : Record} {key : String} {v : Json}
    (h : r.swapRemove key = some (v, rest)) : r.Perm ((key, v) :: rest) := by
  induction r generalizing rest with
  | nil => cases h
  | cons e tail ih =>
    obtain ⟨k, w⟩ := e
    rw [swapRemove] at h
    split at h
    · next hk =>
      subst hk
      cases hlast : tail.getLast? with
      | none =>
        rw [hlast] at h
        obtain ⟨rfl, rfl⟩ := Prod.mk.inj (Option.some.inj h)
        rw [List.getLast?_eq_none_iff.1 hlast]
      | some last =>
        rw [hlast] at h
        obtain ⟨rfl, rfl⟩ := Prod.mk.inj (Option.some.inj h)
        -- The last entry has moved to the front of what is left.
        have hmoved : tail.Perm (last :: tail.dropLast) := by
          obtain ⟨init, rfl⟩ := List.getLast?_eq_some_iff.1 hlast
          rw [List.dropLast_concat]
          exact List.perm_append_singleton last init
        exact hmoved.cons _
    · obtain ⟨⟨v', left⟩, hleft, heq⟩ := Option.map_eq_some_iff.1 h
      obtain ⟨rfl, rfl⟩ := Prod.mk.inj heq
      exact ((ih hleft).cons _).trans (List.Perm.swap _ _ _)

lemma swapRemove_append_singleton {r : Record} {key : String} (v : Json)
    (h : key ∉ r.map Prod.fst) : (r ++ [(key, v)]).swapRemove key = some (v, r) := by
  induction r with
  | nil => simp [swapRemove]
  | cons e rest ih =>
    obtain ⟨k, w⟩ := e
    rw [List.map_cons, List.mem_cons, not_or] at h
    rw [List.cons_append, swapRemove, if_neg (Ne.symm h.1), ih h.2]
    rfl

end Record

end CriteriaSearch

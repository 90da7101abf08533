import CriteriaSearch.Proofs.Records
import CriteriaSearch.Proofs.Successes
import Mathlib.Tactic.Common

/-!
# Objects read entry by entry

Modifiers, clauses and criteria are read from objects.  Each entry is read on its own, and what was
read is put together: modifiers in a list (`Modifier.ofEntries_eq_map`), the parts of a clause one
behind the other (`Clause.partsOf_cons_eq_ok_iff`), the parts of criteria each in its own place
(`Criteria.foldlM_readEntry_cons_eq_ok_iff`).

Different keys of criteria have different places, so their order does not matter
(`Criteria.ofJson?_eq_ok_iff_of_perm`).
-/

namespace CriteriaSearch

/-! ## Modifiers -/

/-- The modifier of an entry. -/
def Modifier.ofEntry (entry : String × Json) : Modifier :=
  match ModifierKind.ofKey entry.1 with
  | .not => .not (Expression.ofJson entry.2)
  | .range bound => .range bound entry.2
  | .text how => .text how entry.2
  | .other => .other entry.1 entry.2

lemma Modifier.ofEntries_eq_map (entries : List (String × Json)) :
    ofEntries entries = entries.map ofEntry := by
  induction entries with
  | nil => rw [ofEntries, List.map_nil]
  | cons entry rest ih =>
    obtain ⟨key, v⟩ := entry
    rw [ofEntries, ih, List.map_cons]
    rfl

namespace Clause

/-! ## Clauses -/

/-- The parts of one entry of an object. -/
def partOf (entry : String × Json) : Except CompilationError Parts :=
  if entry.1 = "and" || entry.1 = "or" then
    match entry.2 with
    | .arr items => do
      let children ← ofItems items
      pure { combinators := [if entry.1 = "and" then .and children else .or children] }
    | _ => pure {}
  else if Text.asciiLowercase entry.1 = "like" then
    match entry.2 with
    | .obj patterns => pure { fields := likeFields patterns }
    | _ => .error .likeNotObject
  else pure { fields := [(entry.1, Expression.ofJson entry.2)] }

lemma partsOf_cons (entry : String × Json) (rest : List (String × Json)) :
    partsOf (entry :: rest) =
      partOf entry >>= fun here => partsOf rest >>= fun others => pure (here.append others) := by
  obtain ⟨key, v⟩ := entry
  rw [partsOf.eq_def]
  dsimp only
  unfold partOf
  split
  · cases v <;> simp
  · dsimp only
    split
    · cases v <;> rfl
    · rfl

lemma partsOf_cons_eq_ok_iff {entry : String × Json} {rest : List (String × Json)} {p : Parts} :
    partsOf (entry :: rest) = .ok p ↔
      ∃ here others, partOf entry = .ok here ∧ partsOf rest = .ok others ∧
        here.append others = p := by
  rw [partsOf_cons]
  simp only [bind_eq_ok_iff, pure_eq_ok_iff]
  constructor
  · rintro ⟨here, hhere, others, hothers, hp⟩
    exact ⟨here, others, hhere, hothers, hp⟩
  · rintro ⟨here, others, hhere, hothers, hp⟩
    exact ⟨here, hhere, others, hothers, hp⟩

lemma ofJson?_obj_eq_ok_iff {entries : List (String × Json)} {c : Clause} :
    ofJson? (.obj entries) = .ok c ↔ ∃ p, partsOf entries = .ok p ∧ p.toClause = c := by
  rw [ofJson?]
  cases partsOf entries with
  | error e => simp [Except.map]
  | ok p => simp [Except.map]

lemma ofItems_cons_eq_ok_iff {v : Json} {rest : List Json} {cs : List Clause} :
    ofItems (v :: rest) = .ok cs ↔
      ∃ c others, ofJson? v = .ok c ∧ ofItems rest = .ok others ∧ c :: others = cs := by
  rw [ofItems]
  simp only [bind_eq_ok_iff, pure_eq_ok_iff]
  constructor
  · rintro ⟨c, hc, others, hothers, hcs⟩
    exact ⟨c, others, hc, hothers, hcs⟩
  · rintro ⟨c, others, hc, hothers, hcs⟩
    exact ⟨c, hc, others, hothers, hcs⟩

end Clause

/-! ## Criteria -/

lemma Metric.ofKey?_injective {k l : String} {metric : Metric} (hk : ofKey? k = some metric)
    (hl : ofKey? l = some metric) : k = l := by
  unfold ofKey? at hk hl
  grind

namespace Criteria

/-- What an entry gives to criteria. -/
inductive Part where
  | clause (clause : Option Clause)
  | sort (keys : List SortKey)
  | limit (bound : Option Nat)
  | skip (bound : Option Nat)
  | facets (facets : Json)
  | statistic (metric : Metric) (fields : Option (List String))
  | ignored

/-- Criteria with a part put into them. -/
def Part.into : Part → Criteria → Criteria
  | clause w, c => { c with clause := w }
  | sort keys, c => { c with sort := keys }
  | limit n, c => { c with limit := n }
  | skip n, c => { c with skip := n }
  | facets v, c => { c with facets := some v }
  | statistic metric fields, c =>
    { c with aggregate := some ((c.aggregate.getD {}).setFields fields metric) }
  | ignored, c => c

/-- Reads the part of an entry. -/
def partOf (entry : String × Json) : Except CompilationError Part :=
  if entry.1 = "where" then
    match entry.2 with
    | .null => return .clause none
    | v => return .clause (some (← Clause.ofJson? v))
  else if entry.1 = "sort" then return .sort (← sortOf entry.2)
  else if entry.1 = "limit" then return .limit (← windowOf entry.1 entry.2)
  else if entry.1 = "skip" then return .skip (← windowOf entry.1 entry.2)
  else if entry.1 = "facets" then
    match entry.2 with
    | .null => return .ignored
    | v => return .facets v
  else
    match Metric.ofKey? entry.1 with
    | some metric => return .statistic metric (← fieldListOf entry.1 entry.2)
    | none => return .ignored

/-- The part of an entry is read on its own, and then put into the criteria. -/
lemma readEntry_eq (c : Criteria) (entry : String × Json) :
    readEntry c entry = partOf entry >>= fun p => pure (p.into c) := by
  obtain ⟨key, v⟩ := entry
  unfold readEntry partOf
  dsimp only
  split
  · cases v <;> simp [Part.into]
  split
  · simp [Part.into]
  split
  · simp [Part.into]
  split
  · simp [Part.into]
  split
  · cases v <;> simp [Part.into]
  cases Metric.ofKey? key <;> simp [Part.into]

/-- The parts that can stand under a key. -/
inductive Part.Under : String → Part → Prop
  | clause (w : Option Clause) : Under "where" (.clause w)
  | sort (keys : List SortKey) : Under "sort" (.sort keys)
  | limit (n : Option Nat) : Under "limit" (.limit n)
  | skip (n : Option Nat) : Under "skip" (.skip n)
  | facets (v : Json) : Under "facets" (.facets v)
  | statistic {key : String} {metric : Metric} (h : Metric.ofKey? key = some metric)
    (fields : Option (List String)) : Under key (.statistic metric fields)
  | ignored (key : String) : Under key .ignored

lemma under_of_partOf {entry : String × Json} {p : Part} (h : partOf entry = .ok p) :
    p.Under entry.1 := by
  obtain ⟨key, v⟩ := entry
  unfold partOf at h
  dsimp only at h ⊢
  split at h
  · next hkey =>
    subst hkey
    split at h
    · obtain rfl := pure_eq_ok_iff.1 h
      exact .clause none
    · obtain ⟨w, -, h⟩ := bind_eq_ok_iff.1 h
      obtain rfl := pure_eq_ok_iff.1 h
      exact .clause (some w)
  split at h
  · next hkey =>
    subst hkey
    obtain ⟨keys, -, h⟩ := bind_eq_ok_iff.1 h
    obtain rfl := pure_eq_ok_iff.1 h
    exact .sort keys
  split at h
  · next hkey =>
    subst hkey
    obtain ⟨n, -, h⟩ := bind_eq_ok_iff.1 h
    obtain rfl := pure_eq_ok_iff.1 h
    exact .limit n
  split at h
  · next hkey =>
    subst hkey
    obtain ⟨n, -, h⟩ := bind_eq_ok_iff.1 h
    obtain rfl := pure_eq_ok_iff.1 h
    exact .skip n
  split at h
  · next hkey =>
    subst hkey
    split at h
    · obtain rfl := pure_eq_ok_iff.1 h
      exact .ignored "facets"
    · obtain rfl := pure_eq_ok_iff.1 h
      exact .facets v
  split at h
  · next metric hmetric =>
    obtain ⟨fields, -, h⟩ := bind_eq_ok_iff.1 h
    obtain rfl := pure_eq_ok_iff.1 h
    exact .statistic hmetric fields
  · obtain rfl := pure_eq_ok_iff.1 h
    exact .ignored key

/-- Parts under different keys go to different places. -/
lemma Part.Under.into_comm {k l : String} {p q : Part} (hp : p.Under k) (hq : q.Under l)
    (h : k ≠ l) (c : Criteria) : p.into (q.into c) = q.into (p.into c) := by
  cases hp <;> cases hq
  case statistic.statistic metric fields hmetric metric' fields' hmetric' =>
    have hne : metric ≠ metric' := by
      rintro rfl
      exact h (Metric.ofKey?_injective hmetric hmetric')
    cases metric <;> cases metric' <;> first | rfl | exact absurd rfl hne
  all_goals first | rfl | exact absurd rfl h

/-- What is read of an entry is put into what was read of the ones before it. -/
lemma foldlM_readEntry_cons_eq_ok_iff {c d : Criteria} {entry : String × Json} {rest : Record} :
    (entry :: rest).foldlM readEntry c = .ok d ↔
      ∃ p, partOf entry = .ok p ∧ rest.foldlM readEntry (p.into c) = .ok d := by
  rw [List.foldlM_cons, readEntry_eq]
  simp only [bind_eq_ok_iff, pure_eq_ok_iff]
  constructor
  · rintro ⟨_, ⟨p, hp, rfl⟩, hd⟩
    exact ⟨p, hp, hd⟩
  · rintro ⟨p, hp, hd⟩
    exact ⟨_, ⟨p, hp, rfl⟩, hd⟩

lemma foldlM_readEntry_of_perm {es fs : Record} (h : es.Perm fs) (hkeys : es.DistinctKeys)
    {c d : Criteria} (hd : es.foldlM readEntry c = .ok d) : fs.foldlM readEntry c = .ok d := by
  induction h generalizing c with
  | nil => exact hd
  | cons entry _ ih =>
    obtain ⟨p, hp, hrest⟩ := foldlM_readEntry_cons_eq_ok_iff.1 hd
    exact foldlM_readEntry_cons_eq_ok_iff.2 ⟨p, hp, ih (List.nodup_cons.1 hkeys).2 hrest⟩
  | swap entry other rest =>
    obtain ⟨p, hp, hrest⟩ := foldlM_readEntry_cons_eq_ok_iff.1 hd
    obtain ⟨q, hq, hrest⟩ := foldlM_readEntry_cons_eq_ok_iff.1 hrest
    have hne : other.1 ≠ entry.1 := fun he => (List.nodup_cons.1 hkeys).1 (he ▸ List.mem_cons_self)
    rw [(under_of_partOf hq).into_comm (under_of_partOf hp) hne.symm] at hrest
    have hother := foldlM_readEntry_cons_eq_ok_iff.2 ⟨p, hp, hrest⟩
    exact foldlM_readEntry_cons_eq_ok_iff.2 ⟨q, hq, hother⟩
  | trans h _ ih ih' => exact ih' ((h.map Prod.fst).nodup_iff.1 hkeys) (ih hkeys hd)

/-- **The order of the keys of criteria does not matter.** -/
theorem ofJson?_eq_ok_iff_of_perm {es fs : Record} (h : es.Perm fs) (hkeys : es.DistinctKeys)
    (c : Criteria) : ofJson? (.obj es) = .ok c ↔ ofJson? (.obj fs) = .ok c := by
  have hkeys' : fs.DistinctKeys := (h.map Prod.fst).nodup_iff.1 hkeys
  exact ⟨foldlM_readEntry_of_perm h hkeys, foldlM_readEntry_of_perm h.symm hkeys'⟩

end Criteria

end CriteriaSearch

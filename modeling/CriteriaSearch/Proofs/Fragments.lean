import CriteriaSearch.Query.OfCriteria
import Mathlib.Data.List.Nodup
import Mathlib.Tactic.Common

/-!
# Fragments of one field

The modifiers of a field become fragments, and fragments of one operator are folded into one.  This
module says what comes out of the fold.  Its keys are distinct (`nodup_folded`), and what it holds
for a key is decided by the fragments of that key alone, taken one after another
(`mem_folded_iff`, `collapse`).  For ranges that is the range of all their bounds, each with the
value that was set last (`collapse_ranges`, `lookup_setBounds`).
-/

namespace CriteriaSearch

/-- What is put last where it is new repeats nothing. -/
lemma nodup_concat_new {α : Type} {l : List α} (a : α) [Decidable (a ∈ l)] (h : l.Nodup) :
    (if a ∈ l then l else l ++ [a]).Nodup := by
  split
  · exact h
  · next hnew =>
    rw [← List.concat_eq_append]
    exact h.concat hnew

namespace Filter

/-! ## Bounds -/

/-- Bounds set one after another. -/
def setBounds (bounds added : List (RangeBound × Json)) : List (RangeBound × Json) :=
  added.foldl (fun bs e => setBound bs e.1 e.2) bounds

@[simp] lemma setBounds_nil (bounds : List (RangeBound × Json)) : setBounds bounds [] = bounds :=
  rfl

@[simp] lemma setBounds_cons (bounds : List (RangeBound × Json)) (e : RangeBound × Json)
    (added : List (RangeBound × Json)) :
    setBounds bounds (e :: added) = setBounds (setBound bounds e.1 e.2) added := rfl

lemma lookup_cons (b k : RangeBound) (w : Json) (rest : List (RangeBound × Json)) :
    ((k, w) :: rest).lookup b = if b = k then some w else rest.lookup b := by
  rw [List.lookup_cons]
  by_cases h : b = k
  · simp [h]
  · have hne : (b == k) = false := by simpa using h
    simp [h, hne]

lemma lookup_setBound (bounds : List (RangeBound × Json)) (bound : RangeBound) (v : Json)
    (b : RangeBound) :
    (setBound bounds bound v).lookup b = if b = bound then some v else bounds.lookup b := by
  induction bounds with
  | nil => by_cases h : b = bound <;> simp [setBound, lookup_cons, h]
  | cons e rest ih =>
    obtain ⟨k, w⟩ := e
    by_cases hk : k = bound
    · subst hk
      by_cases h : b = k <;> simp [setBound, lookup_cons, h]
    · by_cases hb : b = k
      · subst hb
        simp [setBound, hk]
      · simp [setBound, hk, lookup_cons, hb, ih]

/-- **The last value of a bound wins**, and bounds that are not set again stay. -/
lemma lookup_setBounds (bounds added : List (RangeBound × Json)) (b : RangeBound) :
    (setBounds bounds added).lookup b = (added.reverse.lookup b).or (bounds.lookup b) := by
  induction added generalizing bounds with
  | nil => simp
  | cons e rest ih =>
    obtain ⟨k, w⟩ := e
    rw [setBounds_cons, ih, lookup_setBound, List.reverse_cons, List.lookup_append, Option.or_assoc]
    congr 1
    by_cases h : b = k <;> simp [lookup_cons, h]

lemma keys_setBound (bounds : List (RangeBound × Json)) (bound : RangeBound) (v : Json) :
    (setBound bounds bound v).map Prod.fst =
      if bound ∈ bounds.map Prod.fst then bounds.map Prod.fst
      else bounds.map Prod.fst ++ [bound] := by
  induction bounds with
  | nil => rfl
  | cons e rest ih =>
    obtain ⟨k, w⟩ := e
    by_cases hk : k = bound
    · simp [setBound, hk]
    · have hne : bound ≠ k := Ne.symm hk
      simp only [setBound, hk, if_false, List.map_cons, ih, List.mem_cons, hne, false_or]
      split <;> rfl

lemma nodup_setBound {bounds : List (RangeBound × Json)} (bound : RangeBound) (v : Json)
    (h : (bounds.map Prod.fst).Nodup) : ((setBound bounds bound v).map Prod.fst).Nodup := by
  rw [keys_setBound]
  exact nodup_concat_new bound h

lemma nodup_setBounds {bounds : List (RangeBound × Json)} (added : List (RangeBound × Json))
    (h : (bounds.map Prod.fst).Nodup) : ((setBounds bounds added).map Prod.fst).Nodup := by
  induction added generalizing bounds with
  | nil => exact h
  | cons e rest ih => exact ih (nodup_setBound e.1 e.2 h)

/-- Under distinct bounds the value of a bound is the one that stands beside it. -/
lemma lookup_eq_some_of_mem {bounds : List (RangeBound × Json)} {e : RangeBound × Json}
    (h : (bounds.map Prod.fst).Nodup) (he : e ∈ bounds) : bounds.lookup e.1 = some e.2 := by
  induction bounds with
  | nil => simp at he
  | cons k rest ih =>
    obtain ⟨b, w⟩ := k
    rw [List.map_cons, List.nodup_cons] at h
    rw [lookup_cons]
    rcases List.mem_cons.1 he with rfl | hrest
    · simp
    · have hkey : e.1 ∈ rest.map Prod.fst := List.mem_map_of_mem hrest
      have hne : e.1 ≠ b := fun hb => h.1 (hb ▸ hkey)
      rw [if_neg hne]
      exact ih h.2 hrest

lemma mem_of_lookup_eq_some {bounds : List (RangeBound × Json)} {b : RangeBound} {v : Json}
    (h : bounds.lookup b = some v) : (b, v) ∈ bounds := by
  induction bounds with
  | nil => simp at h
  | cons k rest ih =>
    obtain ⟨c, w⟩ := k
    rw [lookup_cons] at h
    split at h
    · next hb =>
      obtain rfl : w = v := by simpa using h
      exact hb ▸ List.mem_cons_self
    · exact List.mem_cons_of_mem _ (ih h)

lemma lookup_map (g : Json → Json) (bounds : List (RangeBound × Json)) (b : RangeBound) :
    (bounds.map fun e => (e.1, g e.2)).lookup b = (bounds.lookup b).map g := by
  induction bounds with
  | nil => rfl
  | cons k rest ih =>
    obtain ⟨c, w⟩ := k
    rw [List.map_cons, lookup_cons, lookup_cons, ih]
    split <;> rfl

/-! ## What the fold holds for a key -/

@[simp] lemma operatorKey_supersede (f g : Filter) :
    (supersede f g).operatorKey = g.operatorKey := by
  unfold supersede
  split <;> rfl

lemma supersede_range (field field' : String) (bounds added : List (RangeBound × Json)) :
    supersede (range field bounds) (range field' added) = range field (setBounds bounds added) :=
  rfl

/-- The fragments of a list, folded. -/
def folded (fragments : List Filter) : List Filter :=
  fragments.foldl foldIn []

lemma foldFragments_eq (fragments : List Filter) :
    foldFragments fragments = all (folded fragments) :=
  rfl

/-- A fragment put where there may be one already. -/
def joined : Option Filter → Filter → Filter
  | none, f => f
  | some g, f => supersede g f

/-- What is left of fragments that all have one key. -/
def collapse (fragments : List Filter) : Option Filter :=
  fragments.foldl (fun kept f => some (joined kept f)) none

/-- The first fragment of a key. -/
def withKey? (fragments : List Filter) (key : String) : Option Filter :=
  fragments.find? fun f => f.operatorKey == key

lemma withKey?_foldIn (fs : List Filter) (f : Filter) (key : String) :
    withKey? (foldIn fs f) key =
      if f.operatorKey = key then some (joined (withKey? fs key) f) else withKey? fs key := by
  induction fs with
  | nil => by_cases h : f.operatorKey = key <;> simp [foldIn, withKey?, joined, h]
  | cons g rest ih =>
    simp only [withKey?] at ih
    by_cases hg : g.operatorKey = f.operatorKey
    · by_cases h : f.operatorKey = key <;> simp [foldIn, withKey?, joined, hg, h]
    · by_cases hk : g.operatorKey = key
      · subst hk
        have hf : f.operatorKey ≠ g.operatorKey := Ne.symm hg
        simp [foldIn, withKey?, hg, hf]
      · have hne : (g.operatorKey == key) = false := by simpa using hk
        simp only [foldIn, hg, if_false, withKey?, List.find?_cons, hne, ih]

/-- What the fold holds for a key comes from the fragments of that key alone. -/
lemma withKey?_folded (fragments : List Filter) (key : String) :
    withKey? (folded fragments) key =
      collapse (fragments.filter fun f => f.operatorKey == key) := by
  -- The induction is on the fragments, for every list that was folded before them.
  have step : ∀ fs, withKey? (fragments.foldl foldIn fs) key =
      (fragments.filter fun f => f.operatorKey == key).foldl
        (fun kept f => some (joined kept f)) (withKey? fs key) := by
    induction fragments with
    | nil => simp
    | cons f rest ih =>
      intro fs
      rw [List.foldl_cons, ih, withKey?_foldIn]
      by_cases h : f.operatorKey = key <;> simp [h]
  exact step []

lemma keys_foldIn (fs : List Filter) (f : Filter) :
    (foldIn fs f).map operatorKey =
      if f.operatorKey ∈ fs.map operatorKey then fs.map operatorKey
      else fs.map operatorKey ++ [f.operatorKey] := by
  induction fs with
  | nil => simp [foldIn]
  | cons g rest ih =>
    by_cases hg : g.operatorKey = f.operatorKey
    · simp [foldIn, hg]
    · have hne : f.operatorKey ≠ g.operatorKey := Ne.symm hg
      simp only [foldIn, hg, if_false, List.map_cons, ih, List.mem_cons, hne, false_or]
      split <;> simp

lemma nodup_foldIn {fs : List Filter} (f : Filter) (h : (fs.map operatorKey).Nodup) :
    ((foldIn fs f).map operatorKey).Nodup := by
  rw [keys_foldIn]
  exact nodup_concat_new f.operatorKey h

/-- The fold has at most one fragment of a key. -/
lemma nodup_folded (fragments : List Filter) : ((folded fragments).map operatorKey).Nodup := by
  have step : ∀ fs : List Filter, (fs.map operatorKey).Nodup →
      ((fragments.foldl foldIn fs).map operatorKey).Nodup := by
    induction fragments with
    | nil => exact fun _ h => h
    | cons f rest ih => exact fun fs h => ih (foldIn fs f) (nodup_foldIn f h)
  exact step [] (by simp)

lemma withKey?_eq_some_of_mem {fs : List Filter} {f : Filter} (h : (fs.map operatorKey).Nodup)
    (hf : f ∈ fs) : withKey? fs f.operatorKey = some f := by
  induction fs with
  | nil => simp at hf
  | cons g rest ih =>
    rw [List.map_cons, List.nodup_cons] at h
    rcases List.mem_cons.1 hf with rfl | hrest
    · simp [withKey?]
    · have hne : g.operatorKey ≠ f.operatorKey := fun he =>
        h.1 (he ▸ List.mem_map_of_mem hrest)
      have hfalse : (g.operatorKey == f.operatorKey) = false := by simpa using hne
      have := ih h.2 hrest
      simpa only [withKey?, List.find?_cons, hfalse] using this

/-- **The fold holds, for each key, what is left of the fragments of that key.** -/
theorem mem_folded_iff (fragments : List Filter) (f : Filter) :
    f ∈ folded fragments ↔
      collapse (fragments.filter fun g => g.operatorKey == f.operatorKey) = some f := by
  rw [← withKey?_folded]
  constructor
  · exact withKey?_eq_some_of_mem (nodup_folded fragments)
  · exact List.mem_of_find?_eq_some

/-- What every fragment has, and superseding keeps, every fragment of the fold has. -/
theorem forall_mem_folded {P : Filter → Prop} {fragments : List Filter}
    (hsupersede : ∀ f g, P f → P g → P (supersede f g)) (h : ∀ f ∈ fragments, P f) :
    ∀ f ∈ folded fragments, P f := by
  have foldIn_keeps : ∀ (fs : List Filter) (g : Filter), (∀ f ∈ fs, P f) → P g →
      ∀ f ∈ foldIn fs g, P f := by
    intro fs g hfs hg
    induction fs with
    | nil => simpa [foldIn] using hg
    | cons k rest ih =>
      have hk := hfs k List.mem_cons_self
      have hrest := fun f hf => hfs f (List.mem_cons_of_mem k hf)
      unfold foldIn
      split
      · exact List.forall_mem_cons.2 ⟨hsupersede k g hk hg, hrest⟩
      · exact List.forall_mem_cons.2 ⟨hk, ih hrest⟩
  have step : ∀ fs : List Filter, (∀ f ∈ fs, P f) → ∀ f ∈ fragments.foldl foldIn fs, P f := by
    induction fragments with
    | nil => exact fun _ hfs => hfs
    | cons g rest ih =>
      rw [List.forall_mem_cons] at h
      exact fun fs hfs => ih h.2 (foldIn fs g) (foldIn_keeps fs g hfs h.1)
  exact step [] (by simp)

/-! ## Fragments of one key -/

/-- A fragment that is alone with its key stays. -/
lemma collapse_of_length_le_one {fragments : List Filter} (h : fragments.length ≤ 1) :
    collapse fragments = fragments.head? := by
  match fragments, h with
  | [], _ => rfl
  | [_], _ => rfl

/-- Ranges on one field leave the range of all their bounds. -/
lemma collapse_ranges (field : String) (e : RangeBound × Json) (bounds : List (RangeBound × Json)) :
    collapse ((e :: bounds).map fun b => range field [b]) =
      some (range field (setBounds [] (e :: bounds))) := by
  have step : ∀ kept, (bounds.map fun b => range field [b]).foldl
      (fun kept f => some (joined kept f)) (some (range field kept)) =
        some (range field (setBounds kept bounds)) := by
    induction bounds with
    | nil => exact fun _ => rfl
    | cons b rest ih =>
      intro kept
      rw [List.map_cons, List.foldl_cons, joined, supersede_range, ih]
      rfl
  exact step [e]

/-! ## The fragments of modifiers -/

/-- The fragment of one modifier of a field. -/
def ofModifier (schema : Schema) (typeName field : String) : Modifier → Filter
  | .not inner => .not (ofExpression schema typeName field inner)
  | .range bound v => range field [(bound, schema.coerce field v)]
  | .text how v => ofTextMatch schema field how v
  | .other operator v => passThrough field operator (schema.coerce field v)

lemma ofModifiers_eq_map (schema : Schema) (typeName field : String) (ms : List Modifier) :
    ofModifiers schema typeName field ms = ms.map (ofModifier schema typeName field) := by
  induction ms with
  | nil => rfl
  | cons m rest ih =>
    cases m <;> simp only [ofModifiers, ofModifier, ih, List.map_cons]

lemma ofClauses_eq_map (schema : Schema) (typeName : String) (cs : List Clause) :
    ofClauses schema typeName cs = cs.map (ofClause schema typeName) := by
  induction cs with
  | nil => rfl
  | cons c rest ih => rw [ofClauses, ih, List.map_cons]

end Filter

end CriteriaSearch

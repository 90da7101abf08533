import CriteriaSearch.Store.Sorting
import Mathlib.Data.List.Basic

/-!
# What a sort of documents comes to

A sort loses no document and shows none twice (`sortDocuments_perm`).  Where the order is consistent
on the documents it does not panic, and they come out in order, by insertion as by merging
(`exists_sortDocuments_of_consistent`).  It panics only for many documents that are not in a
consistent order (`sortDocuments_eq_error`).

Without keys all documents are level, and nothing is moved (`sortDocuments_nil`).
-/

namespace CriteriaSearch

/-! ## Two documents -/

/-- The order of two values, seen from the other one. -/
lemma Json.order?_swap (v w : Json) : w.order? v = (v.order? w).map Ordering.swap := by
  cases v <;> cases w <;>
    simp only [order?, Binary64.compareValue, Option.map_none, Option.map_some,
      Option.some.injEq]
  · exact Std.OrientedCmp.eq_swap
  · exact Std.OrientedCmp.eq_swap
  · exact Std.OrientedCmp.eq_swap

lemma SortKey.compare_swap (k : SortKey) (a b : StoredDocument) :
    k.compare b a = (k.compare a b).swap := by
  have hgetD (o : Option Ordering) : (o.map Ordering.swap).getD .eq = (o.getD .eq).swap := by
    cases o <;> rfl
  unfold compare
  cases k.direction with
  | asc =>
    dsimp only
    rw [Json.order?_swap (a.sortValue k.field) (b.sortValue k.field), hgetD]
  | desc =>
    dsimp only
    rw [Json.order?_swap (b.sortValue k.field) (a.sortValue k.field), hgetD]

/-- The order of two documents, seen from the other one. -/
lemma compareDocuments_swap (keys : List SortKey) (a b : StoredDocument) :
    compareDocuments keys b a = (compareDocuments keys a b).swap := by
  induction keys with
  | nil => rfl
  | cons k rest ih =>
    rw [compareDocuments, compareDocuments, k.compare_swap, ih, Ordering.swap_then]

/-- Whether a document may stand in front of another. -/
def NoLater (keys : List SortKey) (a b : StoredDocument) : Prop :=
  compareDocuments keys a b ≠ .gt

section Orders

variable {keys : List SortKey} {a b d : StoredDocument} {ds es sorted : List StoredDocument}

lemma noLater_iff_ne_lt : NoLater keys b a ↔ compareDocuments keys a b ≠ .lt := by
  rw [NoLater, compareDocuments_swap, ne_eq, Ordering.swap_eq_gt]

lemma noLater_total (keys : List SortKey) (a b : StoredDocument) :
    NoLater keys a b ∨ NoLater keys b a := by
  by_cases h : compareDocuments keys a b = .lt
  · left
    rw [NoLater, h]
    decide
  · exact .inr (noLater_iff_ne_lt.2 h)

/-- An order that is consistent on documents is so on some of them. -/
lemma Consistent.of_subset (h : Consistent keys ds) (hsubset : ∀ e ∈ es, e ∈ ds) :
    Consistent keys es :=
  fun a ha b hb c hc => h a (hsubset a ha) b (hsubset b hb) c (hsubset c hc)

/-! ## Insertion -/

lemma insertSorted_perm (keys : List SortKey) (d : StoredDocument) (ds : List StoredDocument) :
    (insertSorted keys d ds).Perm (d :: ds) := by
  induction ds with
  | nil => exact .refl _
  | cons last before ih =>
    rw [insertSorted]
    split
    · exact (ih.cons last).trans (.swap d last before)
    · exact .refl _

/-- Sorted documents, listed from the last to the first, stay so when one is taken in. -/
lemma pairwise_insertSorted (hconsistent : Consistent keys (d :: ds))
    (h : ds.Pairwise fun a b => NoLater keys b a) :
    (insertSorted keys d ds).Pairwise fun a b => NoLater keys b a := by
  induction ds with
  | nil => exact List.pairwise_singleton _ _
  | cons last before ih =>
    obtain ⟨hlast, hbefore⟩ := List.pairwise_cons.1 h
    rw [insertSorted]
    split
    · next hlt =>
      have hrest : Consistent keys (d :: before) := hconsistent.of_subset fun e he => by
        rcases List.mem_cons.1 he with rfl | he
        · exact List.mem_cons_self
        · exact List.mem_cons_of_mem _ (List.mem_cons_of_mem _ he)
      refine List.pairwise_cons.2 ⟨fun e he => ?_, ih hrest hbefore⟩
      rcases List.mem_cons.1 ((insertSorted_perm keys d before).mem_iff.1 he) with rfl | he
      · rw [NoLater, hlt]
        decide
      · exact hlast e he
    · next hnot =>
      have hbehind : NoLater keys last d := noLater_iff_ne_lt.2 hnot
      refine List.pairwise_cons.2 ⟨fun e he => ?_, h⟩
      rcases List.mem_cons.1 he with rfl | hmem
      · exact hbehind
      · exact hconsistent e (List.mem_cons_of_mem d he) last (by simp) d List.mem_cons_self
          (hlast e hmem) hbehind

lemma foldl_insertSorted_perm (keys : List SortKey) (ds es : List StoredDocument) :
    (ds.foldl (fun sorted d => insertSorted keys d sorted) es).Perm (ds ++ es) := by
  induction ds generalizing es with
  | nil => exact .refl _
  | cons d rest ih =>
    have hstep := ((insertSorted_perm keys d es).append_left rest).trans List.perm_middle
    exact (ih (insertSorted keys d es)).trans hstep

lemma pairwise_foldl_insertSorted (hconsistent : Consistent keys (ds ++ es))
    (h : es.Pairwise fun a b => NoLater keys b a) :
    (ds.foldl (fun sorted d => insertSorted keys d sorted) es).Pairwise
      fun a b => NoLater keys b a := by
  induction ds generalizing es with
  | nil => exact h
  | cons d rest ih =>
    have hperm := insertSorted_perm keys d es
    refine ih (hconsistent.of_subset fun e he => ?_)
      (pairwise_insertSorted (hconsistent.of_subset fun e he => ?_) h)
    · rcases List.mem_append.1 he with he | he
      · exact List.mem_cons_of_mem d (List.mem_append_left es he)
      · exact List.perm_middle.mem_iff.1 (List.mem_append_right rest (hperm.mem_iff.1 he))
    · exact List.perm_middle.mem_iff.1 (List.mem_append_right rest he)

lemma insertionSort_perm (keys : List SortKey) (ds : List StoredDocument) :
    (insertionSort keys ds).Perm ds := by
  have hfold := foldl_insertSorted_perm keys ds []
  rw [List.append_nil] at hfold
  exact (List.reverse_perm _).trans hfold

/-- Insertion sorts documents in a consistent order. -/
lemma pairwise_insertionSort (h : Consistent keys ds) :
    (insertionSort keys ds).Pairwise (NoLater keys) := by
  rw [insertionSort, List.pairwise_reverse]
  exact pairwise_foldl_insertSorted (by rwa [List.append_nil]) .nil

/-- Four documents stay as they are where no neighbours are in the wrong order. -/
lemma insertionSort_four {c : StoredDocument} (hab : NoLater keys a b) (hbc : NoLater keys b c)
    (hcd : NoLater keys c d) : insertionSort keys [a, b, c, d] = [a, b, c, d] := by
  rw [noLater_iff_ne_lt] at hab hbc hcd
  simp [insertionSort, insertSorted, hab, hbc, hcd]

/-! ## Merging -/

/-- A sort is in order where its comparison is consistent on the members. -/
lemma pairwise_mergeSort_of_mem {α : Type} {le : α → α → Bool} {l : List α}
    (htrans : ∀ a ∈ l, ∀ b ∈ l, ∀ c ∈ l, le a b = true → le b c = true → le a c = true)
    (htotal : ∀ a ∈ l, ∀ b ∈ l, (le a b || le b a) = true) :
    (l.mergeSort le).Pairwise fun a b => le a b = true := by
  have hattached : (l.attach.mergeSort fun a b => le a.1 b.1).map Subtype.val =
      l.mergeSort le := by
    have hmap := List.map_mergeSort (f := Subtype.val) (l := l.attach) (s := le)
      (r := fun a b => le a.1 b.1) fun _ _ _ _ => rfl
    rwa [List.attach_map_subtype_val] at hmap
  rw [← hattached, List.pairwise_map]
  exact List.pairwise_mergeSort (fun a b c => htrans a.1 a.2 b.1 b.2 c.1 c.2)
    (fun a b => htotal a.1 a.2 b.1 b.2) l.attach

/-- Merging sorts documents in a consistent order. -/
lemma pairwise_mergeDocuments (h : Consistent keys ds) :
    (mergeDocuments keys ds).Pairwise (NoLater keys) := by
  have hsorted : (mergeDocuments keys ds).Pairwise
      fun a b => (compareDocuments keys a b != .gt) = true := by
    apply pairwise_mergeSort_of_mem
    · intro a ha b hb c hc
      simpa only [bne_iff_ne] using h a ha b hb c hc
    · intro a _ b _
      rw [Bool.or_eq_true, bne_iff_ne, bne_iff_ne]
      exact noLater_total keys a b
  exact hsorted.imp fun hab => bne_iff_ne.1 hab

/-! ## Sorting -/

variable {sorting : Sorting}

lemma sortDocuments_of_length_le (h : ds.length ≤ insertionLimit) :
    sortDocuments sorting keys ds = .ok (insertionSort keys ds) :=
  if_pos h

/-- A sort that does not panic puts the documents in another order at most. -/
lemma sortDocuments_perm (h : sortDocuments sorting keys ds = .ok sorted) : sorted.Perm ds := by
  unfold sortDocuments at h
  split at h
  · exact Except.ok.inj h ▸ insertionSort_perm keys ds
  · split at h
    · next hsorted => exact Except.ok.inj h ▸ sorting.perm hsorted
    · cases h

/-- **Documents in a consistent order are sorted.** -/
theorem exists_sortDocuments_of_consistent (h : Consistent keys ds) :
    ∃ sorted, sortDocuments sorting keys ds = .ok sorted ∧ sorted.Pairwise (NoLater keys) := by
  unfold sortDocuments
  split
  · exact ⟨_, rfl, pairwise_insertionSort h⟩
  · rw [sorting.stable h]
    exact ⟨_, rfl, pairwise_mergeDocuments h⟩

/-- What a sort makes of documents in a consistent order is in order. -/
lemma pairwise_of_sortDocuments (h : sortDocuments sorting keys ds = .ok sorted)
    (hconsistent : Consistent keys sorted) : sorted.Pairwise (NoLater keys) := by
  have hbefore : Consistent keys ds :=
    hconsistent.of_subset fun d hd => (sortDocuments_perm h).mem_iff.2 hd
  obtain ⟨same, hsame, hpairwise⟩ : ∃ same, sortDocuments sorting keys ds = .ok same ∧
      same.Pairwise (NoLater keys) := exists_sortDocuments_of_consistent hbefore
  exact Except.ok.inj (hsame.symm.trans h) ▸ hpairwise

/-- **A sort fails by a panic, and only for many documents in no consistent order.** -/
theorem sortDocuments_eq_error {failure : StoreFailure}
    (h : sortDocuments sorting keys ds = .error failure) :
    failure = .panicked .inconsistentOrder ∧ insertionLimit < ds.length ∧
      ¬Consistent keys ds := by
  have hinconsistent : ¬Consistent keys ds := fun hconsistent => by
    obtain ⟨sorted, hsorted, -⟩ := exists_sortDocuments_of_consistent hconsistent
    cases h.symm.trans hsorted
  unfold sortDocuments at h
  split at h
  · cases h
  · next hmany =>
    split at h
    · cases h
    · exact ⟨(Except.error.inj h).symm, Nat.lt_of_not_le hmany, hinconsistent⟩

/-- A strict library panics at many documents in no consistent order. -/
lemma sortDocuments_strict (hmany : insertionLimit < ds.length)
    (hinconsistent : ¬Consistent keys ds) :
    sortDocuments .strict keys ds = .error (.panicked .inconsistentOrder) := by
  have hnone : Sorting.strict.sort? keys ds = none := if_neg hinconsistent
  rw [sortDocuments, if_neg (Nat.not_le_of_lt hmany), hnone]

lemma insertSorted_nil (d : StoredDocument) (ds : List StoredDocument) :
    insertSorted [] d ds = d :: ds := by
  cases ds <;> rfl

lemma insertionSort_nil (ds : List StoredDocument) : insertionSort [] ds = ds := by
  simp only [insertionSort, insertSorted_nil, List.foldl_flip_cons_eq_append, List.append_nil,
    List.map_id', List.reverse_reverse]

lemma mergeDocuments_nil (ds : List StoredDocument) : mergeDocuments [] ds = ds :=
  List.mergeSort_of_pairwise (List.pairwise_of_forall fun _ _ => rfl)

/-- Without keys nothing is moved. -/
lemma sortDocuments_nil (sorting : Sorting) (ds : List StoredDocument) :
    sortDocuments sorting [] ds = .ok ds := by
  have hconsistent : Consistent [] ds := fun _ _ _ _ _ _ _ _ hgt => by cases hgt
  unfold sortDocuments
  rw [insertionSort_nil, sorting.stable hconsistent, mergeDocuments_nil]
  split <;> rfl

end Orders

end CriteriaSearch

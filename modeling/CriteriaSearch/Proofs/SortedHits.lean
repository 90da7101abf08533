import CriteriaSearch.Proofs.QueryRequests
import Mathlib.Data.List.Basic
import Mathlib.Tactic.Common
import Mathlib.Tactic.Push

/-!
# Hits in order

A search in memory sorts what it matches before it cuts its window.  Values of different kinds do
not compare, nor does a value compare with one that is missing, and documents whose values do not
compare count as level.  That is a consistent order where all values of a field are of one kind, or
where none comes before another (`Json.Orderable`); with two values in order and a third one beside
them that compares with neither it is not, since the third is level with both.

So the hits are in the order that is asked for, whatever is stored, exactly where the values are
orderable, and then no search panics (`Memory.listsInOrder_iff_orderable`).
-/

namespace CriteriaSearch

namespace Json

/-! ## Values that compare -/

/-- Whether two values have an order: they are of one kind. -/
def Comparable (v w : Json) : Prop :=
  (v.order? w).isSome = true

/-- Whether values can be sorted: all of them compare, or none comes before another. -/
def Orderable (values : Json → Prop) : Prop :=
  (∀ v w, values v → values w → v.Comparable w) ∨
    ∀ v w, values v → values w → v.order? w ≠ some .lt

variable {u v w : Json}

lemma order?_eq_gt_iff : v.order? w = some .gt ↔ w.order? v = some .lt := by
  rw [order?_swap w v, Option.map_eq_some_iff]
  simp only [Ordering.swap_eq_gt, exists_eq_right]

lemma Comparable.symm (h : v.Comparable w) : w.Comparable v := by
  rw [Comparable, order?_swap, Option.isSome_map]
  exact h

lemma comparable_of_order? {o : Ordering} (h : v.order? w = some o) : v.Comparable w := by
  rw [Comparable, h]
  rfl

lemma Comparable.trans (h : u.Comparable v) (h' : v.Comparable w) : u.Comparable w := by
  unfold Comparable at h h' ⊢
  cases u <;> cases v <;> cases w <;> simp_all [order?]

/-- Among values of one kind the order is transitive. -/
lemma order?_ne_gt_trans (h : u.Comparable v) (h' : v.Comparable w) (hle : u.order? v ≠ some .gt)
    (hle' : v.order? w ≠ some .gt) : u.order? w ≠ some .gt := by
  unfold Comparable at h h'
  cases u <;> cases v <;> simp [order?] at h <;> cases w <;> simp [order?] at h'
  all_goals
    simp only [order?, Binary64.compareValue, ne_eq, Option.some.injEq,
      ← Ordering.isLE_iff_ne_gt] at hle hle' ⊢
    exact Std.TransCmp.isLE_trans hle hle'

/-- Values that cannot be sorted have two in order, and a third that compares with neither. -/
lemma exists_of_not_orderable {values : Json → Prop} (h : ¬Orderable values) :
    ∃ v w u, values v ∧ values w ∧ values u ∧ v.order? w = some .lt ∧
      ¬u.Comparable v ∧ ¬u.Comparable w := by
  rw [Orderable, not_or] at h
  obtain ⟨hcompare, horder⟩ := h
  push Not at hcompare horder
  obtain ⟨v, w, hv, hw, hlt⟩ := horder
  obtain ⟨x, y, hx, hy, hxy⟩ := hcompare
  have hvw : v.Comparable w := comparable_of_order? hlt
  -- One of two values that do not compare with each other does not compare with `v`.
  have hthird : ∃ u, values u ∧ ¬u.Comparable v := by
    by_cases hxv : x.Comparable v
    · exact ⟨y, hy, fun hyv => hxy (hxv.trans hyv.symm)⟩
    · exact ⟨x, hx, hxv⟩
  obtain ⟨u, hu, huv⟩ := hthird
  exact ⟨v, w, u, hv, hw, hu, hlt, huv, fun huw => huv (huw.trans hvw.symm)⟩

end Json

namespace SortDirection

variable {u v w : Json} {values : Json → Prop}

/-! ## Directions -/

/-- The order of two values in a direction. -/
def order? (d : SortDirection) (v w : Json) : Option Ordering :=
  match d with
  | .asc => v.order? w
  | .desc => w.order? v

/-- Whether a value may stand in front of another: no order says otherwise. -/
def admits (d : SortDirection) (v w : Json) : Bool :=
  d.order? v w != some .gt

lemma admits_iff (d : SortDirection) : d.admits v w = true ↔ d.order? v w ≠ some .gt := by
  rw [admits, bne_iff_ne]

lemma isSome_order?_iff (d : SortDirection) : (d.order? v w).isSome = true ↔ v.Comparable w := by
  cases d with
  | asc => exact Iff.rfl
  | desc => exact ⟨Json.Comparable.symm, Json.Comparable.symm⟩

lemma admits_of_not_comparable (d : SortDirection) (h : ¬v.Comparable w) :
    d.admits v w = true := by
  rw [← d.isSome_order?_iff, Option.not_isSome_iff_eq_none] at h
  rw [admits, h]
  rfl

/-- Of two values one may stand in front of the other. -/
lemma admits_total (d : SortDirection) (v w : Json) :
    (d.admits v w || d.admits w v) = true := by
  have hdirected (v w : Json) (h : v.order? w = some .gt) : w.order? v ≠ some .gt := by
    rw [Json.order?_eq_gt_iff.1 h]
    decide
  rw [Bool.or_eq_true, admits_iff, admits_iff, or_iff_not_imp_left, not_not]
  cases d with
  | asc => exact hdirected v w
  | desc => exact hdirected w v

/-- Among orderable values, what may stand in front goes through. -/
lemma admits_trans (d : SortDirection) (hvalues : Json.Orderable values) (hu : values u)
    (hv : values v) (hw : values w) (h : d.admits u v = true) (h' : d.admits v w = true) :
    d.admits u w = true := by
  rw [admits_iff] at h h' ⊢
  rcases hvalues with hcompare | hlevel
  · have huv := hcompare u v hu hv
    have hvw := hcompare v w hv hw
    cases d with
    | asc => exact Json.order?_ne_gt_trans huv hvw h h'
    | desc => exact Json.order?_ne_gt_trans hvw.symm huv.symm h' h
  · have hnot (v w : Json) (hv : values v) (hw : values w) : v.order? w ≠ some .gt :=
      fun hgt => hlevel w v hw hv (Json.order?_eq_gt_iff.1 hgt)
    cases d with
    | asc => exact hnot u w hu hw
    | desc => exact hnot w u hw hu

end SortDirection

/-! ## Sorting -/

section Documents

variable {k : SortKey} {values : Json → Prop} {ds : List StoredDocument}

/-- Under one key the values decide which document may stand in front. -/
lemma noLater_singleton_iff (k : SortKey) (a b : StoredDocument) :
    NoLater [k] a b ↔ k.direction.admits (a.sortValue k.field) (b.sortValue k.field) = true := by
  have hcompare : k.compare a b =
      (k.direction.order? (a.sortValue k.field) (b.sortValue k.field)).getD .eq := rfl
  rw [NoLater, compareDocuments, compareDocuments, hcompare, SortDirection.admits_iff]
  cases k.direction.order? (a.sortValue k.field) (b.sortValue k.field) with
  | none => simp
  | some o => cases o <;> simp

/-- Orderable values make a consistent order. -/
lemma consistent_of_orderable (hvalues : Json.Orderable values)
    (h : ∀ d ∈ ds, values (d.sortValue k.field)) : Consistent [k] ds := by
  intro a ha b hb c hc hab hbc
  refine (noLater_singleton_iff k a c).2 ?_
  exact k.direction.admits_trans hvalues (h a ha) (h b hb) (h c hc)
    ((noLater_singleton_iff k a b).1 hab) ((noLater_singleton_iff k b c).1 hbc)

end Documents

/-- The value of the one field of a document. -/
lemma resolve?_single {field : String} (h : field ≠ Schema.storedIdField) (v : Json) :
    Record.resolve? [(field, v)] field = some v := by
  simp [Record.resolve?, Record.get?, h]

lemma sortValue_single {field : String} (h : field ≠ Schema.storedIdField) (id : String)
    (v : Json) : (⟨id, [(field, v)]⟩ : StoredDocument).sortValue field = v := by
  rw [StoredDocument.sortValue, if_neg h, resolve?_single h, Option.getD_some]

namespace Memory

/-! ## Hits -/

/-- Whether the hits of an answer are in the order of a key: of two hits with values that compare,
the one in front does not have the value that belongs behind. -/
def ListsInOrder (m : Memory) (address : Address) (k : SortKey) (response : SearchResponse) :
    Prop :=
  response.ids.Pairwise fun i j => ∀ a b : Record, (m.documents address)[i]? = some a →
    (m.documents address)[j]? = some b → ∀ v w, a.resolve? k.field = some v →
      b.resolve? k.field = some w → k.direction.order? v w ≠ some .gt

variable {m : Memory} {address : Address} {q : Query} {k : SortKey} {values : Json → Prop}

/-- A search sorts orderable values without a panic. -/
lemma not_panicsSorting_of_orderable (hsort : q.sort = [k]) (hvalues : Json.Orderable values)
    (h : ∀ d ∈ (m.documents address).selected m.patterns q.filter, values (d.sortValue k.field)) :
    ¬m.PanicsSorting address q := by
  intro hpanics
  obtain ⟨-, hinconsistent⟩ := hpanics.inconsistent
  exact hinconsistent (hsort ▸ consistent_of_orderable hvalues h)

/-- Documents with orderable values are listed in order. -/
lemma listsInOrder_of_orderable (hfield : k.field ≠ Schema.storedIdField) (hsort : q.sort = [k])
    (hvalues : Json.Orderable values)
    (h : ∀ d ∈ (m.documents address).selected m.patterns q.filter, values (d.sortValue k.field))
    {response : SearchResponse} (hsearch : m.search address q = .ok response) :
    m.ListsInOrder address k response := by
  obtain ⟨ds, hds, hids⟩ := ids_eq_of_search hsearch
  have hperm := sortDocuments_perm hds
  rw [hsort] at hds
  have hconsistent : Consistent [k] ds :=
    (consistent_of_orderable hvalues h).of_subset fun d hd => hperm.mem_iff.1 hd
  have hwindow := ((pairwise_of_sortDocuments hds hconsistent).drop (i := q.start.getD 0)).take
    (i := q.size.getD defaultSize)
  have hmem : ∀ d ∈ (ds.drop (q.start.getD 0)).take (q.size.getD defaultSize),
      (m.documents address)[d.id]? = some d.body := by
    intro d hd
    have hselected := hperm.mem_iff.1 (List.mem_of_mem_drop (List.mem_of_mem_take hd))
    exact ((Documents.mem_selected _ _ d).1 hselected).1
  have hvalue (d : StoredDocument) {body : Record} {v : Json} (hbody : d.body = body)
      (hv : body.resolve? k.field = some v) : d.sortValue k.field = v := by
    rw [StoredDocument.sortValue, if_neg hfield, hbody, hv, Option.getD_some]
  rw [ListsInOrder, hids, List.pairwise_map]
  refine hwindow.imp_of_mem fun {d e} hd he hnoLater a b ha hb v w hv hw => ?_
  have hda : d.body = a := Option.some.inj ((hmem d hd).symm.trans ha)
  have heb : e.body = b := Option.some.inj ((hmem e he).symm.trans hb)
  rw [noLater_singleton_iff, hvalue d hda hv, hvalue e heb hw] at hnoLater
  exact (k.direction.admits_iff).1 hnoLater

/-- A store with four documents of one field. -/
def ofFour (field : String) (a b c d : Json) : Memory :=
  { documents := fun _ => ((((∅ : Documents).insert "a" [(field, a)]).insert "b"
      [(field, b)]).insert "c" [(field, c)]).insert "d" [(field, d)] }

lemma selected_ofFour (field : String) (a b c d : Json) (address : Address) :
    ((ofFour field a b c d).documents address).selected (ofFour field a b c d).patterns .matchAll =
      [⟨"a", [(field, a)]⟩, ⟨"b", [(field, b)]⟩, ⟨"c", [(field, c)]⟩, ⟨"d", [(field, d)]⟩] := by
  have hmatching := Documents.matching_matchAll ((ofFour field a b c d).documents address)
    (ofFour field a b c d).patterns
  rw [← Documents.eq_selected_of_matching hmatching]
  rfl

/-- The search for everything in the order of a key. -/
def allBy (address : Address) (k : SortKey) : Query :=
  { typeName := address.typeName, sort := [k] }

/-- With two values between them that compare with neither, two values stay in the wrong order. -/
lemma not_listsInOrder_ofFour (hfield : k.field ≠ Schema.storedIdField) (address : Address)
    {first last other : Json} (hwrong : k.direction.order? first last = some .gt)
    (hfirst : ¬first.Comparable other) (hlast : ¬other.Comparable last) :
    ∃ response,
      (ofFour k.field first other other last).search address (allBy address k) = .ok response ∧
      ¬(ofFour k.field first other other last).ListsInOrder address k response := by
  have hselected := selected_ofFour k.field first other other last address
  obtain ⟨response, hsearch⟩ : ∃ response,
      (ofFour k.field first other other last).search address (allBy address k) = .ok response :=
    ⟨_, rfl⟩
  have hids : response.ids = ["a", "b", "c", "d"] := by
    obtain ⟨ds, hds, hids⟩ := ids_eq_of_search hsearch
    have hother := k.direction.admits_total other other
    rw [Bool.or_self] at hother
    have hfour : sortDocuments (ofFour k.field first other other last).sorting [k]
        [⟨"a", [(k.field, first)]⟩, ⟨"b", [(k.field, other)]⟩, ⟨"c", [(k.field, other)]⟩,
          ⟨"d", [(k.field, last)]⟩] = .ok _ :=
      (sortDocuments_of_length_le (by simp [insertionLimit])).trans
        (congrArg Except.ok (insertionSort_four ((noLater_singleton_iff _ _ _).2 ?_)
          ((noLater_singleton_iff _ _ _).2 ?_) ((noLater_singleton_iff _ _ _).2 ?_)))
    · rw [show (allBy address k).filter = .matchAll from rfl, hselected] at hds
      obtain rfl := Except.ok.inj (hds.symm.trans hfour)
      exact hids
    · simpa only [sortValue_single hfield] using k.direction.admits_of_not_comparable hfirst
    · simpa only [sortValue_single hfield] using hother
    · simpa only [sortValue_single hfield] using k.direction.admits_of_not_comparable hlast
  refine ⟨response, hsearch, fun hlists => ?_⟩
  rw [ListsInOrder, hids] at hlists
  have hfront := resolve?_single hfield first
  have hback := resolve?_single hfield last
  have hends := (List.pairwise_cons.1 hlists).1 "d" (by simp)
  exact hends _ _ rfl rfl first last hfront hback hwrong

/-- **The hits of a search are in the order that is asked for, whatever is stored, exactly where the
values of the field are orderable; and a search for such values does not panic.**  A value that is
missing counts as null. -/
theorem listsInOrder_iff_orderable (k : SortKey) (hfield : k.field ≠ Schema.storedIdField)
    (values : Json → Prop) :
    ((∀ (m : Memory) (address : Address) (q : Query) (response : SearchResponse), q.sort = [k] →
      (∀ d ∈ (m.documents address).selected m.patterns q.filter, values (d.sortValue k.field)) →
      m.search address q = .ok response → m.ListsInOrder address k response) ↔
    Json.Orderable values) ∧
    (Json.Orderable values → ∀ (m : Memory) (address : Address) (q : Query), q.sort = [k] →
      (∀ d ∈ (m.documents address).selected m.patterns q.filter, values (d.sortValue k.field)) →
      ¬m.PanicsSorting address q) := by
  refine ⟨⟨?_, ?_⟩, fun hvalues m address q hsort h =>
    not_panicsSorting_of_orderable hsort hvalues h⟩
  · intro hlists
    by_contra hnot
    obtain ⟨v, w, u, hv, hw, hu, hlt, huv, huw⟩ := Json.exists_of_not_orderable hnot
    have hvu : ¬v.Comparable u := fun h => huv h.symm
    have hwu : ¬w.Comparable u := fun h => huw h.symm
    -- The value that belongs behind is stored in front.
    obtain ⟨first, last, hfirst, hlast, hwrong, hfirstOther, hotherLast⟩ : ∃ first last,
        values first ∧ values last ∧ k.direction.order? first last = some .gt ∧
          ¬first.Comparable u ∧ ¬u.Comparable last := by
      cases k.direction with
      | asc => exact ⟨w, v, hw, hv, Json.order?_eq_gt_iff.2 hlt, hwu, huv⟩
      | desc => exact ⟨v, w, hv, hw, Json.order?_eq_gt_iff.2 hlt, hvu, huw⟩
    let address : Address := ⟨"", ""⟩
    obtain ⟨response, hsearch, hnotLists⟩ :=
      not_listsInOrder_ofFour hfield address hwrong hfirstOther hotherLast
    refine hnotLists (hlists _ address _ response rfl ?_ hsearch)
    rw [show (allBy address k).filter = .matchAll from rfl, selected_ofFour]
    simp [sortValue_single hfield, hfirst, hlast, hu]
  · intro hvalues m address q response hsort h hsearch
    exact listsInOrder_of_orderable hfield hsort hvalues h hsearch

/-- Texts, the largest first. -/
theorem listsInOrder_iff_orderable_texts :
    let address : Address := ⟨"app", "item"⟩
    let m := ((({} : Memory).put address "a" [("t", .str "x")]).put address "b"
      [("t", .str "z")]).put address "c" [("t", .str "y")]
    let k : SortKey := ⟨"t", .desc⟩
    let q : Query := { typeName := "item", sort := [k] }
    ∃ response, m.search address q = .ok response ∧
      response.ids = ["b", "c", "a"] ∧ m.ListsInOrder address k response := by
  intro address m k q
  let isText : Json → Prop := fun v => ∃ s, v = .str s
  have horderable : Json.Orderable isText := by
    left
    rintro _ _ ⟨s, rfl⟩ ⟨t, rfl⟩
    rfl
  have hfield : k.field ≠ Schema.storedIdField := by
    decide
  have hselected : (m.documents address).selected m.patterns q.filter =
      [⟨"a", [("t", .str "x")]⟩, ⟨"b", [("t", .str "z")]⟩, ⟨"c", [("t", .str "y")]⟩] := by
    cbv
  have htexts : ∀ d ∈ (m.documents address).selected m.patterns q.filter,
      isText (d.sortValue k.field) := by
    rw [hselected]
    simp [isText, k, sortValue_single hfield]
  have hids : (m.search address q).map SearchResponse.ids = .ok ["b", "c", "a"] := by
    cbv
  obtain ⟨response, hsearch, hresponse⟩ := exists_of_map_eq_ok hids
  have hlists := (listsInOrder_iff_orderable k hfield isText).1.2 horderable
  exact ⟨response, hsearch, hresponse, hlists m address q response rfl htexts hsearch⟩

/-- Two documents without the field keep a larger number in front of a smaller one. -/
theorem lists_larger_first :
    let address : Address := ⟨"app", "item"⟩
    let m := (((({} : Memory).put address "a" [("n", .num (.int 2))]).put address "b" []).put
      address "c" []).put address "d" [("n", .num (.int 1))]
    let k : SortKey := ⟨"n", .asc⟩
    let q : Query := { typeName := "item", sort := [k] }
    ∃ response, m.search address q = .ok response ∧
      response.ids = ["a", "b", "c", "d"] ∧ ¬m.ListsInOrder address k response := by
  intro address m k q
  have hsearched : (m.search address q).map SearchResponse.ids = .ok ["a", "b", "c", "d"] := by
    cbv
  obtain ⟨response, hsearch, hids⟩ := exists_of_map_eq_ok hsearched
  refine ⟨response, hsearch, hids, fun hlists => ?_⟩
  rw [ListsInOrder, hids] at hlists
  have hends := (List.pairwise_cons.1 hlists).1 "d" (by simp) [("n", .num (.int 2))]
    [("n", .num (.int 1))] (by cbv) (by cbv) (.num (.int 2)) (.num (.int 1)) (by cbv) (by cbv)
  exact hends (by decide +kernel)

end Memory

end CriteriaSearch

import CriteriaSearch.Store.Evaluation

/-!
# Sorting stored documents

The first key of an order that tells two documents apart decides.  Values that do not compare are
level, missing ones with all others, so that being no later need not be transitive: the order of
documents is consistent or not, depending on the documents (`Consistent`).

Up to twenty documents are sorted by insertion, whatever their order is like.  More are sorted by a
merge that is stable where their order is consistent.  Where it is not, they may come out in any
order, or the sort finds it out and panics.  What happens then is left to the library that sorts
(`Sorting`).
-/

namespace CriteriaSearch

/-- A stored document. -/
structure StoredDocument where
  id : String
  body : Record

/-! ## Orders -/

/-- The value of a document under a key of an order. -/
def StoredDocument.sortValue (d : StoredDocument) (field : String) : Json :=
  if field = Schema.storedIdField then .str d.id
  else (d.body.resolve? field).getD .null

/-- The order of two documents under one key; values that do not compare are level. -/
def SortKey.compare (k : SortKey) (a b : StoredDocument) : Ordering :=
  let left := a.sortValue k.field
  let right := b.sortValue k.field
  ((match k.direction with
    | .asc => left.order? right
    | .desc => right.order? left)).getD .eq

/-- The order of two documents: the first key that tells them apart decides. -/
def compareDocuments : List SortKey → StoredDocument → StoredDocument → Ordering
  | [], _, _ => .eq
  | k :: rest, a, b => (k.compare a b).then (compareDocuments rest a b)

/-- Among the documents, being no later is transitive. -/
def Consistent (keys : List SortKey) (ds : List StoredDocument) : Prop :=
  ∀ a ∈ ds, ∀ b ∈ ds, ∀ c ∈ ds,
    compareDocuments keys a b ≠ .gt → compareDocuments keys b c ≠ .gt →
      compareDocuments keys a c ≠ .gt

instance (keys : List SortKey) (ds : List StoredDocument) : Decidable (Consistent keys ds) :=
  inferInstanceAs (Decidable (∀ a ∈ ds, ∀ b ∈ ds, ∀ c ∈ ds,
    compareDocuments keys a b ≠ .gt → compareDocuments keys b c ≠ .gt →
      compareDocuments keys a c ≠ .gt))

/-! ## Few documents -/

/-- Takes a document into sorted ones that are listed from the last to the first: it goes past those
that it comes before. -/
def insertSorted (keys : List SortKey) (d : StoredDocument) :
    List StoredDocument → List StoredDocument
  | [] => [d]
  | last :: before =>
    if compareDocuments keys d last = .lt then last :: insertSorted keys d before
    else d :: last :: before

/-- The documents sorted one by one from the front. -/
def insertionSort (keys : List SortKey) (ds : List StoredDocument) : List StoredDocument :=
  (ds.foldl (fun sorted d => insertSorted keys d sorted) []).reverse

/-- Up to how many documents are sorted by insertion. -/
def insertionLimit : Nat := 20

/-! ## Many documents -/

/-- The documents merged; level ones keep their places. -/
def mergeDocuments (keys : List SortKey) (ds : List StoredDocument) : List StoredDocument :=
  ds.mergeSort fun a b => compareDocuments keys a b != .gt

/-- A library that sorts many documents.  It is held to a stable sort of consistent ones.  Of others
it loses none if it does not panic, which `none` stands for. -/
structure Sorting where
  sort? : List SortKey → List StoredDocument → Option (List StoredDocument)
  perm : ∀ {keys ds sorted}, sort? keys ds = some sorted → sorted.Perm ds
  stable : ∀ {keys ds}, Consistent keys ds → sort? keys ds = some (mergeDocuments keys ds)

namespace Sorting

/-- The library that merges whatever the order is like. -/
def lenient : Sorting where
  sort? keys ds := some (mergeDocuments keys ds)
  perm h := Option.some.inj h ▸ List.mergeSort_perm ..
  stable _ := rfl

/-- The library that panics at every inconsistent order. -/
def strict : Sorting where
  sort? keys ds := if Consistent keys ds then some (mergeDocuments keys ds) else none
  perm h := by
    split at h
    · exact Option.some.inj h ▸ List.mergeSort_perm ..
    · cases h
  stable h := if_pos h

instance : Inhabited Sorting := ⟨lenient⟩

end Sorting

/-- The documents in an order. -/
def sortDocuments (sorting : Sorting) (keys : List SortKey) (ds : List StoredDocument) :
    Except StoreFailure (List StoredDocument) :=
  if ds.length ≤ insertionLimit then .ok (insertionSort keys ds)
  else
    match sorting.sort? keys ds with
    | some sorted => .ok sorted
    | none => .error (.panicked .inconsistentOrder)

end CriteriaSearch

import CriteriaSearch.SearchBody.Reader
import CriteriaSearch.Store.Session
import CriteriaSearch.Store.Sorting
import Std.Data.TreeMap

/-!
# The in-memory store

Keeps the documents of each address in the order of their identifiers and answers every request by
walking them.  A search without a size finds ten documents at most; statistics are taken over all
matching documents, whatever the window; facets are not computed.

Documents that come without an identifier get a fresh one, which no stored document of their type
has.

Patterns are compiled and many documents are sorted by libraries that the store is built with.  No
request changes them, and statements about every store are statements about every such library.
-/

namespace CriteriaSearch

/-- Documents by identifier. -/
abbrev Documents := Std.TreeMap String Record

/-- The state of the store: the documents at each address, how many identifiers were issued, and the
libraries that it is built with. -/
structure Memory where
  documents : Address → Documents := fun _ => ∅
  issued : Nat := 0
  patterns : PatternLibrary := .unlimited
  sorting : Sorting := .lenient

namespace Documents

/-- The documents in the order of their identifiers. -/
def toDocuments (ds : Documents) : List StoredDocument :=
  ds.toList.map fun e => ⟨e.1, e.2⟩

/-- The documents that a filter holds of, in the order of their identifiers. -/
def matching (ds : Documents) (patterns : PatternLibrary) (f : Filter) :
    Except StoreFailure (List StoredDocument) :=
  ds.toDocuments.filterM fun d => f.holds patterns d.id d.body

end Documents

/-! ## Statistics -/

/-- The numbers that a field has over documents. -/
def fieldNumbers (ds : List StoredDocument) (field : String) : List Binary64 :=
  ds.filterMap fun d =>
    match d.body.resolve? field with
    | some (.num n) => some n.toBinary64
    | _ => none

/-- A statistic of numbers; none where there is no finite one. -/
def Metric.ofNumbers? (metric : Metric) (xs : List Binary64) : Option Binary64 :=
  match metric, xs with
  | .sum, xs => Binary64.sum? xs
  | .avg, [] => none
  | .avg, xs => Binary64.mean? xs
  | .min, [] => none
  | .min, x :: rest => some (rest.foldl Binary64.min x)
  | .max, [] => none
  | .max, x :: rest => some (rest.foldl Binary64.max x)

/-- The result of one statistic. -/
def Aggregation.result (a : Aggregation) (ds : List StoredDocument) : Json :=
  .obj [("value", .orNull
    ((a.metric.ofNumbers? (fieldNumbers ds a.field)).map fun x => .num (.float x)))]

/-- The results of statistics by name. -/
def aggregate (ds : List StoredDocument) (as : List Aggregation) : Json :=
  .obj (Record.ofEntries (as.map fun a => (a.name, a.result ds)))

/-! ## Changes -/

/-- Writes the entries of a partial document over a record; objects that meet are merged. -/
def Record.merge (target : Record) : List (String × Json) → Record
  | [] => target
  | (key, .obj inner) :: rest =>
    (match target.get? key with
      | some (.obj existing) => target.insert key (.obj (Record.merge existing inner))
      | _ => target.insert key (.obj inner)).merge rest
  | (key, v) :: rest => (target.insert key v).merge rest

/-- A number in lower-case hexadecimal, in twelve places. -/
def twelveHexDigits (n : Nat) : List Char :=
  let digits := Nat.toDigits 16 n
  List.replicate (12 - digits.length) '0' ++ digits

/-- The identifier of a number: the form is that of a random universally unique one. -/
def issuedId (n : Nat) : String :=
  String.ofList ("00000000-0000-4000-8000-".toList ++ twelveHexDigits n)

namespace Memory

/-- The first number from `n` on whose identifier no document has; `tries` numbers are tried. -/
def freshFrom (ds : Documents) (n : Nat) : Nat → Nat
  | 0 => n
  | tries + 1 => if ds.contains (issuedId n) then freshFrom ds (n + 1) tries else n

/-- The documents at an address replaced. -/
def setDocuments (m : Memory) (address : Address) (ds : Documents) : Memory :=
  { m with documents := fun a => if a = address then ds else m.documents a }

/-- The identifier to use: the given one, or a fresh one. -/
def chooseId (m : Memory) (address : Address) : Option String → String × Memory
  | some id => (id, m)
  | none =>
    let ds := m.documents address
    let n := freshFrom ds (m.issued + 1) ds.size
    (issuedId n, { m with issued := n })

/-- Stores a document. -/
def put (m : Memory) (address : Address) (id : String) (body : Record) : Memory :=
  m.setDocuments address ((m.documents address).insert id body)

/-- Takes a document out. -/
def remove (m : Memory) (address : Address) (id : String) : Memory :=
  m.setDocuments address ((m.documents address).erase id)

/-- Merges a partial document into a stored one. -/
def mergeInto (m : Memory) (address : Address) (id : String) (partialSource : Record) :
    Except StoreFailure Memory :=
  match (m.documents address)[id]? with
  | some body => .ok (m.put address id (body.merge partialSource))
  | none => .error (.documentMissing address.typeName id)

/-- One operation of a bulk request. -/
def applyOperation (m : Memory) (address : Address) : BulkOperation → BulkItem × Memory
  | .index id source =>
    let (id, m) := m.chooseId address id
    (⟨some id, none⟩, m.put address id source)
  | .create id source =>
    let (id, m) := m.chooseId address id
    if (m.documents address).contains id then
      (⟨some id, some (StoreFailure.documentExists address.typeName id).message⟩, m)
    else (⟨some id, none⟩, m.put address id source)
  | .update id partialSource =>
    match m.mergeInto address id partialSource with
    | .ok m => (⟨some id, none⟩, m)
    | .error failure => (⟨some id, some failure.message⟩, m)
  | .delete id => (⟨some id, none⟩, m.remove address id)

/-- The operations of a bulk request, one after another. -/
def applyAll (m : Memory) (address : Address) : List BulkOperation → List BulkItem × Memory
  | [] => ([], m)
  | op :: rest =>
    let (item, m) := m.applyOperation address op
    let (items, m) := m.applyAll address rest
    (item :: items, m)

/-! ## Answers -/

/-- The number of documents that a search without a size finds at most. -/
def defaultSize : Nat := 10

/-- The answer for each identifier. -/
def multiGet (m : Memory) (address : Address) (ids : List String) : List MultiGetItem :=
  ids.map fun id =>
    let source := (m.documents address)[id]?
    ⟨id, source.isSome, source⟩

/-- The answer to a search. -/
def search (m : Memory) (address : Address) (q : Query) : Except StoreFailure SearchResponse := do
  let matched ← (m.documents address).matching m.patterns q.filter
  let sorted ← sortDocuments m.sorting q.sort matched
  let window := (sorted.drop (q.start.getD 0)).take (q.size.getD defaultSize)
  return {
    hits := some ⟨matched.length, window.map fun d =>
      ⟨d.id, if q.fetchSource then some d.body else none⟩⟩
    aggregations := q.aggregations.map (aggregate sorted)
    facets := none }

/-- The number of documents that match. -/
def count (m : Memory) (address : Address) (q : Query) : Except StoreFailure Nat := do
  return (← (m.documents address).matching m.patterns q.filter).length

/-- The store without the documents that match. -/
def deleteByQuery (m : Memory) (address : Address) (q : Query) : Except StoreFailure Memory := do
  let matched ← (m.documents address).matching m.patterns q.filter
  return m.setDocuments address
    (matched.foldl (fun ds d => ds.erase d.id) (m.documents address))

/-- Keeps the state where a change failed. -/
def settle (m : Memory) : Except StoreFailure Memory → Except StoreFailure Unit × Memory
  | .ok changed => (.ok (), changed)
  | .error failure => (.error failure, m)

/-- Answers a request. -/
def answer (address : Address) : (request : Request) → Memory →
    Except StoreFailure request.Answer × Memory
  | .multiGet ids, m => (.ok (m.multiGet address ids), m)
  | .search q, m => (m.search address q, m)
  | .rawSearch body, m => ((SearchBody.toQuery? address.typeName body).bind (m.search address), m)
  | .update id partialSource, m => m.settle (m.mergeInto address id partialSource)
  | .deleteByQuery q, m => m.settle (m.deleteByQuery address q)
  | .count q, m => (m.count address q, m)
  | .bulk operations, m =>
    let (items, m) := m.applyAll address operations
    (.ok ⟨items⟩, m)

/-- The in-memory store as a client. -/
def client : Client Memory := ⟨answer⟩

end Memory

end CriteriaSearch

import CriteriaSearch.Json.Printer

/-!
# Causes of failure

Every operation of the library fails with a `SearchError`.  The constructors are causes, so that
statements about failure speak of what went wrong; the wording that callers see is in the
`message` functions and nowhere else.

Compilation errors, the missing-statistics error and document errors arise before any request
leaves the library.  Store failures come from a store, or from reading what it answered.

A panic is no error that a caller could look at: it ends the caller's run as well.  It stands among
the causes so that statements about results also say when there is none.
-/

namespace CriteriaSearch

/-- Why criteria could not be read. -/
inductive CompilationError where
  | criteriaNotObject (found : Json)
  | clauseNotObject (found : Json)
  | likeNotObject
  | sortNotObject (found : Json)
  | windowNotUnsigned (key : String) (found : Json)
  | notFieldName (key : String) (found : Json)

/-- Why a document could not be written. -/
inductive DocumentError where
  | notObject (found : Json)
  | notSerialized (identity : String) (found : Json)
  | notDate (field : String) (found : Json)

/-- Why a run ends without a result. -/
inductive Panic where
  | inconsistentOrder
  | additionOverflow
  deriving DecidableEq

/-- Why a store could not answer. -/
inductive StoreFailure where
  | unsupportedOperator (operator field : String)
  | unsupportedBody (what : String)
  | documentMissing (typeName id : String)
  | documentExists (typeName id : String)
  | notIndexed (id : Option String) (reason : String)
  | versionConflict (id : String)
  | status (code : Nat) (reason body : String)
  | undecodable
  | reported (text : String)
  | patternRefused (reason : String)
  | panicked (cause : Panic)

/-- Why a connection could not be set up. -/
inductive ConnectionError where
  | noHost
  | invalidHost (url cause : String)
  | unexpectedStatus (code : Nat) (reason index : String)
  | indexNotCreated (failure : StoreFailure)

/-- Why an operation failed. -/
inductive SearchError where
  | compilation (cause : CompilationError)
  | invalidGroupBy
  | notFound (collection : String)
  | store (failure : StoreFailure)
  | serialization
  | invalidDocument (cause : DocumentError)
  | initialization (cause : ConnectionError)
  | panicked (cause : Panic)

namespace CompilationError

/-- What is wrong with the criteria. -/
def message : CompilationError → String
  | criteriaNotObject v => "criteria must be an object, got " ++ v.text
  | clauseNotObject v => "where clause must be an object, got " ++ v.text
  | likeNotObject => "like clause must map fields to patterns"
  | sortNotObject v => "sort must map fields to directions, got " ++ v.text
  | windowNotUnsigned key v => key ++ " must be a non-negative integer, got " ++ v.text
  | notFieldName key v => key ++ " must list field names, got " ++ v.text

end CompilationError

namespace DocumentError

/-- What is wrong with the document. -/
def message : DocumentError → String
  | notObject v => "documents must be objects, got " ++ v.text
  | notSerialized identity v => identity ++ " must serialize to an object, got " ++ v.text
  | notDate field v => field ++ " is not a valid date: " ++ v.text

end DocumentError

/-- A status code with its reason phrase. -/
def statusText (code : Nat) (reason : String) : String :=
  toString code ++ " " ++ reason

namespace Panic

/-- What a panic leaves on the error output. -/
def message : Panic → String
  | inconsistentOrder =>
    "user-provided comparison function does not correctly implement a total order"
  | additionOverflow => "attempt to add with overflow"

end Panic

namespace StoreFailure

/-- What went wrong in the store. -/
def message : StoreFailure → String
  | unsupportedOperator operator field =>
    "in-memory search does not support operator `" ++ operator ++ "` on `" ++ field ++ "`"
  | unsupportedBody what => "in-memory raw search does not support " ++ what
  | documentMissing typeName id => "document missing: [" ++ typeName ++ "][" ++ id ++ "]"
  | documentExists typeName id => "document already exists: [" ++ typeName ++ "][" ++ id ++ "]"
  | notIndexed id reason =>
    "failed to index document " ++ id.getD "<generated>" ++ ": " ++ reason
  | versionConflict id => "version conflict on " ++ id
  | status code reason body => statusText code reason ++ ": " ++ body
  | undecodable => "error decoding response body"
  | reported text => text
  | patternRefused reason => reason
  | panicked cause => cause.message

end StoreFailure

namespace ConnectionError

/-- What went wrong on the way to the server. -/
def message : ConnectionError → String
  | noHost => "no Elasticsearch host configured"
  | invalidHost url cause => "invalid host " ++ url ++ ": " ++ cause
  | unexpectedStatus code reason index =>
    "unexpected status " ++ statusText code reason ++ " while checking index " ++ index
  | indexNotCreated failure => "Store error: " ++ failure.message

end ConnectionError

namespace SearchError

/-- The text that callers see. -/
def message : SearchError → String
  | compilation cause => "Compilation error: " ++ cause.message
  | invalidGroupBy =>
    "Invalid group by: aggregate queries require at least one of sum, average, min or max"
  | notFound collection => "No matching documents found in " ++ collection
  | store failure => "Store error: " ++ failure.message
  | serialization => "Serialization error"
  | invalidDocument cause => "Invalid document: " ++ cause.message
  | initialization cause => "Initialization error: " ++ cause.message
  | panicked cause => cause.message

end SearchError

end CriteriaSearch

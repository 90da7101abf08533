import CriteriaSearch.Collection.Operations
import Mathlib.Order.Lattice
import Mathlib.Tactic.Common

/-!
# Updates and their batches

A batch takes up several updates at a time.  What was taken up first is sent first, and a failure
ends the batch whatever else is taken up, so how many updates are taken up at a time makes no
difference to what is sent: it is as if each was sent after the one before
(`Collection.sendUpdates_eq`).  A batch is its first update and then, if that succeeds, the batch of
the others (`Collection.updateBatch_cons`).

An update of a collection is a search and then what it does with the documents that the search
captured (`Collection.update_eq`).
-/

namespace CriteriaSearch.Collection

variable (c : Collection) (partialSource : Record)

/-! ## Batches -/

/-- The updates of a batch, sent one after another up to the first that fails. -/
def sendEach : List String → Session UpdateBatch
  | [] => pure {}
  | id :: rest => do
    match ← Session.attempt c.address (.update id partialSource) with
    | .error failure => return { failure := some failure }
    | .ok _ =>
      let batch ← sendEach rest
      return { batch with completed := id :: batch.completed }

lemma sendUpdates_nil (limit : Nat) : c.sendUpdates partialSource limit [] [] = pure {} := by
  rw [sendUpdates]
  split
  · rfl
  · next hcons => cases hcons.symm.trans List.take_nil

/-- What is first in the queue is sent. -/
lemma sendUpdates_of_queue {limit : Nat} {takenUp waiting : List String} {id : String}
    {rest : List String} (h : takenUp ++ waiting.take (limit - takenUp.length) = id :: rest) :
    c.sendUpdates partialSource limit takenUp waiting = do
      match ← Session.attempt c.address (.update id partialSource) with
      | .error failure => return { failure := some failure }
      | .ok _ =>
        let batch ← c.sendUpdates partialSource limit rest
          (waiting.drop (limit - takenUp.length))
        return { batch with completed := id :: batch.completed } := by
  rw [sendUpdates]
  split
  · next hnil => cases hnil.symm.trans h
  · next id' rest' hcons =>
    obtain ⟨rfl, rfl⟩ := List.cons.inj (hcons.symm.trans h)
    rfl

/-- Where nothing is in the queue, nothing is left. -/
lemma eq_nil_of_queue {limit : Nat} (hlimit : 1 ≤ limit) {takenUp waiting : List String}
    (h : takenUp ++ waiting.take (limit - takenUp.length) = []) : takenUp = [] ∧ waiting = [] := by
  obtain ⟨rfl, htake⟩ := List.append_eq_nil_iff.1 h
  refine ⟨rfl, ?_⟩
  rcases List.take_eq_nil_iff.1 htake with hzero | hnil
  · rw [List.length_nil] at hzero
    omega
  · exact hnil

/-- **How many updates are taken up at a time makes no difference to what is sent.** -/
theorem sendUpdates_eq {limit : Nat} (hlimit : 1 ≤ limit) (takenUp waiting : List String) :
    c.sendUpdates partialSource limit takenUp waiting =
      c.sendEach partialSource (takenUp ++ waiting) := by
  -- The induction is on the number of updates that are left.
  induction hleft : (takenUp ++ waiting).length using Nat.strong_induction_on
    generalizing takenUp waiting with
  | _ left ih =>
    have hqueue : takenUp ++ waiting =
        (takenUp ++ waiting.take (limit - takenUp.length)) ++
          waiting.drop (limit - takenUp.length) := by
      rw [List.append_assoc, List.take_append_drop]
    cases hfirst : takenUp ++ waiting.take (limit - takenUp.length) with
    | nil =>
      obtain ⟨rfl, rfl⟩ := eq_nil_of_queue hlimit hfirst
      exact sendUpdates_nil c partialSource limit
    | cons id rest =>
      rw [hfirst, List.cons_append] at hqueue
      have hsmaller : (rest ++ waiting.drop (limit - takenUp.length)).length < left := by
        rw [← hleft, hqueue, List.length_cons]
        exact Nat.lt_succ_self _
      have hleftRest := ih _ hsmaller rest (waiting.drop (limit - takenUp.length)) rfl
      rw [sendUpdates_of_queue c partialSource hfirst, hleftRest, hqueue, sendEach]

/-- A batch sends its updates one after another. -/
lemma updateBatch_eq (ids : List String) :
    c.updateBatch partialSource ids = c.sendEach partialSource ids :=
  c.sendUpdates_eq partialSource (le_max_right _ 1) [] ids

lemma updateBatch_nil : c.updateBatch partialSource [] = pure {} := by
  rw [updateBatch_eq, sendEach]

/-- A batch is its first update and then, if that succeeds, the batch of the others. -/
lemma updateBatch_cons (id : String) (rest : List String) :
    c.updateBatch partialSource (id :: rest) = do
      match ← Session.attempt c.address (.update id partialSource) with
      | .error failure => return { failure := some failure }
      | .ok _ =>
        let batch ← c.updateBatch partialSource rest
        return { batch with completed := id :: batch.completed } := by
  rw [updateBatch_eq, updateBatch_eq, sendEach]

/-! ## Updates -/

/-- What an update does with the answer to its search. -/
def updateCaptured (response : SearchResponse) : Session (List Record) :=
  if response.hits.isNone then Session.fail (.notFound c.schema.typeName)
  else do
    let batch ← c.updateBatch partialSource response.ids
    c.fetch (← Session.ofExcept batch.result)

variable {c} {partialSource}

/-- An update with its values prepared and its criteria compiled. -/
lemma update_eq {criteria : Criteria} {values : Record} {prepared : PreparedDocument} {q : Query}
    (hprepare : c.prepare values = .ok prepared) (hcompile : c.compile criteria = .ok q) :
    c.update criteria values =
      Session.request c.address (.search (c.capture q)) >>= c.updateCaptured prepared.body := by
  unfold update
  rw [hprepare, hcompile]
  rfl

variable (c) in
/-- An update, told by the hits of its search. -/
lemma update_eq_of_hits (criteria : Criteria) (values : Record) :
    c.update criteria values = (do
      let prepared ← Session.ofExcept (c.prepare values)
      let q ← Session.ofExcept (c.compile criteria)
      let response ← Session.request c.address (.search (c.capture q))
      match response.hits with
      | none => Session.fail (.notFound c.schema.typeName)
      | some hits =>
        let batch ← c.sendEach prepared.body (hits.hits.map Hit.id)
        c.fetch (← Session.ofExcept batch.result)) := by
  have hcaptured (prepared : PreparedDocument) (response : SearchResponse) :
      c.updateCaptured prepared.body response =
        (match response.hits with
        | none => Session.fail (.notFound c.schema.typeName)
        | some hits => do
          let batch ← c.sendEach prepared.body (hits.hits.map Hit.id)
          c.fetch (← Session.ofExcept batch.result)) := by
    obtain ⟨hits, aggregations, facets⟩ := response
    cases hits with
    | none => rfl
    | some hits => exact congrArg (· >>= _) (updateBatch_eq c prepared.body _)
  simp only [← hcaptured]
  rfl

end CriteriaSearch.Collection

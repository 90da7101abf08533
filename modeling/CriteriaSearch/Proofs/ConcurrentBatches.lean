import CriteriaSearch.Proofs.Successes
import CriteriaSearch.Proofs.UpdateBatches
import CriteriaSearch.Store.Script
import Mathlib.Algebra.Ring.Nat
import Mathlib.Data.List.Perm.Subperm

/-!
# Batches under any order of answers

A batch starts its updates in the order of its list, as many at a time as its limit allows, but a
store may answer them in any order, and the batch may take their answers in any order too.
`BatchStep` is one step of this: the next update is started, the store answers one that is in
flight, or the batch takes an answer.  A failure that is taken ends the batch: nothing is started
or taken any more, though what is in flight may still reach the store.

No step loses sight of an identifier (`BatchStep.perm_ids`) or completes one whose update was not
carried out (`BatchStep.perm_applied`), so no run does, however its steps are interleaved.  Sending
one update at a time and waiting for its answer is one of these runs
(`Collection.exists_batchRun_sendUpdates`).
-/

namespace CriteriaSearch

variable {σ : Type}

/-! ## Batches under way -/

/-- An update that was started, with the answer of the store once there is one. -/
structure StartedUpdate where
  id : String
  answer : Option (Except StoreFailure Unit) := none

namespace StartedUpdate

/-- The identifier of an update that the store carried out. -/
def appliedId? (u : StartedUpdate) : Option String :=
  match u.answer with
  | some (.ok _) => some u.id
  | _ => none

/-- How many steps are left: an answer, and taking it. -/
def stepsLeft (u : StartedUpdate) : Nat :=
  if u.answer.isSome then 1 else 2

@[simp] lemma appliedId?_none (id : String) : appliedId? ⟨id, none⟩ = none := rfl

@[simp] lemma appliedId?_ok (id : String) (u : Unit) : appliedId? ⟨id, some (.ok u)⟩ = some id :=
  rfl

@[simp] lemma appliedId?_error (id : String) (failure : StoreFailure) :
    appliedId? ⟨id, some (.error failure)⟩ = none := rfl

@[simp] lemma stepsLeft_none (id : String) : stepsLeft ⟨id, none⟩ = 2 := rfl

@[simp] lemma stepsLeft_some (id : String) (answer : Except StoreFailure Unit) :
    stepsLeft ⟨id, some answer⟩ = 1 := rfl

end StartedUpdate

/-- A batch under way: the store, the identifiers whose updates are yet to be started, the updates
in flight, the identifiers whose success was taken, and the failure that was taken. -/
structure BatchState (σ : Type) where
  store : σ
  waiting : List String
  inFlight : List StartedUpdate := []
  completed : List String := []
  failed : Option (String × StoreFailure) := none

/-- What happens to one update of a batch. -/
inductive BatchEvent where
  | started (id : String)
  | answered (id : String) (answer : Except StoreFailure Unit)
  | taken (id : String) (answer : Except StoreFailure Unit)

namespace BatchEvent

/-- Whether an update is started. -/
def isStart : BatchEvent → Bool
  | started _ => true
  | _ => false

/-- Whether a failure is taken. -/
def isFailure : BatchEvent → Bool
  | taken _ (.error _) => true
  | _ => false

/-- The identifier whose update the store carries out. -/
def appliedId? : BatchEvent → Option String
  | answered id (.ok _) => some id
  | _ => none

end BatchEvent

/-- The identifiers whose updates the store carried out, as often and in the order it did. -/
def appliedIds (events : List BatchEvent) : List String :=
  events.filterMap BatchEvent.appliedId?

namespace BatchState

/-- What the batch has to tell. -/
def batch (s : BatchState σ) : UpdateBatch :=
  { completed := s.completed, failure := s.failed.map Prod.snd }

/-- Whether the batch is at its end: it took a failure, or nothing is left to start or to take. -/
def Ended (s : BatchState σ) : Prop :=
  s.failed.isSome = true ∨ (s.waiting = [] ∧ s.inFlight = [])

/-- The identifiers of a batch, wherever they are. -/
def ids (s : BatchState σ) : List String :=
  s.completed ++ s.failed.toList.map Prod.fst ++ s.inFlight.map StartedUpdate.id ++ s.waiting

/-- The identifiers whose updates were carried out, taken or not. -/
def applied (s : BatchState σ) : List String :=
  s.completed ++ s.inFlight.filterMap StartedUpdate.appliedId?

/-- How many steps are left at most: an update that waits is to be started, answered and taken. -/
def stepsLeft (s : BatchState σ) : Nat :=
  3 * s.waiting.length + (s.inFlight.map StartedUpdate.stepsLeft).sum

end BatchState

/-- One step of a batch. -/
inductive BatchStep (client : Client σ) (c : Collection) (partialSource : Record) :
    BatchState σ → BatchEvent → BatchState σ → Prop
  | start {s : BatchState σ} {id : String} {rest : List String} (hopen : s.failed = none)
    (hroom : s.inFlight.length < max c.options.updateConcurrency 1)
    (hwaiting : s.waiting = id :: rest) :
    BatchStep client c partialSource s (.started id)
      { s with waiting := rest, inFlight := s.inFlight ++ [⟨id, none⟩] }
  | answer {s : BatchState σ} {store : σ} (before after : List StartedUpdate) {id : String}
    {answer : Except StoreFailure Unit} (hinFlight : s.inFlight = before ++ ⟨id, none⟩ :: after)
    (hanswer : client.answer c.address (.update id partialSource) s.store = (answer, store)) :
    BatchStep client c partialSource s (.answered id answer)
      { s with store, inFlight := before ++ ⟨id, some answer⟩ :: after }
  | takeSuccess {s : BatchState σ} (before after : List StartedUpdate) {id : String}
    (hopen : s.failed = none) (hinFlight : s.inFlight = before ++ ⟨id, some (.ok ())⟩ :: after) :
    BatchStep client c partialSource s (.taken id (.ok ()))
      { s with inFlight := before ++ after, completed := s.completed ++ [id] }
  | takeFailure {s : BatchState σ} (before after : List StartedUpdate) {id : String}
    {failure : StoreFailure} (hopen : s.failed = none)
    (hinFlight : s.inFlight = before ++ ⟨id, some (.error failure)⟩ :: after) :
    BatchStep client c partialSource s (.taken id (.error failure))
      { s with inFlight := before ++ after, failed := some (id, failure) }

/-- Steps of a batch, one after another, and what happened in them. -/
inductive BatchRun (client : Client σ) (c : Collection) (partialSource : Record) :
    BatchState σ → List BatchEvent → BatchState σ → Prop
  | nil (s : BatchState σ) : BatchRun client c partialSource s [] s
  | cons {s t u : BatchState σ} {event : BatchEvent} {events : List BatchEvent}
    (hfirst : BatchStep client c partialSource s event t)
    (hrest : BatchRun client c partialSource t events u) :
    BatchRun client c partialSource s (event :: events) u

variable {client : Client σ} {c : Collection} {partialSource : Record} {s t u : BatchState σ}
  {event : BatchEvent} {events : List BatchEvent}

/-! ## One step -/

namespace BatchStep

lemma length_inFlight_le (h : BatchStep client c partialSource s event t)
    (hs : s.inFlight.length ≤ max c.options.updateConcurrency 1) :
    t.inFlight.length ≤ max c.options.updateConcurrency 1 := by
  cases h with
  | start hopen hroom hwaiting =>
    rw [List.length_append, List.length_singleton]
    exact hroom
  | answer before after hinFlight hanswer =>
    rw [hinFlight] at hs
    simpa using hs
  | takeSuccess before after hopen hinFlight =>
    simp only [hinFlight, List.length_append, List.length_cons] at hs ⊢
    omega
  | takeFailure before after hopen hinFlight =>
    simp only [hinFlight, List.length_append, List.length_cons] at hs ⊢
    omega

/-- No step loses sight of an identifier. -/
lemma perm_ids (h : BatchStep client c partialSource s event t) : t.ids.Perm s.ids := by
  rw [List.perm_iff_count]
  intro id
  cases h with
  | start hopen hroom hwaiting => simp [BatchState.ids, hwaiting]
  | answer before after hinFlight hanswer => simp [BatchState.ids, hinFlight]
  | takeSuccess before after hopen hinFlight =>
    simp only [BatchState.ids, hinFlight, List.map_append, List.map_cons, List.count_append,
      List.count_cons, List.count_nil]
    omega
  | takeFailure before after hopen hinFlight =>
    simp only [BatchState.ids, hinFlight, hopen, Option.toList_none, Option.toList_some,
      List.map_append, List.map_cons, List.map_nil, List.count_append, List.count_cons,
      List.count_nil]
    omega

/-- What was carried out is what was carried out before, and what the store carries out now. -/
lemma perm_applied (h : BatchStep client c partialSource s event t) :
    t.applied.Perm (s.applied ++ event.appliedId?.toList) := by
  rw [List.perm_iff_count]
  intro id
  cases h with
  | start hopen hroom hwaiting =>
    simp [BatchState.applied, BatchEvent.appliedId?, List.filterMap_cons]
  | @answer _ before after _ answer hinFlight hanswer =>
    cases answer with
    | error failure =>
      simp [BatchState.applied, BatchEvent.appliedId?, hinFlight, List.filterMap_cons]
    | ok _ =>
      simp only [BatchState.applied, BatchEvent.appliedId?, hinFlight, List.filterMap_append,
        List.filterMap_cons, StartedUpdate.appliedId?_none, StartedUpdate.appliedId?_ok,
        Option.toList_some, List.count_append, List.count_cons, List.count_nil]
      omega
  | takeSuccess before after hopen hinFlight =>
    simp only [BatchState.applied, BatchEvent.appliedId?, hinFlight, List.filterMap_append,
      List.filterMap_cons, StartedUpdate.appliedId?_ok, Option.toList_none, List.append_nil,
      List.count_append, List.count_cons, List.count_nil]
    omega
  | takeFailure before after hopen hinFlight =>
    simp [BatchState.applied, BatchEvent.appliedId?, hinFlight, List.filterMap_cons]

/-- Every step is one step less to do. -/
lemma stepsLeft_eq (h : BatchStep client c partialSource s event t) :
    s.stepsLeft = t.stepsLeft + 1 := by
  cases h with
  | start hopen hroom hwaiting =>
    simp only [BatchState.stepsLeft, hwaiting, List.length_cons, List.map_append, List.map_cons,
      List.map_nil, StartedUpdate.stepsLeft_none, List.sum_append, List.sum_cons, List.sum_nil]
    omega
  | answer before after hinFlight hanswer =>
    simp only [BatchState.stepsLeft, hinFlight, List.map_append, List.map_cons,
      StartedUpdate.stepsLeft_none, StartedUpdate.stepsLeft_some, List.sum_append, List.sum_cons]
    omega
  | takeSuccess before after hopen hinFlight =>
    simp only [BatchState.stepsLeft, hinFlight, List.map_append, List.map_cons,
      StartedUpdate.stepsLeft_some, List.sum_append, List.sum_cons]
    omega
  | takeFailure before after hopen hinFlight =>
    simp only [BatchState.stepsLeft, hinFlight, List.map_append, List.map_cons,
      StartedUpdate.stepsLeft_some, List.sum_append, List.sum_cons]
    omega

/-- Once a failure was taken, nothing is started, and it stays so. -/
lemma of_failed (h : BatchStep client c partialSource s event t) (hs : s.failed.isSome = true) :
    event.isStart = false ∧ t.failed.isSome = true := by
  cases h with
  | start hopen hroom hwaiting => simp [hopen] at hs
  | answer before after hinFlight hanswer => exact ⟨rfl, hs⟩
  | takeSuccess before after hopen hinFlight => exact ⟨rfl, hs⟩
  | takeFailure before after hopen hinFlight => exact ⟨rfl, rfl⟩

lemma failed_of_isFailure (h : BatchStep client c partialSource s event t)
    (hevent : event.isFailure = true) : t.failed.isSome = true := by
  cases h with
  | takeFailure before after hopen hinFlight => rfl
  | _ => cases hevent

end BatchStep

/-- A batch that is not at its end can go on. -/
lemma BatchState.ended_or_exists_step (client : Client σ) (c : Collection)
    (partialSource : Record) (s : BatchState σ) :
    s.Ended ∨ ∃ event t, BatchStep client c partialSource s event t := by
  cases hfailed : s.failed with
  | some failed => exact .inl (.inl (by simp [hfailed]))
  | none =>
    cases hinFlight : s.inFlight with
    | cons u after =>
      obtain ⟨id, answer⟩ := u
      right
      match answer with
      | none => exact ⟨_, _, .answer [] _ hinFlight rfl⟩
      | some (.ok ()) => exact ⟨_, _, .takeSuccess [] _ hfailed hinFlight⟩
      | some (.error failure) => exact ⟨_, _, .takeFailure [] _ hfailed hinFlight⟩
    | nil =>
      cases hwaiting : s.waiting with
      | nil => exact .inl (.inr ⟨hwaiting, hinFlight⟩)
      | cons id rest =>
        have hroom : s.inFlight.length < max c.options.updateConcurrency 1 := by
          rw [hinFlight]
          exact lt_of_lt_of_le Nat.one_pos (le_max_right _ 1)
        exact .inr ⟨_, _, .start hfailed hroom hwaiting⟩

/-! ## Runs -/

namespace BatchRun

lemma trans {others : List BatchEvent} (hs : BatchRun client c partialSource s events t)
    (ht : BatchRun client c partialSource t others u) :
    BatchRun client c partialSource s (events ++ others) u := by
  induction hs with
  | nil s => exact ht
  | cons hfirst hrest ih => exact .cons hfirst (ih ht)

lemma length_inFlight_le (h : BatchRun client c partialSource s events t)
    (hs : s.inFlight.length ≤ max c.options.updateConcurrency 1) :
    t.inFlight.length ≤ max c.options.updateConcurrency 1 := by
  induction h with
  | nil s => exact hs
  | cons hfirst hrest ih => exact ih (hfirst.length_inFlight_le hs)

lemma perm_ids (h : BatchRun client c partialSource s events t) : t.ids.Perm s.ids := by
  induction h with
  | nil s => exact .rfl
  | cons hfirst hrest ih => exact ih.trans hfirst.perm_ids

lemma perm_applied (h : BatchRun client c partialSource s events t) :
    t.applied.Perm (s.applied ++ appliedIds events) := by
  induction h with
  | nil s => simp [appliedIds]
  | @cons s t u event events hfirst hrest ih =>
    have hids : event.appliedId?.toList ++ appliedIds events = appliedIds (event :: events) := by
      rw [appliedIds, appliedIds, List.filterMap_cons]
      cases event.appliedId? <;> rfl
    have hboth := ih.trans (hfirst.perm_applied.append_right (appliedIds events))
    rwa [List.append_assoc, hids] at hboth

lemma length_events (h : BatchRun client c partialSource s events t) :
    events.length + t.stepsLeft = s.stepsLeft := by
  induction h with
  | nil s => simp
  | cons hfirst hrest ih =>
    have hstep := hfirst.stepsLeft_eq
    rw [List.length_cons]
    omega

lemma isStart_of_failed (h : BatchRun client c partialSource s events t)
    (hs : s.failed.isSome = true) : ∀ event ∈ events, event.isStart = false := by
  induction h with
  | nil s => exact List.forall_mem_nil _
  | cons hfirst hrest ih =>
    obtain ⟨hevent, hfailed⟩ := hfirst.of_failed hs
    exact List.forall_mem_cons.2 ⟨hevent, ih hfailed⟩

/-- After a failure was taken nothing is started. -/
lemma pairwise (h : BatchRun client c partialSource s events t) :
    events.Pairwise fun earlier later => earlier.isFailure = true → later.isStart = false := by
  induction h with
  | nil s => exact .nil
  | cons hfirst hrest ih =>
    refine List.pairwise_cons.2 ⟨fun later hlater hfailure => ?_, ih⟩
    exact hrest.isStart_of_failed (hfirst.failed_of_isFailure hfailure) later hlater

end BatchRun

namespace Collection

/-! ## One update at a time -/

/-- The updates of identifiers in flight, none of them answered. -/
def unanswered (ids : List String) : List StartedUpdate :=
  ids.map fun id => ⟨id, none⟩

/-- As many updates as there is room for may be started one after another. -/
lemma batchRun_start (client : Client σ) (c : Collection) (partialSource : Record) (store : σ)
    (completed takenUp first rest : List String)
    (hroom : takenUp.length + first.length ≤ max c.options.updateConcurrency 1) :
    BatchRun client c partialSource ⟨store, first ++ rest, unanswered takenUp, completed, none⟩
      (first.map .started)
      ⟨store, rest, unanswered (takenUp ++ first), completed, none⟩ := by
  induction first generalizing takenUp with
  | nil =>
    rw [List.append_nil]
    exact .nil _
  | cons id first ih =>
    have hone : (unanswered takenUp).length < max c.options.updateConcurrency 1 := by
      rw [List.length_cons] at hroom
      rw [unanswered, List.length_map]
      omega
    have hstarted : unanswered takenUp ++ [⟨id, none⟩] = unanswered (takenUp ++ [id]) := by
      simp [unanswered]
    have hothers := ih (takenUp ++ [id]) (by simpa [Nat.add_assoc, Nat.add_comm 1] using hroom)
    rw [List.append_assoc, List.singleton_append] at hothers
    refine .cons (.start rfl hone rfl) ?_
    rw [hstarted]
    exact hothers

/-- A failure that the first update in the queue is answered with ends the batch. -/
lemma yields_sendUpdates_of_error {limit : Nat} {takenUp waiting others : List String}
    {id : String} {failure : StoreFailure} {store between : σ}
    (hqueue : takenUp ++ waiting.take (limit - takenUp.length) = id :: others)
    (hanswer : client.answer c.address (.update id partialSource) store =
      (.error failure, between)) :
    (c.sendUpdates partialSource limit takenUp waiting).Yields client store
      { failure := some failure } between := by
  rw [sendUpdates_of_queue c partialSource hqueue, Session.yields_bind_iff]
  exact ⟨_, between, Session.yields_attempt_iff.2 hanswer, rfl, rfl⟩

/-- Where the first update in the queue succeeds, the batch goes on with the others. -/
lemma yields_sendUpdates_of_ok {limit : Nat} {takenUp waiting others : List String} {id : String}
    {success : Unit} {store between after : σ} {batch : UpdateBatch}
    (hqueue : takenUp ++ waiting.take (limit - takenUp.length) = id :: others)
    (hanswer : client.answer c.address (.update id partialSource) store = (.ok success, between))
    (hothers : (c.sendUpdates partialSource limit others
      (waiting.drop (limit - takenUp.length))).Yields client between batch after) :
    (c.sendUpdates partialSource limit takenUp waiting).Yields client store
      { batch with completed := id :: batch.completed } after := by
  rw [sendUpdates_of_queue c partialSource hqueue, Session.yields_bind_iff]
  refine ⟨_, between, Session.yields_attempt_iff.2 hanswer, ?_⟩
  dsimp only
  rw [Session.yields_bind_iff]
  exact ⟨batch, after, hothers, rfl, rfl⟩

/-- **Sending one update after another and waiting for each answer is a run of the batch.** -/
theorem exists_batchRun_sendUpdates (client : Client σ) (c : Collection) (partialSource : Record)
    (store : σ) (completed takenUp waiting : List String)
    (hroom : takenUp.length ≤ max c.options.updateConcurrency 1) :
    ∃ events t batch,
      BatchRun client c partialSource ⟨store, waiting, unanswered takenUp, completed, none⟩
        events t ∧
      t.Ended ∧
      (c.sendUpdates partialSource (max c.options.updateConcurrency 1) takenUp waiting).Yields
        client store batch t.store ∧
      t.batch = { batch with completed := completed ++ batch.completed } := by
  -- The induction is on the number of updates that are left.
  induction hleft : (takenUp ++ waiting).length using Nat.strong_induction_on
    generalizing store completed takenUp waiting with
  | _ left ih =>
    let limit := max c.options.updateConcurrency 1
    let first := waiting.take (limit - takenUp.length)
    let rest := waiting.drop (limit - takenUp.length)
    have hfirst : takenUp.length + first.length ≤ limit := by
      have hlength : first.length ≤ limit - takenUp.length := List.length_take_le _ _
      omega
    have hstarts := batchRun_start client c partialSource store completed takenUp first rest hfirst
    rw [List.take_append_drop] at hstarts
    cases hqueue : takenUp ++ first with
    | nil =>
      obtain ⟨rfl, rfl⟩ := eq_nil_of_queue (le_max_right _ 1) hqueue
      refine ⟨[], _, {}, .nil _, .inr ⟨rfl, rfl⟩, ?_, ?_⟩
      · rw [sendUpdates_nil]
        exact ⟨rfl, rfl⟩
      · simp [BatchState.batch]
    | cons id others =>
      rw [hqueue] at hstarts
      have hsmaller : (others ++ rest).length < left := by
        have hall : takenUp ++ waiting = (takenUp ++ first) ++ rest := by
          rw [List.append_assoc, List.take_append_drop]
        rw [← hleft, hall, hqueue, List.cons_append, List.length_cons]
        exact Nat.lt_succ_self _
      have hothers : others.length ≤ limit := by
        have hlength := congrArg List.length hqueue
        rw [List.length_append, List.length_cons] at hlength
        omega
      rcases hanswer : client.answer c.address (.update id partialSource) store with
        ⟨failure | success, between⟩
      · refine ⟨_, ⟨between, rest, unanswered others, completed, some (id, failure)⟩,
          { failure := some failure },
          hstarts.trans (.cons (.answer [] _ rfl hanswer)
            (.cons (.takeFailure [] _ rfl rfl) (.nil _))), .inl rfl,
          yields_sendUpdates_of_error hqueue hanswer, ?_⟩
        simp [BatchState.batch]
      · obtain ⟨events, t, batch, hrun, hended, hyields, hbatch⟩ :=
          ih _ hsmaller between (completed ++ [id]) others rest hothers rfl
        refine ⟨_, t, { batch with completed := id :: batch.completed },
          hstarts.trans (.cons (.answer [] _ rfl hanswer)
            (.cons (.takeSuccess [] _ rfl rfl) hrun)), hended,
          yields_sendUpdates_of_ok hqueue hanswer hyields, ?_⟩
        rw [hbatch, List.append_assoc, List.singleton_append]

/-! ## Every run -/

/-- **However starts, answers and takings are interleaved, a batch accounts for each of its
identifiers, completes only what was carried out, has no more in flight than it may, and starts
nothing after a failure.**  It can go on until it is at its end, and without a failure it is at its
end once all its identifiers are completed.  Sending one update at a time comes to such an end. -/
theorem batch_accounts_for_updates (client : Client σ) (c : Collection) (partialSource : Record)
    (store : σ) (ids : List String) :
    (∀ events s, BatchRun client c partialSource { store, waiting := ids } events s →
      s.inFlight.length ≤ max c.options.updateConcurrency 1 ∧
      s.completed.Subperm (appliedIds events) ∧
      (s.completed ++ s.failed.toList.map Prod.fst ++ s.inFlight.map StartedUpdate.id ++
        s.waiting).Perm ids ∧
      (events.Pairwise fun earlier later =>
        earlier.isFailure = true → later.isStart = false) ∧
      events.length ≤ 3 * ids.length ∧
      (s.Ended ∨ ∃ event t, BatchStep client c partialSource s event t) ∧
      (s.Ended → s.batch.failure = none → s.batch.completed.Perm ids)) ∧
    ∃ events s, BatchRun client c partialSource { store, waiting := ids } events s ∧ s.Ended ∧
      (c.updateBatch partialSource ids).Yields client store s.batch s.store := by
  constructor
  · intro events s hrun
    have hids : s.ids.Perm ids := by simpa [BatchState.ids] using hrun.perm_ids
    have happlied : s.applied.Perm (appliedIds events) := by
      simpa [BatchState.applied] using hrun.perm_applied
    have hlength : events.length + s.stepsLeft = 3 * ids.length := by
      simpa [BatchState.stepsLeft] using hrun.length_events
    refine ⟨hrun.length_inFlight_le (Nat.zero_le _), ?_, hids, hrun.pairwise, ?_,
      s.ended_or_exists_step client c partialSource, ?_⟩
    · exact (List.sublist_append_left _ _).subperm.trans happlied.subperm
    · omega
    · rintro (hfailed | ⟨hwaiting, hinFlight⟩) hfailure
      · rw [BatchState.batch, Option.map_eq_none_iff] at hfailure
        simp [hfailure] at hfailed
      · rw [BatchState.batch, Option.map_eq_none_iff] at hfailure
        simpa [BatchState.ids, BatchState.batch, hwaiting, hinFlight, hfailure] using hids
  · obtain ⟨events, s, batch, hrun, hended, hyields, hbatch⟩ :=
      exists_batchRun_sendUpdates client c partialSource store [] [] ids (Nat.zero_le _)
    rw [List.nil_append] at hbatch
    exact ⟨events, s, hrun, hended, hbatch ▸ hyields⟩

/-- Two updates at a time, one identifier twice, and a failure that is taken while the second update
of that identifier is in flight. -/
theorem batch_accounts_for_updates_conflict :
    let c : Collection :=
      { index := "app", schema := { typeName := "item" }, options := { updateConcurrency := 2 } }
    let script : Script := { failingUpdates := ["b"] }
    let events : List BatchEvent :=
      [.started "a", .started "b", .answered "b" (.error (.versionConflict "b")),
        .answered "a" (.ok ()), .taken "a" (.ok ()), .started "a",
        .taken "b" (.error (.versionConflict "b"))]
    let s : BatchState Unit :=
      { store := (), waiting := ["c"], inFlight := [⟨"a", none⟩], completed := ["a"]
        failed := some ("b", .versionConflict "b") }
    BatchRun script.client c [] { store := (), waiting := ["a", "b", "a", "c"] } events s ∧
      s.inFlight.length ≤ 2 ∧ s.completed.Subperm (appliedIds events) ∧
      (s.completed ++ s.failed.toList.map Prod.fst ++ s.inFlight.map StartedUpdate.id ++
        s.waiting).Perm ["a", "b", "a", "c"] ∧ s.Ended := by
  intro c script events s
  have hconflict : script.client.answer c.address (.update "b" []) () =
      (.error (.versionConflict "b"), ()) := by
    rfl
  have hsuccess : script.client.answer c.address (.update "a" []) () = (.ok (), ()) := by
    rfl
  have hrun :
      BatchRun script.client c [] { store := (), waiting := ["a", "b", "a", "c"] } events s :=
    .cons (.start rfl (by decide) rfl) <| .cons (.start rfl (by decide) rfl) <|
      .cons (.answer [⟨"a", none⟩] [] rfl hconflict) <| .cons (.answer [] _ rfl hsuccess) <|
      .cons (.takeSuccess [] _ rfl rfl) <| .cons (.start rfl (by decide) rfl) <|
      .cons (.takeFailure [] _ rfl rfl) (.nil _)
  obtain ⟨hruns, -⟩ := batch_accounts_for_updates script.client c [] () ["a", "b", "a", "c"]
  obtain ⟨hroom, happlied, hids, -⟩ := hruns events s hrun
  exact ⟨hrun, hroom, happlied, hids, .inl rfl⟩

end Collection

end CriteriaSearch

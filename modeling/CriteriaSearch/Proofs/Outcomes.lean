import CriteriaSearch.Store.Session
import Mathlib.Tactic.Common

/-!
# What sessions come to

The outcome of a session in steps is that of its first step and, where this succeeds, of what
follows it from the state that the first step left; the requests of both are sent in that order
(`Session.run_bind`).

A session may fail for reasons of its own, or for a failure of the store.  `Session.FailsOnlyWith`
limits the errors that a session can end with, whatever it is answered, and `Session.ChecksFirst`
says that no error that is the caller's fault comes after a request.  So where such an error comes,
nothing has been sent and the store is as it was (`Session.ChecksFirst.run_eq`).
-/

namespace CriteriaSearch

/-- Whether an error is the caller's fault: the criteria or a document are not in order. -/
def SearchError.isClientSide : SearchError → Bool
  | compilation _ => true
  | invalidGroupBy => true
  | invalidDocument _ => true
  | _ => false

/-- The outcome of a session and of what follows it. -/
def Outcome.andThen {σ α β : Type} (o : Outcome σ α) (f : α → σ → Outcome σ β) : Outcome σ β :=
  match o.result with
  | .ok a => { f a o.state with sent := o.sent ++ (f a o.state).sent }
  | .error e => ⟨.error e, o.state, o.sent⟩

lemma Outcome.andThen_ok {σ α β : Type} (a : α) (state : σ) (sent : List (Address × Request))
    (f : α → σ → Outcome σ β) : (⟨.ok a, state, sent⟩ : Outcome σ α).andThen f =
      { f a state with sent := sent ++ (f a state).sent } :=
  rfl

namespace Session

variable {σ α β : Type} {client : Client σ}

/-! ## Steps -/

/-- **A session in steps is carried out step by step.** -/
theorem run_bind (s : Session α) (f : α → Session β) (state : σ) :
    (s >>= f).run client state =
      (s.run client state).andThen fun a between => (f a).run client between := by
  change (s.bind f).run client state = _
  induction s generalizing state with
  | done result => cases result <;> rfl
  | ask address r next ih =>
    rw [bind_ask, run, run]
    dsimp only
    rw [ih]
    unfold Outcome.andThen
    dsimp only
    cases ((next _).run client _).result <;> rfl

lemma run_pure (a : α) (state : σ) : (pure a : Session α).run client state = ⟨.ok a, state, []⟩ :=
  rfl

lemma run_ofExcept (r : Except SearchError α) (state : σ) :
    (ofExcept r).run client state = ⟨r, state, []⟩ :=
  rfl

lemma run_request (address : Address) (r : Request) (state : σ) :
    (request address r).run client state =
      ⟨(client.answer address r state).1.mapError .store, (client.answer address r state).2,
        [(address, r)]⟩ := by
  rw [request, run]
  rcases client.answer address r state with ⟨answer | answer, after⟩
  · rfl
  · rfl

lemma run_attempt (address : Address) (r : Request) (state : σ) :
    (attempt address r).run client state =
      ⟨.ok (client.answer address r state).1, (client.answer address r state).2,
        [(address, r)]⟩ :=
  rfl

/-! ## Errors that a session can end with -/

variable {P Q : SearchError → Prop}

/-- Whether a session, whatever it is answered, only fails with errors of a kind. -/
def FailsOnlyWith (P : SearchError → Prop) : Session α → Prop
  | done (.ok _) => True
  | done (.error e) => P e
  | ask _ _ next => ∀ answer, (next answer).FailsOnlyWith P

/-- Whether a session, whatever it is answered, only fails with failures of the store. -/
abbrev FailsByStore (s : Session α) : Prop :=
  s.FailsOnlyWith fun e => ∃ failure, e = .store failure

lemma failsOnlyWith_pure (a : α) : (pure a : Session α).FailsOnlyWith P :=
  trivial

lemma failsOnlyWith_attempt (address : Address) (r : Request) :
    (attempt address r).FailsOnlyWith P :=
  fun _ => trivial

lemma failsByStore_request (address : Address) (r : Request) :
    (request address r).FailsByStore := by
  intro answer
  cases answer with
  | error failure => exact ⟨failure, rfl⟩
  | ok a => exact trivial

lemma FailsOnlyWith.bind {s : Session α} {f : α → Session β} (hs : s.FailsOnlyWith P)
    (hf : ∀ a, (f a).FailsOnlyWith P) : (s >>= f).FailsOnlyWith P := by
  change (s.bind f).FailsOnlyWith P
  induction s with
  | done result =>
    cases result with
    | error e => exact hs
    | ok a => exact hf a
  | ask address r next ih =>
    intro answer
    exact ih answer (hs answer)

lemma FailsOnlyWith.mono {s : Session α} (hs : s.FailsOnlyWith P) (h : ∀ e, P e → Q e) :
    s.FailsOnlyWith Q := by
  induction s with
  | done result =>
    cases result with
    | error e => exact h e hs
    | ok a => exact trivial
  | ask address r next ih =>
    intro answer
    exact ih answer (hs answer)

/-- The error that a session ends with is of the kind. -/
lemma FailsOnlyWith.of_result {s : Session α} (hs : s.FailsOnlyWith P) {state : σ}
    {e : SearchError} (h : (s.run client state).result = .error e) : P e := by
  induction s generalizing state with
  | done result =>
    obtain rfl : result = .error e := h
    exact hs
  | ask address r next ih => exact ih _ (hs _) h

/-! ## Checks before requests -/

/-- Whether a session, whatever it is answered, does not blame the caller once it has sent a
request. -/
def ChecksFirst : Session α → Prop
  | done _ => True
  | ask _ _ next => ∀ answer, (next answer).FailsOnlyWith fun e => e.isClientSide = false

lemma FailsOnlyWith.checksFirst {s : Session α}
    (hs : s.FailsOnlyWith fun e => e.isClientSide = false) : s.ChecksFirst := by
  cases s with
  | done result => exact trivial
  | ask address r next => exact hs

/-- Failures of the store are not the caller's fault. -/
lemma FailsOnlyWith.blameless {s : Session α} (hs : s.FailsByStore) :
    s.FailsOnlyWith fun e => e.isClientSide = false := by
  refine hs.mono ?_
  rintro e ⟨failure, rfl⟩
  rfl

lemma ChecksFirst.bind {s : Session α} {f : α → Session β} (hs : s.ChecksFirst)
    (hf : ∀ a, (f a).FailsOnlyWith fun e => e.isClientSide = false) : (s >>= f).ChecksFirst := by
  change (s.bind f).ChecksFirst
  cases s with
  | done result =>
    cases result with
    | error e => exact trivial
    | ok a => exact (hf a).checksFirst
  | ask address r next =>
    intro answer
    exact (hs answer).bind hf

/-- A check that sends nothing may come before all else. -/
lemma checksFirst_ofExcept_bind {r : Except SearchError α} {f : α → Session β}
    (hf : ∀ a, r = .ok a → (f a).ChecksFirst) : (ofExcept r >>= f).ChecksFirst := by
  change ((done r).bind f).ChecksFirst
  cases r with
  | error e => exact trivial
  | ok a => exact hf a rfl

/-- **Where a session blames the caller, it has sent nothing.** -/
theorem ChecksFirst.run_eq {s : Session α} (hs : s.ChecksFirst) {state : σ} {e : SearchError}
    (h : (s.run client state).result = .error e) (he : e.isClientSide = true) :
    s.run client state = ⟨.error e, state, []⟩ := by
  cases s with
  | done result =>
    obtain rfl : result = .error e := h
    rfl
  | ask address r next =>
    have hblameless : e.isClientSide = false := (hs _).of_result h
    cases he.symm.trans hblameless

end Session

end CriteriaSearch

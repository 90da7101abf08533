import CriteriaSearch.Error
import CriteriaSearch.Store.Protocol

/-!
# Sessions with a store

An operation on a collection is a `Session`: it is done, or it has one request to send and goes on
with the answer.  What it sends, and in which order, is part of the value, so that statements about
requests are statements about sessions.

A `Client` answers requests from a state of its own.  `Session.run` carries a session out against a
client and also tells which requests were sent.
-/

namespace CriteriaSearch

/-- An exchange with a store that ends with a result. -/
inductive Session (α : Type) where
  | done (result : Except SearchError α)
  | ask (address : Address) (request : Request)
      (next : Except StoreFailure request.Answer → Session α)

namespace Session

variable {α β : Type}

/-- Goes on with the result of a session, unless it failed. -/
def bind (s : Session α) (f : α → Session β) : Session β :=
  match s with
  | done (.ok a) => f a
  | done (.error e) => done (.error e)
  | ask address request next => ask address request fun answer => (next answer).bind f

instance : Monad Session where
  pure a := done (.ok a)
  bind := bind

/-- Fails. -/
def fail (e : SearchError) : Session α :=
  done (.error e)

/-- The session of a result that needs no store. -/
def ofExcept (r : Except SearchError α) : Session α :=
  done r

/-- Sends a request and hands on what comes back, a failure included. -/
def attempt (address : Address) (request : Request) :
    Session (Except StoreFailure request.Answer) :=
  ask address request fun answer => done (.ok answer)

/-- Sends a request; a failure of the store fails the session. -/
def request (address : Address) (request : Request) : Session request.Answer :=
  ask address request fun
    | .ok answer => done (.ok answer)
    | .error failure => done (.error (.store failure))

@[simp] theorem bind_done_error (e : SearchError) (f : α → Session β) :
    bind (done (.error e)) f = done (.error e) := rfl

@[simp] theorem bind_ask (address : Address) (r : Request)
    (next : Except StoreFailure r.Answer → Session α) (f : α → Session β) :
    bind (ask address r next) f = ask address r fun answer => (next answer).bind f := rfl

end Session

/-- Something that answers requests out of a state. -/
structure Client (σ : Type) where
  answer : Address → (request : Request) → σ → Except StoreFailure request.Answer × σ

/-- What a session came to: its result, the state of the client after it, and the requests that
were sent, in order. -/
structure Outcome (σ α : Type) where
  result : Except SearchError α
  state : σ
  sent : List (Address × Request)

/-- Carries a session out against a client. -/
def Session.run {σ α : Type} (client : Client σ) (session : Session α) (state : σ) :
    Outcome σ α :=
  match session with
  | .done result => ⟨result, state, []⟩
  | .ask address request next =>
    let (answer, state) := client.answer address request state
    let rest := (next answer).run client state
    { rest with sent := (address, request) :: rest.sent }

end CriteriaSearch

import TxSubmission.Event
import TxSubmission.Failure

/-!
Operations with effects. An operation is a function of the state that it runs in; it ends with a
value or a failure, and either way leaves a new state and the events that were seen on the way.
A sequence stops at its first failure and keeps the events up to there.
-/

namespace TxSubmission

open Number

structure Ran (σ α : Type) where
  outcome : Except Failure α
  state : σ
  trace : Trace

def Act (σ α : Type) : Type := σ → Ran σ α

namespace Act

variable {σ α β : Type}

def pure (a : α) : Act σ α := fun state => ⟨.ok a, state, []⟩

def bind (first : Act σ α) (next : α → Act σ β) : Act σ β := fun state =>
  let ran := first state
  match ran.outcome with
  | .error failure => ⟨.error failure, ran.state, ran.trace⟩
  | .ok a =>
    let rest := next a ran.state
    ⟨rest.outcome, rest.state, ran.trace ++ rest.trace⟩

instance : Monad (Act σ) where
  pure := Act.pure
  bind := Act.bind

def fail (failure : Failure) : Act σ α := fun state => ⟨.error failure, state, []⟩

def raise (error : ExecutionError) : Act σ α := fail (.execution error)

def emit (event : Event) : Act σ Unit := fun state => ⟨.ok (), state, [event]⟩

def log (severity : Log.Severity) (component : Component) (text : String) : Act σ Unit :=
  emit (.logged severity component text)

def modifyGet (f : σ → α × σ) : Act σ α := fun state =>
  let (a, next) := f state
  ⟨.ok a, next, []⟩

def get : Act σ σ := modifyGet fun state => (state, state)

def ofExcept (result : Except Failure α) : Act σ α := fun state => ⟨result, state, []⟩

def ofFault (result : Except Fault α) : Act σ α := ofExcept (result.mapError .fault)

def ofInvalid (result : Except Invalid α) : Act σ α :=
  ofExcept (result.mapError fun cause => .fault (.invalid cause))

/-- Runs an operation and returns how it ended, so that the sequence goes on after a failure. -/
def attempt (act : Act σ α) : Act σ (Except Failure α) := fun state =>
  let ran := act state
  ⟨.ok ran.outcome, ran.state, ran.trace⟩

end Act

end TxSubmission

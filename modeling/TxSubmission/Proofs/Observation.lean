import TxSubmission.Proofs.Sequencing
import TxSubmission.Provider

/-!
What a run shows. Of an operation that speaks to a node an observer sees the questions it asks,
which are its requests without their numbers, and how long it sleeps; `Act.Shows` ties these to the
outcome and to the replies that the node has left, whatever number the next request has and whatever
the state of the client is. A sequence shows what its parts show, one behind the other.
-/

namespace TxSubmission

open Number

/-- A request without its number, and where it is sent. -/
structure Question where
  url : String
  method : Given String
  params : List Json

namespace Trace

def questions (trace : Trace) : List Question :=
  trace.postings.map fun (url, request) => ⟨url, request.method, request.params⟩

@[simp]
theorem questions_nil : questions [] = [] := rfl

@[simp]
theorem sleeps_nil : sleeps [] = [] := rfl

@[simp]
theorem questions_append (before later : Trace) :
    questions (before ++ later) = before.questions ++ later.questions := by
  simp only [questions, postings, List.filterMap_append, List.map_append]

@[simp]
theorem sleeps_append (before later : Trace) :
    sleeps (before ++ later) = before.sleeps ++ later.sleeps :=
  List.filterMap_append

@[simp]
theorem questions_posted (url : String) (request : RpcRequest) (later : Trace) :
    questions (.posted url request :: later) =
      ⟨url, request.method, request.params⟩ :: later.questions := rfl

@[simp]
theorem questions_logged (severity : Log.Severity) (component : Component) (text : String)
    (later : Trace) : questions (.logged severity component text :: later) = later.questions := rfl

theorem exists_of_questions {trace : Trace} {question : Question}
    (asked : trace.questions = [question]) :
    ∃ id, trace.postings = [(question.url, ⟨id, question.method, question.params⟩)] := by
  obtain ⟨⟨url, id, method, params⟩, posted, same⟩ := List.map_eq_singleton_iff.mp asked
  cases same
  exact ⟨id, posted⟩

@[simp]
theorem sleeps_posted (url : String) (request : RpcRequest) (later : Trace) :
    sleeps (.posted url request :: later) = later.sleeps := rfl

@[simp]
theorem sleeps_logged (severity : Log.Severity) (component : Component) (text : String)
    (later : Trace) : sleeps (.logged severity component text :: later) = later.sleeps := rfl

end Trace

structure Ran.Shows {α : Type} (ran : Ran Link α) (outcome : Except Failure α)
    (questions : List Question) (sleeps : List Amount) (left : Node) : Prop where
  outcome : ran.outcome = outcome
  questions : ran.trace.questions = questions
  sleeps : ran.trace.sleeps = sleeps
  left : ran.state.node = left

/-- What an operation shows in front of a node, for every number of the next request and every
state of the client. -/
def Act.Shows {α : Type} (act : Act Link α) (node : Node) (outcome : Except Failure α)
    (questions : List Question) (sleeps : List Amount) (left : Node) : Prop :=
  ∀ link : Link, link.node = node → (act link).Shows outcome questions sleeps left

namespace Act.Shows

variable {α β : Type} {node middle left : Node} {questions later : List Question}
  {sleeps longer : List Amount}

theorem pure (a : α) (node : Node) : Shows (Pure.pure a) node (.ok a) [] [] node :=
  fun _ same => ⟨rfl, rfl, rfl, same⟩

theorem fail (failure : Failure) (node : Node) :
    Shows (Act.fail failure : Act Link α) node (.error failure) [] [] node :=
  fun _ same => ⟨rfl, rfl, rfl, same⟩

theorem raise (error : ExecutionError) (node : Node) :
    Shows (Act.raise error : Act Link α) node (.error (.execution error)) [] [] node :=
  fail _ node

theorem ofFault (result : Except Fault α) (node : Node) :
    Shows (Act.ofFault result) node (result.mapError .fault) [] [] node :=
  fun _ same => ⟨rfl, rfl, rfl, same⟩

theorem log (severity : Log.Severity) (component : Component) (text : String) (node : Node) :
    Shows (Act.log severity component text) node (.ok ()) [] [] node :=
  fun _ same => ⟨rfl, rfl, rfl, same⟩

theorem slept (duration : Amount) (node : Node) :
    Shows (Act.emit (.slept duration)) node (.ok ()) [] [duration] node :=
  fun _ same => ⟨rfl, rfl, rfl, same⟩

theorem bind {first : Act Link α} {next : α → Act Link β} {a : α} {outcome : Except Failure β}
    (begun : first.Shows node (.ok a) questions sleeps middle)
    (goes : (next a).Shows middle outcome later longer left) :
    (first >>= next).Shows node outcome (questions ++ later) (sleeps ++ longer) left := by
  intro link same
  have head := begun link same
  have tail := goes (first link).state head.left
  rw [bind_apply, head.outcome]
  exact ⟨tail.outcome,
    by simp only [Ran.after, Trace.questions_append, head.questions, tail.questions],
    by simp only [Ran.after, Trace.sleeps_append, head.sleeps, tail.sleeps], tail.left⟩

theorem bind_error {first : Act Link α} {failure : Failure}
    (begun : first.Shows node (.error failure) questions sleeps left) (next : α → Act Link β) :
    (first >>= next).Shows node (.error failure) questions sleeps left := by
  intro link same
  have head := begun link same
  rw [bind_apply, head.outcome]
  exact ⟨rfl, head.questions, head.sleeps, head.left⟩

theorem attempt {act : Act Link α} {outcome : Except Failure α}
    (ends : act.Shows node outcome questions sleeps left) :
    act.attempt.Shows node (.ok outcome) questions sleeps left := by
  intro link same
  have shown := ends link same
  exact ⟨congrArg Except.ok shown.outcome, shown.questions, shown.sleeps, shown.left⟩

theorem log_bind {severity : Log.Severity} {component : Component} {text : String}
    {next : Unit → Act Link β} {outcome : Except Failure β}
    (goes : (next ()).Shows node outcome questions sleeps left) :
    (Act.log severity component text >>= next).Shows node outcome questions sleeps left :=
  bind (log severity component text node) goes

theorem map {act : Act Link α} {outcome : Except Failure α}
    (ends : act.Shows node outcome questions sleeps left) (f : α → β) :
    (act >>= fun a => Pure.pure (f a)).Shows node (outcome.map f) questions sleeps left := by
  cases outcome with
  | error failure => exact ends.bind_error _
  | ok a =>
    rw [← List.append_nil questions, ← List.append_nil sleeps]
    exact ends.bind (pure (f a) left)

end Act.Shows

end TxSubmission

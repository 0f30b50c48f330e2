import TxSubmission.Proofs.Conversation

/-!
Nothing leaks from one step of a session to the next. A step takes from the node one reply for
every question that it asks; apart from the replies that are left, it inherits the number of the
next request and the HTTP client, and neither shows in how it ends or in what it asks, logs and
sleeps. So a step does what it would do alone in front of the replies that are left, and two steps
that ask for different methods can change places.
-/

namespace TxSubmission

open Number

def Question.isFor (method : String) (question : Question) : Bool :=
  match question.method with
  | .fit name => name == method
  | .odd _ => false

/-- An event as it is told without the numbers of requests and the clients that send them. -/
def Event.unnumbered? : Event → Option Event
  | .opened _ => none
  | .posted url request => some (.posted url { request with id := 0 })
  | event => some event

namespace Trace

def unnumbered (trace : Trace) : Trace := trace.filterMap Event.unnumbered?

def asked (trace : Trace) (method : String) : Nat :=
  trace.questions.countP (Question.isFor method)

@[simp]
theorem unnumbered_append (before later : Trace) :
    unnumbered (before ++ later) = before.unnumbered ++ later.unnumbered :=
  List.filterMap_append

@[simp]
theorem asked_append (before later : Trace) (method : String) :
    asked (before ++ later) method = before.asked method + later.asked method := by
  simp only [asked, questions_append, List.countP_append]

theorem questions_unnumbered (trace : Trace) : trace.unnumbered.questions = trace.questions := by
  induction trace with
  | nil => rfl
  | cons event later ih =>
    have split : unnumbered (event :: later) = unnumbered [event] ++ unnumbered later :=
      unnumbered_append [event] later
    have whole : questions (event :: later) = questions [event] ++ questions later :=
      questions_append [event] later
    rw [split, whole, questions_append, ih]
    cases event <;> rfl

theorem asked_eq_of_unnumbered {trace other : Trace}
    (same : trace.unnumbered = other.unnumbered) (method : String) :
    trace.asked method = other.asked method := by
  rw [asked, asked, ← questions_unnumbered trace, same, questions_unnumbered]

end Trace

/-- Two runs that end alike and look alike from outside, except for the numbers of requests and the
clients. -/
structure Ran.Alike {α : Type} (ran other : Ran Link α) : Prop where
  outcome : ran.outcome = other.outcome
  trace : ran.trace.unnumbered = other.trace.unnumbered

theorem Ran.Alike.symm {α : Type} {ran other : Ran Link α} (alike : ran.Alike other) :
    other.Alike ran :=
  ⟨alike.outcome.symm, alike.trace.symm⟩

theorem Ran.Alike.asked {α : Type} {ran other : Ran Link α} (alike : ran.Alike other)
    (method : String) : ran.trace.asked method = other.trace.asked method :=
  Trace.asked_eq_of_unnumbered alike.trace method

/-- An operation that takes one reply for each question and depends on nothing but the replies to
the methods it asks for. -/
structure Act.Isolated {α : Type} (act : Act Link α) : Prop where
  takes : ∀ (link : Link) (method : String) (n : Nat),
    (act link).state.node.ahead method n =
      link.node.ahead method ((act link).trace.asked method + n)
  follows : ∀ link other : Link,
    (∀ method, (act link).trace.asked method ≠ 0 →
      ∀ n, link.node.ahead method n = other.node.ahead method n) →
    (act link).Alike (act other)

namespace Act.Isolated

variable {α β : Type}

theorem of_still (outcome : Except Failure α) {shown : Trace} (unasked : shown.questions = []) :
    Isolated (fun link => ⟨outcome, link, shown⟩ : Act Link α) where
  takes link method n := by
    simp only [Trace.asked, unasked, List.countP_nil, Nat.zero_add]
  follows _ _ _ := ⟨rfl, rfl⟩

theorem bind {first : Act Link α} {next : α → Act Link β} (head : first.Isolated)
    (tail : ∀ link a, (first link).outcome = .ok a → (next a).Isolated) :
    (first >>= next).Isolated where
  takes link method n := by
    rw [bind_apply]
    cases ended : (first link).outcome with
    | error failure => exact head.takes link method n
    | ok a =>
      simp only [Ran.after, Trace.asked_append]
      rw [(tail link a ended).takes, head.takes, Nat.add_assoc]
  follows link other agree := by
    have run := bind_apply first next link
    cases ended : (first link).outcome with
    | error failure =>
      rw [ended] at run
      rw [run] at agree
      have alike := head.follows link other agree
      have same : (first other).outcome = .error failure := by rw [← alike.outcome, ended]
      rw [run, bind_apply, same]
      exact ⟨rfl, alike.trace⟩
    | ok a =>
      rw [ended] at run
      simp only [run, Ran.after, Trace.asked_append] at agree
      have alike := head.follows link other fun method used => agree method (by omega)
      have same : (first other).outcome = .ok a := by rw [← alike.outcome, ended]
      -- both runs have taken equally many replies, so what is ahead of the rest agrees too
      have later : (next a (first link).state).Alike (next a (first other).state) := by
        apply (tail link a ended).follows
        intro method used n
        rw [head.takes, head.takes, ← alike.asked]
        exact agree method (by omega) _
      rw [run, bind_apply, same]
      refine ⟨later.outcome, ?_⟩
      simp only [Ran.after, Trace.unnumbered_append, alike.trace, later.trace]

theorem attempt {act : Act Link α} (isolated : act.Isolated) : (Act.attempt act).Isolated where
  takes := isolated.takes
  follows link other agree := by
    have alike := isolated.follows link other agree
    exact ⟨congrArg Except.ok alike.outcome, alike.trace⟩

end Act.Isolated

namespace Provider

theorem unnumbered_opening (endpoint : Endpoint) (link : Link) :
    (opening endpoint link).unnumbered = [] := by
  unfold opening
  split <;> rfl

theorem ahead_advance (node : Node) (method : Given String) (url : String) (params : List Json)
    (name : String) (n : Nat) :
    (node.advance method).ahead name n =
      node.ahead name ([(⟨url, method, params⟩ : Question)].countP (Question.isFor name) + n) := by
  cases method with
  | odd value =>
    have unasked : [(⟨url, .odd value, params⟩ : Question)].countP (Question.isFor name) = 0 := rfl
    rw [unasked, Nat.zero_add]
    rfl
  | fit method =>
    by_cases same : method = name
    · subst same
      have once : [(⟨url, .fit method, params⟩ : Question)].countP (Question.isFor method) = 1 := by
        simp [Question.isFor]
      rw [once, Nat.add_comm]
      exact Node.ahead_advance_same node method n
    · have unasked :
          [(⟨url, .fit method, params⟩ : Question)].countP (Question.isFor name) = 0 := by
        simp [Question.isFor, same]
      rw [unasked, Nat.zero_add]
      exact Node.ahead_advance_other node (Ne.symm same) n

theorem exchange_isolated (endpoint : Endpoint) (method : Given String) (params : List Json) :
    (exchange endpoint method params).Isolated := by
  cases targeted : endpoint.target method params with
  | error failure =>
    constructor
    · intro link name n
      have unasked := (exchange_shows_nothing targeted link.node link rfl).questions
      rw [Trace.asked, unasked, List.countP_nil, Nat.zero_add, exchange_untargeted targeted]
      rfl
    · intro link other _
      rw [exchange_untargeted targeted, exchange_untargeted targeted]
      refine ⟨rfl, ?_⟩
      simp only [Trace.unnumbered_append, unnumbered_opening]
  | ok address =>
    constructor
    · intro link name n
      have shown := exchange_shows targeted link.node link rfl
      rw [Trace.asked, shown.questions, shown.left]
      exact ahead_advance link.node method address.text params name n
    · intro link other agree
      have shown := exchange_shows targeted link.node link rfl
      have same : link.node.next method = other.node.next method := by
        cases method with
        | odd value => rfl
        | fit method =>
          rw [Node.next_fit, Node.next_fit]
          apply agree method
          rw [Trace.asked, shown.questions]
          simp [Question.isFor]
      rw [exchange_targeted targeted, exchange_targeted targeted, same]
      refine ⟨rfl, ?_⟩
      simp only [Trace.unnumbered_append, unnumbered_opening]
      rfl

theorem close_isolated : close.Isolated where
  takes link method n := by
    have kept : (close link).state.node = link.node := by
      simp only [close, Act.modifyGet]
      split <;> rfl
    have unasked : (close link).trace.asked method = 0 := rfl
    rw [kept, unasked, Nat.zero_add]
  follows _ _ _ := ⟨rfl, rfl⟩

end Provider

theorem Act.Speaks.isolated {endpoint : Endpoint} {asks : Given String → List Json → Prop}
    {α : Type} {act : Act Link α} (spoken : act.Speaks endpoint asks) : act.Isolated := by
  induction spoken with
  | still outcome quiet =>
    refine .of_still outcome ?_
    rw [Trace.questions, Trace.postings_of_quiet quiet]
    rfl
  | exchange asked => exact Provider.exchange_isolated endpoint _ _
  | bind _ _ head tail => exact .bind head tail
  | attempt _ isolated => exact .attempt isolated

theorem Custody.perform_isolated (custody : Custody) (step : Step) :
    (custody.perform step).Isolated := by
  by_cases closes : step = .provider .close
  · subst closes
    exact Provider.close_isolated.bind fun _ _ _ => .of_still (.ok Answer.nothing) rfl
  · exact (custody.perform_speaks closes).isolated

def askedBefore : List (Ran Link Answer) → String → Nat
  | [], _ => 0
  | ran :: before, method => ran.trace.asked method + askedBefore before method

/-- The node that has just the replies that runs have left. -/
def Node.residual (node : Node) (before : List (Ran Link Answer)) : Node where
  replies method n := node.ahead method (askedBefore before method + n)

theorem Node.ahead_residual (node : Node) (before : List (Ran Link Answer)) (method : String)
    (n : Nat) :
    (node.residual before).ahead method n = node.ahead method (askedBefore before method + n) := by
  simp only [residual, ahead, Nat.zero_add]

section Sessions

variable {ι : Type} {perform : ι → Act Link Answer}

def linkAfter (perform : ι → Act Link Answer) : List ι → Link → Link
  | [], link => link
  | step :: rest, link => linkAfter perform rest (perform step link).state

theorem runSteps_append (history rest : List ι) (link : Link) :
    runSteps perform (history ++ rest) link =
      runSteps perform history link ++ runSteps perform rest (linkAfter perform history link) := by
  induction history generalizing link with
  | nil => rfl
  | cons step history ih => exact congrArg _ (ih (perform step link).state)

theorem ahead_linkAfter (isolated : ∀ step, (perform step).Isolated) (history : List ι)
    (link : Link) (method : String) (n : Nat) :
    (linkAfter perform history link).node.ahead method n =
      link.node.ahead method (askedBefore (runSteps perform history link) method + n) := by
  induction history generalizing link with
  | nil =>
    change link.node.ahead method n = link.node.ahead method (0 + n)
    rw [Nat.zero_add]
  | cons step history ih =>
    have asked : askedBefore (runSteps perform (step :: history) link) method =
        (perform step link).trace.asked method +
          askedBefore (runSteps perform history (perform step link).state) method := rfl
    rw [asked, Nat.add_assoc, ← (isolated step).takes]
    exact ih (perform step link).state

/-- Two isolated steps that ask for different methods do in either order what they do in the
other. -/
theorem swap (isolated : ∀ step, (perform step).Isolated) (step next : ι) (link : Link)
    (disjoint : ∀ method, (perform step link).trace.asked method = 0 ∨
      (perform next (perform step link).state).trace.asked method = 0) :
    (perform step link).Alike (perform step (perform next link).state) ∧
      (perform next (perform step link).state).Alike (perform next link) := by
  -- the second step goes first: what it asks for is the same in either place
  have later : (perform next (perform step link).state).Alike (perform next link) := by
    apply (isolated next).follows
    intro method used n
    have unasked : (perform step link).trace.asked method = 0 := by
      rcases disjoint method with unasked | unused
      · exact unasked
      · exact absurd unused used
    rw [(isolated step).takes, unasked, Nat.zero_add]
  refine ⟨?_, later⟩
  apply (isolated step).follows
  intro method used n
  have unasked : (perform next link).trace.asked method = 0 := by
    rw [← later.asked]
    rcases disjoint method with unused | unasked
    · exact absurd unused used
    · exact unasked
  rw [(isolated next).takes, unasked, Nat.zero_add]

end Sessions

/-- A step behind any others does what it does alone in front of the replies that they left, with
any number of its first request and any client, and two steps that ask for different methods can
change places. -/
theorem Custody.steps_isolated (custody : Custody) (history : List Step) (step : Step)
    (link : Link) :
    let before := runSteps custody.perform history link
    ∃ ran, runSteps custody.perform (history ++ [step]) link = before ++ [ran] ∧
      (∀ sent client, ran.Alike
        (custody.perform step { node := link.node.residual before, sent, client })) ∧
      ∀ next, ∃ later sooner postponed,
        runSteps custody.perform (history ++ [step, next]) link = before ++ [ran, later] ∧
          runSteps custody.perform (history ++ [next, step]) link = before ++ [sooner, postponed] ∧
          ((∀ method, ran.trace.asked method = 0 ∨ later.trace.asked method = 0) →
            ran.Alike postponed ∧ later.Alike sooner) := by
  intro before
  refine ⟨_, runSteps_append history [step] link, ?_, ?_⟩
  · intro sent client
    apply (custody.perform_isolated step).follows
    intro method _ n
    rw [ahead_linkAfter custody.perform_isolated]
    exact (Node.ahead_residual link.node before method n).symm
  · intro next
    refine ⟨_, _, _, runSteps_append history [step, next] link,
      runSteps_append history [next, step] link, ?_⟩
    exact swap custody.perform_isolated step next (linkAfter custody.perform history link)

end TxSubmission

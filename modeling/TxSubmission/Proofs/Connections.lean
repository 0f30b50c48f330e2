import TxSubmission.Proofs.Confirmation
import TxSubmission.Proofs.SendableRequests

/-!
Connections over a session. A provider numbers its requests one after the other, whatever happens to
them, and posts each through an open client. It creates a client when it needs one and has none,
so that there is never more than one open at a time; only a close ends it. A node whose address
cannot be read is never sent anything, though clients are still created for it.
-/

namespace TxSubmission

open Number

/-- What the connections of a provider go through: a client is created, a request with a number is
posted, or an open client is closed. -/
inductive Mark where
  | opened (timeout : Option (Given Amount))
  | posted (id : Nat)
  | closed

def Event.mark? : Event → Option Mark
  | .opened timeout => some (.opened timeout)
  | .posted _ request => some (.posted request.id)
  | _ => none

namespace Mark

def number? : Mark → Option Nat
  | .posted id => some id
  | _ => none

def isOpening : Mark → Bool
  | .opened _ => true
  | _ => false

def change : Mark → Int
  | .opened _ => 1
  | .posted _ => 0
  | .closed => -1

def numbers (marks : List Mark) : List Nat := marks.filterMap number?

def openings (marks : List Mark) : Nat := marks.countP isOpening

def openClients (brought : Bool) (marks : List Mark) : Int :=
  marks.foldl (fun clients mark => clients + mark.change) (if brought then 1 else 0)

/-- How many requests are the first one, or the first one behind a close. The flag says whether the
next request is such a one. -/
def firsts : Bool → List Mark → Nat
  | _, [] => 0
  | first, .opened _ :: marks => firsts first marks
  | first, .posted _ :: marks => (if first then 1 else 0) + firsts false marks
  | _, .closed :: marks => firsts true marks

theorem numbers_append (before later : List Mark) :
    numbers (before ++ later) = numbers before ++ numbers later :=
  List.filterMap_append

@[simp]
theorem openClients_opened (timeout : Option (Given Amount)) (marks : List Mark) :
    openClients false (.opened timeout :: marks) = openClients true marks := rfl

@[simp]
theorem openClients_posted (brought : Bool) (id : Nat) (marks : List Mark) :
    openClients brought (.posted id :: marks) = openClients brought marks := by
  cases brought <;> rfl

@[simp]
theorem openClients_closed (marks : List Mark) :
    openClients true (.closed :: marks) = openClients false marks := rfl

end Mark

namespace Trace

def marks (trace : Trace) : List Mark := trace.filterMap Event.mark?

@[simp]
theorem marks_append (before later : Trace) :
    marks (before ++ later) = before.marks ++ later.marks :=
  List.filterMap_append

@[simp]
theorem marks_logged (severity : Log.Severity) (component : Component) (text : String)
    (later : Trace) : marks (.logged severity component text :: later) = later.marks := rfl

@[simp]
theorem marks_posted (url : String) (request : RpcRequest) (later : Trace) :
    marks (.posted url request :: later) = .posted request.id :: later.marks := rfl

@[simp]
theorem marks_nil : marks [] = [] := rfl

theorem marks_of_quiet {shown : Trace} (quiet : ∀ event ∈ shown, event.isQuiet = true) :
    shown.marks = [] := by
  refine List.filterMap_eq_nil_iff.mpr fun event member => ?_
  have silent := quiet event member
  cases event with
  | opened | posted => cases silent
  | _ => rfl

theorem numbers_marks (trace : Trace) :
    Mark.numbers trace.marks = trace.postings.map fun posting => posting.2.id := by
  induction trace with
  | nil => rfl
  | cons event later ih =>
    cases event with
    | posted url request => exact congrArg (request.id :: ·) ih
    | _ => exact ih

end Trace

def Step.closes : Step → Bool
  | .provider .close => true
  | _ => false

theorem Step.closes_eq_false {step : Step} (stays : step ≠ .provider .close) :
    step.closes = false := by
  unfold closes
  split
  next => exact absurd rfl stays
  next => rfl

def Link.isOpen (link : Link) : Bool := link.client = .live

namespace Custody

/-- What a step does to the connections. A close shows where a client is open. -/
def stepMarks (custody : Custody) (step : Step) (link : Link) : List Mark :=
  (custody.perform step link).trace.marks ++
    if step.closes && link.isOpen then [.closed] else []

def marks (custody : Custody) : List Step → Link → List Mark
  | [], _ => []
  | step :: rest, link =>
    custody.stepMarks step link ++ marks custody rest (custody.perform step link).state

end Custody

/-- The courses that connections can take, from whether a client is open and the number of the next
request to the same afterwards. -/
inductive Endpoint.Course (endpoint : Endpoint) : Bool → Nat → List Mark → Bool → Nat → Prop
  | still {opened : Bool} {due : Nat} : Course endpoint opened due [] opened due
  | posted {address : Http.Address} {due later : Nat} {marks : List Mark} {opened : Bool}
      (read : endpoint.address = .ok address)
      (rest : Course endpoint true (due + 1) marks opened later) :
      Course endpoint true due (.posted due :: marks) opened later
  | opened {address : Http.Address} {due later : Nat} {marks : List Mark} {opened : Bool}
      (read : endpoint.address = .ok address)
      (rest : Course endpoint true (due + 1) marks opened later) :
      Course endpoint false due (.opened endpoint.timeout :: .posted due :: marks) opened later
  | lost {fault : Fault} {due later : Nat} {marks : List Mark} {opened : Bool}
      (unreadable : endpoint.address = .error fault)
      (rest : Course endpoint true due marks opened later) :
      Course endpoint false due (.opened endpoint.timeout :: marks) opened later
  | closed {due later : Nat} {marks : List Mark} {opened : Bool}
      (rest : Course endpoint false due marks opened later) :
      Course endpoint true due (.closed :: marks) opened later

namespace Endpoint.Course

variable {endpoint : Endpoint} {opened still last : Bool} {due middle later : Nat}
  {marks before behind : List Mark}

theorem trans (first : endpoint.Course opened due before still middle)
    (second : endpoint.Course still middle behind last later) :
    endpoint.Course opened due (before ++ behind) last later := by
  induction first with
  | still => exact second
  | posted read _ ih => exact .posted read (ih second)
  | opened read _ ih => exact .opened read (ih second)
  | lost unreadable _ ih => exact .lost unreadable (ih second)
  | closed _ ih => exact .closed (ih second)

theorem numbers (course : endpoint.Course opened due marks still later) :
    Mark.numbers marks = List.range' due (Mark.numbers marks).length := by
  induction course with
  | still => rfl
  | posted read _ ih => exact congrArg (_ :: ·) ih
  | opened read _ ih => exact congrArg (_ :: ·) ih
  | lost unreadable _ ih => exact ih
  | closed _ ih => exact ih

theorem unposted {fault : Fault} (unreadable : endpoint.address = .error fault)
    (course : endpoint.Course opened due marks still later) : Mark.numbers marks = [] := by
  induction course with
  | still => rfl
  | posted read _ ih | opened read _ ih =>
    rw [unreadable] at read
    cases read
  | lost _ _ ih => exact ih
  | closed _ ih => exact ih

theorem openings {address : Http.Address} (read : endpoint.address = .ok address)
    (course : endpoint.Course opened due marks still later) :
    Mark.openings marks = Mark.firsts (!opened) marks := by
  induction course with
  | still => rfl
  | posted _ _ ih => simpa [Mark.openings, Mark.isOpening, Mark.firsts] using ih
  | opened _ _ ih =>
    simp only [Mark.openings, Mark.firsts, List.countP_cons] at ih ⊢
    simp [ih, Mark.isOpening]
    omega
  | lost unreadable _ ih =>
    rw [read] at unreadable
    cases unreadable
  | closed _ ih => simpa [Mark.openings, Mark.isOpening, Mark.firsts] using ih

theorem openClients (course : endpoint.Course opened due marks still later) :
    Mark.openClients opened marks = if still then 1 else 0 := by
  induction course with
  | still => simp [Mark.openClients]
  | posted _ _ ih | opened _ _ ih | lost _ _ ih | closed _ ih => simpa using ih

end Endpoint.Course

def Endpoint.Fits (endpoint : Endpoint) (brought : Bool) (before behind : List Mark) : Mark → Prop
  | .opened timeout => Mark.openClients brought before = 0 ∧ timeout = endpoint.timeout ∧
      ∀ address, endpoint.address = .ok address → ∃ id later, behind = .posted id :: later
  | .posted _ | .closed => Mark.openClients brought before = 1

namespace Endpoint

variable {endpoint : Endpoint}

theorem Fits.of_openClients {brought owned : Bool} {before shorter behind : List Mark} {mark : Mark}
    (same : Mark.openClients brought before = Mark.openClients owned shorter)
    (fits : endpoint.Fits owned shorter behind mark) :
    endpoint.Fits brought before behind mark := by
  cases mark <;> simpa only [Fits, same] using fits

theorem Course.fits {opened still : Bool} {due later : Nat} {marks : List Mark}
    (course : endpoint.Course opened due marks still later) {before behind : List Mark}
    {mark : Mark} (split : marks = before ++ mark :: behind) :
    endpoint.Fits opened before behind mark := by
  induction course generalizing before with
  | still => cases before <;> cases split
  | posted read rest ih =>
    cases before with
    | nil =>
      cases split
      rfl
    | cons first before =>
      obtain ⟨rfl, tail⟩ := List.cons.inj split
      exact (ih tail).of_openClients (Mark.openClients_posted _ _ _)
  | @opened address due later marks still read rest ih =>
    -- an opening and the posting behind it are one move, so the mark is either or behind both
    match before with
    | [] =>
      cases split
      exact ⟨rfl, rfl, fun _ _ => ⟨due, marks, rfl⟩⟩
    | [first] =>
      cases split
      rfl
    | first :: second :: before =>
      obtain ⟨rfl, tail⟩ := List.cons.inj split
      obtain ⟨rfl, further⟩ := List.cons.inj tail
      exact (ih further).of_openClients (by simp)
  | lost unreadable rest ih =>
    cases before with
    | nil =>
      cases split
      refine ⟨rfl, rfl, fun address read => ?_⟩
      rw [unreadable] at read
      cases read
    | cons first before =>
      obtain ⟨rfl, tail⟩ := List.cons.inj split
      exact (ih tail).of_openClients (Mark.openClients_opened _ _)
  | closed rest ih =>
    cases before with
    | nil =>
      cases split
      rfl
    | cons first before =>
      obtain ⟨rfl, tail⟩ := List.cons.inj split
      exact (ih tail).of_openClients (Mark.openClients_closed _)

def due (endpoint : Endpoint) (link : Link) : Nat :=
  match endpoint.address with
  | .ok _ => link.sent + 1
  | .error _ => 1

end Endpoint

namespace Provider

theorem marks_opening (endpoint : Endpoint) (link : Link) :
    (opening endpoint link).marks =
      if link.isOpen then [] else [.opened endpoint.timeout] := by
  unfold opening Link.isOpen
  by_cases live : link.client = .live
  · simp [live]
  · simp [live, Trace.marks, Event.mark?]

theorem marks_announcement (endpoint : Endpoint) (method : Given String) (params : List Json) :
    (announcement endpoint method params).marks = [] :=
  filterMap_announcement fun _ _ _ => rfl

theorem marks_complaint (heard : Except Failure Members) : (complaint heard).marks = [] :=
  filterMap_complaint fun _ _ _ => rfl

theorem exchange_course {endpoint : Endpoint} {method : Given String} {params : List Json}
    (sendable : RpcRequest.isSendable endpoint.room method params = true) (link : Link) :
    endpoint.Course link.isOpen (endpoint.due link)
      (exchange endpoint method params link).trace.marks
      (exchange endpoint method params link).state.isOpen
      (endpoint.due (exchange endpoint method params link).state) := by
  cases read : endpoint.address with
  | error fault =>
    have untargeted := Endpoint.target_of_unreadable read sendable
    simp only [exchange_untargeted untargeted, Endpoint.due, read, Trace.marks_append,
      marks_opening, marks_announcement, List.append_nil]
    cases link.isOpen with
    | true => exact .still
    | false => exact .lost read .still
  | ok address =>
    have targeted := Endpoint.target_of_address read sendable
    simp only [exchange_targeted targeted, Endpoint.due, read, Trace.marks_append, marks_opening,
      marks_announcement, List.nil_append, Trace.marks_posted, marks_complaint]
    cases link.isOpen with
    | true => exact .posted read .still
    | false => exact .opened read .still

end Provider

namespace Act.Speaks

theorem course {endpoint : Endpoint} {asks : Given String → List Json → Prop}
    (sendable : ∀ method params, asks method params →
      RpcRequest.isSendable endpoint.room method params = true)
    {α : Type} {act : Act Link α} (spoken : act.Speaks endpoint asks) (link : Link) :
    endpoint.Course link.isOpen (endpoint.due link) (act link).trace.marks
      (act link).state.isOpen (endpoint.due (act link).state) := by
  refine spoken.keeps (fun link shown last => endpoint.Course link.isOpen (endpoint.due link)
    shown.marks last.isOpen (endpoint.due last)) ?_ ?_ ?_ link
  · intro link shown quiet
    rw [Trace.marks_of_quiet quiet]
    exact .still
  · intro method params asked link
    exact Provider.exchange_course (sendable method params asked) link
  · intro _ _ _ shown later before after
    rw [Trace.marks_append]
    exact before.trans after

end Act.Speaks

namespace Provider

theorem close_run (link : Link) :
    close link = ⟨.ok (), if link.isOpen then { link with client := .closed } else link, []⟩ := by
  obtain ⟨node, sent, client⟩ := link
  cases client <;> rfl

end Provider

namespace Custody

variable (custody : Custody)

theorem perform_close (link : Link) :
    custody.perform (.provider .close) link =
      ⟨.ok .nothing, if link.isOpen then { link with client := .closed } else link, []⟩ := by
  change (Provider.close >>= fun _ => pure Answer.nothing) link = _
  rw [Act.bind_of_ok (Provider.close_run link)]
  rfl

def isSendable : Bool :=
  custody.account.address.toJson.isSendableField (custody.account.endpoint.room + 1) &&
    custody.account.endpoint.lookupMethod.toJson.isSendable (custody.account.endpoint.room + 1)

theorem isSendable_of_isFit (held : custody.account.address.isFit = true)
    (named : custody.account.endpoint.lookupMethod.isFit = true) : custody.isSendable = true := by
  rw [isSendable, Given.isSendable_of_isFit named, Bool.and_true]
  cases address : custody.account.address with
  | fit text => rfl
  | odd value =>
    rw [address] at held
    cases held

theorem step_course (configured : custody.isSendable = true) {step : Step}
    (sendable : step.isSendable custody.account.endpoint.room = true) (link : Link) :
    custody.account.endpoint.Course link.isOpen (custody.account.endpoint.due link)
      (custody.stepMarks step link) (custody.perform step link).state.isOpen
      (custody.account.endpoint.due (custody.perform step link).state) := by
  unfold stepMarks
  by_cases closes : step = .provider .close
  · subst closes
    rw [custody.perform_close]
    cases opened : link.isOpen with
    | true => exact .closed .still
    | false =>
      simp [opened, Step.closes]
      exact .still
  · rw [Step.closes_eq_false closes, Bool.false_and, if_neg (by decide), List.append_nil]
    obtain ⟨held, named⟩ := Bool.and_eq_true_iff.mp configured
    exact (custody.perform_speaks closes).course
      (fun _ _ asks => isSendable_of_mayAsk held named sendable asks) link

theorem session_course (configured : custody.isSendable = true) {steps : List Step}
    (sendable : ∀ step ∈ steps, step.isSendable custody.account.endpoint.room = true)
    (link : Link) :
    ∃ opened due, custody.account.endpoint.Course link.isOpen (custody.account.endpoint.due link)
      (custody.marks steps link) opened due := by
  induction steps generalizing link with
  | nil => exact ⟨_, _, .still⟩
  | cons step rest ih =>
    obtain ⟨now, others⟩ := List.forall_mem_cons.mp sendable
    obtain ⟨opened, due, course⟩ := ih others (custody.perform step link).state
    exact ⟨opened, due, (custody.step_course configured now link).trans course⟩

theorem numbers_marks (steps : List Step) (link : Link) :
    Mark.numbers (custody.marks steps link) =
      (runSteps custody.perform steps link).flatMap fun ran =>
        ran.trace.postings.map fun posting => posting.2.id := by
  induction steps generalizing link with
  | nil => rfl
  | cons step rest ih =>
    have closed (closes : Bool) : Mark.numbers (if closes then [.closed] else []) = [] := by
      cases closes <;> rfl
    have here : Mark.numbers (custody.stepMarks step link) =
        (custody.perform step link).trace.postings.map fun posting => posting.2.id := by
      rw [← Trace.numbers_marks, stepMarks, Mark.numbers_append, closed, List.append_nil]
    rw [marks, Mark.numbers_append, here, ih]
    rfl

end Custody

/-- How a session is connected, given whether the caller brought an open client along. -/
structure Endpoint.Connects (endpoint : Endpoint) (brought : Bool) (marks : List Mark) : Prop where
  fits : ∀ before mark behind, marks = before ++ mark :: behind →
    endpoint.Fits brought before behind mark
  single : ∀ before behind, marks = before ++ behind →
    Mark.openClients brought before = 0 ∨ Mark.openClients brought before = 1
  created : ∀ address, endpoint.address = .ok address →
    Mark.openings marks = Mark.firsts (!brought) marks
  unposted : ∀ fault, endpoint.address = .error fault → Mark.numbers marks = []

theorem Endpoint.Course.connects {endpoint : Endpoint} {brought still : Bool} {due later : Nat}
    {marks : List Mark} (course : endpoint.Course brought due marks still later) :
    endpoint.Connects brought marks where
  fits _ _ _ split := course.fits split
  single before behind split := by
    cases behind with
    | nil =>
      rw [List.append_nil] at split
      rw [← split, course.openClients]
      cases still with
      | true => exact .inr rfl
      | false => exact .inl rfl
    | cons mark behind =>
      have fits := course.fits split
      cases mark with
      | opened timeout => exact .inl fits.1
      | posted id => exact .inr fits
      | closed => exact .inr fits
  created _ read := course.openings read
  unposted _ unreadable := course.unposted unreadable

namespace Custody

/-- Whatever steps are taken in whatever order in front of a node without halves of surrogate pairs,
the requests are numbered from one without a gap, a client is created where one is needed and there
is none, and a close leaves nothing to close. -/
theorem sessions_connected (custody : Custody) (configured : custody.isSendable = true)
    {steps : List Step}
    (sendable : ∀ step ∈ steps, step.isSendable custody.account.endpoint.room = true)
    (node : Node) (_ : node.IsWhole) (brought : Bool) :
    (∃ n, ((runSteps custody.perform steps (Link.fresh node brought)).flatMap fun ran =>
      ran.trace.postings.map fun posting => posting.2.id) = List.range' 1 n) ∧
    custody.account.endpoint.Connects brought (custody.marks steps (Link.fresh node brought)) ∧
    ∀ link, ∃ closed : Link,
      custody.perform (.provider .close) link = ⟨.ok .nothing, closed, []⟩ ∧
        custody.perform (.provider .close) closed = ⟨.ok .nothing, closed, []⟩ ∧
        closed.isOpen = false ∧ closed.sent = link.sent ∧ closed.node = link.node := by
  obtain ⟨opened, later, course⟩ :=
    custody.session_course configured sendable (Link.fresh node brought)
  have begun : (Link.fresh node brought).isOpen = brought := by
    cases brought <;> rfl
  have first : custody.account.endpoint.due (Link.fresh node brought) = 1 := by
    unfold Endpoint.due
    split <;> rfl
  rw [begun, first] at course
  refine ⟨?_, course.connects, ?_⟩
  · rw [← custody.numbers_marks]
    exact ⟨_, course.numbers⟩
  · intro link
    refine ⟨_, custody.perform_close link, ?_⟩
    rw [perform_close]
    cases opened : link.isOpen with
    | true => exact ⟨rfl, rfl, rfl, rfl⟩
    | false => simp [opened]

def reopening : List Step := [.provider .chainId, .provider .close, .provider .chainId]

theorem sessions_connected_reopening :
    (sample "http://n").isSendable = true ∧
      (∀ step ∈ reopening, step.isSendable Endpoint.usualRoom = true) ∧ Node.silent.IsWhole ∧
      (Endpoint.plain "http://n").Connects false
        ((sample "http://n").marks reopening (Link.fresh Node.silent false)) := by
  have fit : ∀ step ∈ reopening, step.isFit = true := by
    simp [reopening, Step.isFit, ProviderStep.isFit]
  have sendable : ∀ step ∈ reopening, step.isSendable Endpoint.usualRoom = true :=
    fun step member => Step.isSendable_of_isFit (fit step member) _
  have configured := (sample "http://n").isSendable_of_isFit rfl rfl
  have connected :=
    (sample "http://n").sessions_connected configured sendable Node.silent Node.isWhole_silent false
  exact ⟨configured, sendable, Node.isWhole_silent, connected.2.1⟩

/-- A client is not always created for a request: where an address has an open bracket, nothing is
sent through it. -/
theorem clients_not_always_used :
    let marks := (sample "http://[::1").marks [.provider .chainId] (Link.fresh Node.silent false)
    Mark.numbers marks = [] ∧ Mark.openings marks = 1 ∧ Mark.firsts true marks = 0 := by
  obtain ⟨fault, unreadable⟩ := Endpoint.address_plain_bracket
  have untargeted : (Endpoint.plain "http://[::1").target (.fit "eth_chainId") [] =
      .error (.fault fault) := Endpoint.target_of_unreadable unreadable rfl
  have exchanged := Provider.exchange_untargeted untargeted (Link.fresh Node.silent false)
  have run : (sample "http://[::1").perform (.provider .chainId) (Link.fresh Node.silent false) =
      _ :=
    Act.bind_of_error (Act.bind_of_error (Act.bind_of_error exchanged _) _) _
  have shown : (sample "http://[::1").marks [.provider .chainId] (Link.fresh Node.silent false) =
      [.opened none] := by
    rw [marks, stepMarks, run]
    rfl
  rw [shown]
  exact ⟨rfl, rfl, rfl⟩

end Custody

end TxSubmission

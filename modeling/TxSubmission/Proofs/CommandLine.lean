import TxSubmission.Cli.Run
import TxSubmission.Proofs.Connections
import TxSubmission.Proofs.Validity

/-!
Command lines. Behind a command line there is one operation: a manager is made for what the line
says, and takes the step that the task stands for. Beside printing, the program does what this
operation does, and how it exits is told by how the operation ends. A line that lacks what its task
needs is refused before anything is sent.
-/

namespace TxSubmission

open Number

def Event.isPrinted : Event → Bool
  | .printed _ => true
  | _ => false

namespace Trace

def unprinted (trace : Trace) : Trace := trace.filter fun event => !event.isPrinted

def printing (texts : List String) : Trace := texts.map .printed

@[simp]
theorem lines_printing (texts : List String) : (printing texts).lines = texts := by
  induction texts with
  | nil => rfl
  | cons text rest ih => exact congrArg (text :: ·) ih

@[simp]
theorem unprinted_printing (texts : List String) : (printing texts).unprinted = [] := by
  induction texts with
  | nil => rfl
  | cons text rest ih => exact ih

@[simp]
theorem unprinted_append (before later : Trace) :
    unprinted (before ++ later) = before.unprinted ++ later.unprinted :=
  List.filter_append ..

theorem unprinted_of_lines {shown : Trace} (silent : shown.lines = []) :
    shown.unprinted = shown := by
  refine List.filter_eq_self.mpr fun event member => ?_
  have untold := List.filterMap_eq_nil_iff.mp silent event member
  cases event with
  | printed text => cases untold
  | _ => rfl

theorem filterMap_unprinted {α : Type} {find : Event → Option α}
    (silent : ∀ text, find (.printed text) = none) (shown : Trace) :
    shown.unprinted.filterMap find = shown.filterMap find := by
  rw [unprinted, List.filterMap_filter]
  refine List.filterMap_congr fun event _ => ?_
  cases event with
  | printed text => exact (silent text).symm
  | _ => rfl

end Trace

theorem Given.orElse_some {α : Type} [Plain α] (given other : Given α) :
    Given.orElse (some given) other = if given.isTruthy then given else other := by
  rw [orElse, Option.filter_some]
  split <;> rfl

namespace Polling

variable {attempts : Given Int} {given : Given Amount} {interval : Amount}

theorem isNumber_of_isTooFew (few : isTooFew attempts = true) : isNumber attempts = true := by
  cases attempts with
  | fit n => rfl
  | odd value =>
    cases value with
    | bool b => rfl
    | real x => rfl
    | _ => cases few

theorem check_of_few (few : isTooFew attempts = true) (given : Given Amount) :
    check attempts given = .error (.invalid .tooFewAttempts) := by
  unfold check
  rw [isNumber_of_isTooFew few, dif_pos few]
  rfl

theorem check_cases (counted : isNumber attempts = true) (read : intervalOf given = .ok interval) :
    (∃ cause, check attempts given = .error (.invalid cause)) ∨
      interval.isBelowZero = false ∧ ∃ polling, check attempts given = .ok polling := by
  by_cases few : isTooFew attempts = true
  · exact .inl ⟨_, check_of_few few given⟩
  · unfold check
    rw [counted, dif_neg few, read]
    simp only [Bool.not_true, Bool.false_eq_true, if_false, bind, Except.bind]
    split
    next => exact .inl ⟨_, rfl⟩
    next above => exact .inr ⟨Bool.eq_false_iff.mpr above, _, rfl⟩

end Polling

def Given.isShort : Option (Given Int) → Bool
  | some (.fit n) => (shown n).isOk
  | _ => true

def Receipt.isPrintable (receipt : Receipt) : Bool :=
  Given.isShort receipt.blockNumber && Given.isShort receipt.gasUsed

/-- What the program makes of an answer: zero, except that it complains of the error in a reply to a
question for code, and fails to print a receipt with a number that is too long. -/
def Answer.verdict : Answer → Except Failure Int
  | .codeReply reply => .ok (if reply.error.isSome then 1 else 0)
  | .receipt mined =>
    if mined.isPrintable then .ok 0 else .error (.fault (.invalid (.literal .tooLongToShow)))
  | _ => .ok 0

namespace Log

def isStandard (name : String) : Bool :=
  ["NOTSET", "DEBUG", "INFO", "WARN", "WARNING", "ERROR", "CRITICAL", "FATAL"].contains
    (String.ofList (name.toList.flatMap capitals))

theorem exists_rank {name : String} (standard : isStandard name = true) :
    ∃ rank, rankOfName name = .ok rank := by
  unfold isStandard at standard
  unfold rankOfName
  generalize String.ofList (name.toList.flatMap capitals) = capital at standard ⊢
  simp only [List.contains_eq_mem, List.mem_cons, List.not_mem_nil, or_false,
    decide_eq_true_eq] at standard
  rcases standard with rfl | rfl | rfl | rfl | rfl | rfl | rfl | rfl <;> exact ⟨_, rfl⟩

theorem exists_setup {settings : Settings} {name format : String}
    (standard : isStandard name = true) (known : format = "json" ∨ format = "console") :
    ∃ setup, Log.setup settings (some (.fit name)) (some (.fit format)) = .ok setup := by
  have named : (Given.fit name).isTruthy = true := by
    refine (isTruthy_text name).mpr ?_
    rintro rfl
    exact absurd standard (by decide)
  have given : (Given.fit format).isTruthy = true := by
    refine (isTruthy_text format).mpr ?_
    rcases known with rfl | rfl <;> decide
  obtain ⟨rank, ranked⟩ := exists_rank standard
  obtain ⟨shape, formatted⟩ : ∃ shape, formatOf (.fit format) = .ok shape := by
    rcases known with rfl | rfl <;> exact ⟨_, rfl⟩
  refine ⟨⟨rank, shape⟩, ?_⟩
  rw [setup, Given.orElse_some, Given.orElse_some, if_pos named, if_pos given]
  exact bind_eq_ok formatted (bind_eq_ok ranked rfl)

end Log

namespace Cli

def Sending.fees (sending : Sending) (chainId : Option (Given Int)) : FeeTerms :=
  match sending.model with
  | .fit .legacy => .legacy sending.gasPrice
  | .fit .incentive => .incentive (sending.chainId.or chainId) sending.tip sending.cap
  | _ => .market (sending.chainId.or chainId) sending.tip sending.cap

namespace Task

def step (settings : Settings) : Task → ManagerStep
  | .code address block => .code (.fit address) block
  | .call address data block => .call (some (.fit address)) (data.map .fit) block
  | .send sending => .execute (sending.order (sending.fees settings.chainId))
  | .receipt hash => .await (.fit hash)

def lacksFees (settings : Settings) : Task → Bool
  | .send sending => (sending.fees settings.chainId).isIncomplete
  | _ => false

end Task

namespace Invocation

def caller (invocation : Invocation) : Given String :=
  if invocation.sender.isTruthy then invocation.sender else .fit zeroAddress

/-- The operation behind a command line. -/
def operation (invocation : Invocation) (settings : Settings) (task : Task) : Act Link Answer := do
  let custody ← Act.ofFault (Custody.check (invocation.endpoint settings) invocation.caller
    invocation.attempts invocation.interval)
  custody.manager.perform (task.step settings)

/-- Why a command line is refused: it sends from nobody, allows less than one attempt or less than
no interval, or sends a transaction without its fees. An interval is looked at behind a number of
attempts, and fees behind both. -/
inductive Refused (invocation : Invocation) (settings : Settings) (task : Task) : Prop
  | sender (sends : task.needsSender = true) (missing : invocation.sender.isTruthy = false)
  | attempts (few : Polling.isTooFew invocation.attempts = true)
  | interval {interval : Amount} (counted : Polling.isNumber invocation.attempts = true)
      (read : Polling.intervalOf invocation.interval = .ok interval)
      (below : interval.isBelowZero = true)
  | fees {interval : Amount} (counted : Polling.isNumber invocation.attempts = true)
      (read : Polling.intervalOf invocation.interval = .ok interval)
      (lacking : task.lacksFees settings = true)

end Invocation

/-- How the program ends, by how the operation behind it and the printing of its answer ended: with
an exit code, or with a failure that escapes, and with some lines in the end. -/
inductive Ends : Except Failure Int → Except Failure Int → List String → Prop
  | returned (code : Int) : Ends (.ok code) (.ok code) []
  | broken (error : ExecutionError) :
      Ends (.error (.execution error)) (.ok 1)
        ["❌ " ++ error.kind.name ++ ": " ++ error.message]
  | refused (cause : Invalid) :
      Ends (.error (.fault (.invalid cause))) (.ok 2) ["❌ " ++ cause.message]
  | escaped {fault : Fault} (other : ∀ cause, fault ≠ .invalid cause) :
      Ends (.error (.fault fault)) (.error (.fault fault)) []

theorem Ends.unique {ended outcome other : Except Failure Int} {last rest : List String}
    (ends : Ends ended outcome last) (again : Ends ended other rest) :
    outcome = other ∧ last = rest := by
  cases ends with
  | returned | broken =>
    cases again
    exact ⟨rfl, rfl⟩
  | refused cause =>
    cases again with
    | refused => exact ⟨rfl, rfl⟩
    | escaped different => exact absurd rfl (different cause)
  | escaped different =>
    cases again with
    | refused cause => exact absurd rfl (different cause)
    | escaped => exact ⟨rfl, rfl⟩

/-- Whether a report is that of a program which did what a run did. -/
structure Report.Follows (report : Report) (ran : Ran Link Answer) : Prop where
  shown : report.trace.unprinted = ran.trace
  asked : report.trace.postings = ran.trace.postings
  slept : report.trace.sleeps = ran.trace.sleeps
  ends : ∃ before last, report.output = before ++ String.join (last.map (· ++ "\n")) ∧
    Ends (ran.outcome >>= Answer.verdict) report.outcome last

/-- Whether an operation does in front of a link what a run did, printing something before and
behind, and ends as the program makes of the answer. -/
def Narrates (act : Act Link Int) (link : Link) (ran : Ran Link Answer) : Prop :=
  ∃ before behind, act link =
    ⟨ran.outcome >>= Answer.verdict, ran.state,
      Trace.printing before ++ ran.trace ++ Trace.printing behind⟩

def refusal? : List (Except Invalid String) → Option Invalid
  | [] => none
  | .ok _ :: rest => refusal? rest
  | .error cause :: _ => some cause

theorem print_lines (lines : List (Except Invalid String)) (link : Link) :
    ∃ told, (lines.forM fun line => do print (← Act.ofInvalid line) : Act Link PUnit) link =
      ⟨match refusal? lines with
        | none => .ok ()
        | some cause => .error (.fault (.invalid cause)), link, Trace.printing told⟩ := by
  -- the lines in front of one that cannot be made have been printed
  induction lines with
  | nil => exact ⟨[], rfl⟩
  | cons line rest ih =>
    cases line with
    | error cause => exact ⟨[], rfl⟩
    | ok text =>
      obtain ⟨told, printed⟩ := ih
      refine ⟨text :: told, ?_⟩
      have first : (do print (← Act.ofInvalid (.ok text)) : Act Link PUnit) link =
          ⟨.ok (), link, [.printed text]⟩ := rfl
      refine (Act.bind_of_ok first _).trans ?_
      rw [printed]
      rfl

theorem tooLong_of_shown {n : Int} {fault : LiteralFault} (unspelled : shown n = .error fault) :
    fault = .tooLongToShow := by
  unfold shown at unspelled
  split at unspelled
  next => cases unspelled
  next =>
    cases unspelled
    rfl

theorem receiptNumber_cases (label : String) (given : Option (Given Int)) :
    (Given.isShort given = true ∧ ∃ line, receiptNumber label given = .ok line) ∨
      Given.isShort given = false ∧
        receiptNumber label given = .error (.literal .tooLongToShow) := by
  rcases given with - | (n | value)
  · exact .inl ⟨rfl, _, rfl⟩
  · have short : Given.isShort (some (.fit n)) = (shown n).isOk := rfl
    have numbered : receiptNumber label (some (.fit n)) =
        ((shown n).map (label ++ ·)).mapError .literal := rfl
    rw [short, numbered]
    cases spelled : shown n with
    | ok text => exact .inl ⟨rfl, _, rfl⟩
    | error fault =>
      rw [tooLong_of_shown spelled]
      exact .inr ⟨rfl, rfl⟩
  · exact .inl ⟨rfl, _, rfl⟩

theorem refusal?_receiptLines (receipt : Receipt) :
    refusal? (receiptLines receipt) =
      if receipt.isPrintable then none else some (.literal .tooLongToShow) := by
  unfold receiptLines Receipt.isPrintable
  obtain ⟨short, block, numbered⟩ | ⟨long, unnumbered⟩ :=
    receiptNumber_cases "Block:    " receipt.blockNumber
  · rw [short, numbered]
    obtain ⟨short, gas, numbered⟩ | ⟨long, unnumbered⟩ :=
      receiptNumber_cases "Gas Used: " receipt.gasUsed
    · rw [short, numbered]
      cases receipt.contract.isTruthy <;> rfl
    · rw [long, unnumbered]
      rfl
  · rw [long, unnumbered]
    rfl

theorem printReceipt_run (receipt : Receipt) (link : Link) :
    ∃ told, (do printReceipt receipt; pure 0 : Act Link Int) link =
      ⟨(Answer.receipt receipt).verdict, link, Trace.printing told⟩ := by
  obtain ⟨told, printed⟩ := print_lines (receiptLines receipt) link
  refine ⟨told, ?_⟩
  rw [refusal?_receiptLines] at printed
  rw [Answer.verdict]
  cases printable : receipt.isPrintable with
  | true =>
    rw [printable] at printed
    exact (Act.bind_of_ok printed _).trans (congrArg (Ran.mk _ _) (List.append_nil _))
  | false =>
    rw [printable] at printed
    exact Act.bind_of_error printed _

theorem narrates_of_presents {α : Type} (act : Act Link α) (wrap : α → Answer)
    {present : α → Act Link Int}
    (presents : ∀ a link, ∃ told, present a link = ⟨(wrap a).verdict, link, Trace.printing told⟩)
    (link : Link) : Narrates (act >>= present) link ((act >>= fun a => pure (wrap a)) link) := by
  cases ended : act link with
  | mk outcome state shown =>
    cases outcome with
    | error failure =>
      refine ⟨[], [], ?_⟩
      rw [Act.bind_of_error ended, Act.bind_of_error ended]
      exact congrArg (Ran.mk _ _) (List.append_nil _).symm
    | ok a =>
      obtain ⟨told, presented⟩ := presents a state
      refine ⟨[], told, ?_⟩
      rw [Act.bind_of_ok ended, Act.bind_of_ok ended, presented]
      exact congrArg (Ran.mk _ _) (congrArg (· ++ _) (List.append_nil _).symm)

theorem Narrates.announced {act : Act Link Int} {link : Link} {ran : Ran Link Answer}
    (narrates : Narrates act link ran) (text : String) :
    Narrates (print text >>= fun _ => act) link ran := by
  obtain ⟨before, behind, narrated⟩ := narrates
  refine ⟨text :: before, behind, (Act.emit_then _ _ _).trans ?_⟩
  rw [narrated]
  rfl

theorem narrates_fail (failure : Failure) (link : Link) :
    Narrates (Act.fail failure) link ⟨.error failure, link, []⟩ := ⟨[], [], rfl⟩

theorem Sending.terms_cases (sending : Sending) (chainId : Option (Given Int)) :
    ((sending.fees chainId).isIncomplete = false ∧
        sending.terms chainId = .ok (sending.fees chainId)) ∨
      (sending.fees chainId).isIncomplete = true ∧
        ∃ cause, sending.terms chainId = .error cause := by
  have market (chain tip cap : Option (Given Int)) :
      (FeeTerms.market chain tip cap).isIncomplete =
        !(chain.isSome && cap.isSome && tip.isSome) := by
    cases chain <;> cases tip <;> cases cap <;> rfl
  have settles (chain tip cap : Option (Given Int)) (terms : FeeTerms)
      (same : terms.isIncomplete = (FeeTerms.market chain tip cap).isIncomplete) :
      let settled : Except Invalid FeeTerms :=
        if chain.isSome && cap.isSome && tip.isSome then .ok terms else .error .commandWithoutFees
      (terms.isIncomplete = false ∧ settled = .ok terms) ∨
        terms.isIncomplete = true ∧ ∃ cause, settled = .error cause := by
    rw [same, market]
    cases chain.isSome && cap.isSome && tip.isSome with
    | true => exact .inl ⟨rfl, rfl⟩
    | false => exact .inr ⟨rfl, _, rfl⟩
  unfold terms fees
  rcases sending.model with (- | - | -) | value
  · cases sending.gasPrice with
    | none => exact .inr ⟨rfl, _, rfl⟩
    | some price => exact .inl ⟨rfl, rfl⟩
  · exact settles _ _ _ (.market _ _ _) rfl
  · exact settles _ _ _ (.incentive _ _ _) rfl
  · exact settles _ _ _ (.market _ _ _) rfl

namespace Task

theorem perform_narrates (custody : Custody) (settings : Settings) {task : Task}
    (complete : task.lacksFees settings = false) (link : Link) :
    Narrates (task.perform settings custody.manager) link
      (custody.manager.perform (task.step settings) link) := by
  cases task with
  | code address block =>
    refine narrates_of_presents (custody.manager.code (.fit address) block) .codeReply ?_ link
    intro reply link
    rw [Answer.verdict]
    cases reply.error with
    | none => exact ⟨[_], rfl⟩
    | some error => exact ⟨[_], rfl⟩
  | call address data block =>
    exact narrates_of_presents (custody.manager.call (some (.fit address)) (data.map .fit) block)
      .value (fun value link => ⟨[_], rfl⟩) link
  | send sending =>
    obtain ⟨-, settled⟩ | ⟨incomplete, -⟩ := sending.terms_cases settings.chainId
    · refine Narrates.announced ?_ _
      rw [settled, Act.ofInvalid_ok, pure_bind]
      exact narrates_of_presents (custody.manager.execute _) .receipt printReceipt_run link
    · rw [lacksFees, incomplete] at complete
      cases complete
  | receipt hash =>
    exact (narrates_of_presents (custody.manager.await (.fit hash)) .receipt printReceipt_run
      link).announced _

theorem narrates_of_lacksFees (custody : Custody) (settings : Settings) {task : Task}
    (lacking : task.lacksFees settings = true) (link : Link) :
    ∃ cause, Narrates (task.perform settings custody.manager) link
      ⟨.error (.fault (.invalid cause)), link, []⟩ := by
  cases task with
  | send sending =>
    obtain ⟨complete, -⟩ | ⟨-, cause, unsettled⟩ := sending.terms_cases settings.chainId
    · rw [lacksFees, complete] at lacking
      cases lacking
    · refine ⟨cause, Narrates.announced ?_ _⟩
      rw [unsettled, Act.ofInvalid_error, Act.fail_then]
      exact narrates_fail _ link
  | _ => cases lacking

end Task

theorem conclude_run (act : Act Link Int) (link : Link) :
    ∃ last, (conclude act link).trace = (act link).trace ++ Trace.printing last ∧
      Ends (act link).outcome (conclude act link).outcome last := by
  have attempted : act.attempt link =
      ⟨.ok (act link).outcome, (act link).state, (act link).trace⟩ := rfl
  unfold conclude
  rw [Act.bind_of_ok attempted]
  -- of the faults only a refused value is caught
  rcases (act link).outcome with (fault | error) | code
  · cases fault with
    | invalid cause => exact ⟨_, rfl, .refused cause⟩
    | _ => exact ⟨[], rfl, .escaped nofun⟩
  · exact ⟨_, rfl, .broken error⟩
  · exact ⟨[], rfl, .returned code⟩

namespace Invocation

variable {invocation : Invocation} {settings : Settings} {task : Task}

def body (invocation : Invocation) (settings : Settings) (task : Task) : Act Link Int := do
  let custody ← Act.ofFault (invocation.custody settings task)
  task.perform settings custody.manager

theorem perform_run (invocation : Invocation) (settings : Settings) (task : Task) (link : Link) :
    (invocation.perform settings task link).outcome =
        (conclude (invocation.body settings task) link).outcome ∧
      (invocation.perform settings task link).trace =
        (conclude (invocation.body settings task) link).trace ∧
      (invocation.perform settings task link).state.isOpen = false := by
  have attempted : (conclude (invocation.body settings task)).attempt link =
      ⟨.ok (conclude (invocation.body settings task) link).outcome,
        (conclude (invocation.body settings task) link).state,
        (conclude (invocation.body settings task) link).trace⟩ := rfl
  have performed := Act.bind_of_ok attempted fun outcome => do
    Provider.close
    Act.ofExcept outcome
  rw [Act.bind_of_ok (Provider.close_run _)] at performed
  have same : invocation.perform settings task link = _ := performed
  rw [same]
  refine ⟨rfl, List.append_nil _, ?_⟩
  cases opened : (conclude (invocation.body settings task) link).state.isOpen with
  | true => rfl
  | false => exact opened

theorem isTruthy_caller (invocation : Invocation) : invocation.caller.isTruthy = true := by
  unfold caller
  split
  next truthy => exact truthy
  next => exact (isTruthy_text _).mpr (by decide)

theorem custody_eq (sends : task.needsSender = true → invocation.sender.isTruthy = true) :
    invocation.custody settings task = Custody.check (invocation.endpoint settings)
      invocation.caller invocation.attempts invocation.interval := by
  have held : ¬(task.needsSender = true ∧ (!invocation.sender.isTruthy) = true) := by
    rintro ⟨needed, missing⟩
    rw [sends needed] at missing
    cases missing
  have called : Given.orElse (some (Given.orElse (some invocation.sender) (.fit zeroAddress)))
      settings.sender = invocation.caller := by
    rw [Given.orElse_some, Given.orElse_some]
    exact if_pos invocation.isTruthy_caller
  rw [custody, if_neg held, Settings.custody, called]
  rfl

theorem check_caller (invocation : Invocation) (endpoint : Endpoint) :
    ∃ account, Custody.check endpoint invocation.caller invocation.attempts invocation.interval =
      (Polling.check invocation.attempts invocation.interval).map fun polling =>
        { account, polling } := by
  let account : Account :=
    { endpoint, address := invocation.caller, address_given := invocation.isTruthy_caller }
  have held : Account.check endpoint invocation.caller = .ok account :=
    dif_pos invocation.isTruthy_caller
  refine ⟨account, ?_⟩
  rw [Custody.check, held]
  cases Polling.check invocation.attempts invocation.interval <;> rfl

theorem body_narrates (sends : task.needsSender = true → invocation.sender.isTruthy = true)
    (complete : task.lacksFees settings = false) (link : Link) :
    Narrates (invocation.body settings task) link (invocation.operation settings task link) := by
  unfold body operation
  rw [custody_eq sends]
  cases Custody.check (invocation.endpoint settings) invocation.caller invocation.attempts
    invocation.interval with
  | error fault => exact narrates_fail _ link
  | ok custody => exact task.perform_narrates custody settings complete link

theorem custody_of_refused (refused : invocation.Refused settings task) :
    (∃ cause, invocation.custody settings task = .error (.invalid cause)) ∨
      task.lacksFees settings = true ∧
        ∃ custody, invocation.custody settings task = .ok custody := by
  -- a missing sender is found before the budget is looked at
  by_cases sends : task.needsSender = true → invocation.sender.isTruthy = true
  · obtain ⟨account, checked⟩ := invocation.check_caller (invocation.endpoint settings)
    rw [custody_eq sends, checked]
    cases refused with
    | sender needed missing =>
      rw [sends needed] at missing
      cases missing
    | attempts few =>
      rw [Polling.check_of_few few]
      exact .inl ⟨_, rfl⟩
    | interval counted read below =>
      obtain ⟨cause, refused⟩ | ⟨above, -⟩ := Polling.check_cases counted read
      · rw [refused]
        exact .inl ⟨cause, rfl⟩
      · rw [below] at above
        cases above
    | fees counted read lacking =>
      obtain ⟨cause, refused⟩ | ⟨-, polling, budgeted⟩ := Polling.check_cases counted read
      · rw [refused]
        exact .inl ⟨cause, rfl⟩
      · rw [budgeted]
        exact .inr ⟨lacking, _, rfl⟩
  · obtain ⟨needed, missing⟩ := Classical.not_imp.mp sends
    refine .inl ⟨.commandWithoutSender, if_pos ⟨needed, ?_⟩⟩
    rw [Bool.eq_false_iff.mpr missing]
    rfl

theorem body_of_refused (refused : invocation.Refused settings task) (link : Link) :
    ∃ cause, Narrates (invocation.body settings task) link
      ⟨.error (.fault (.invalid cause)), link, []⟩ := by
  unfold body
  obtain ⟨cause, stopped⟩ | ⟨lacking, custody, begun⟩ := custody_of_refused refused
  · rw [stopped]
    exact ⟨cause, narrates_fail _ link⟩
  · rw [begun]
    exact task.narrates_of_lacksFees custody settings lacking link

theorem lines_operation (invocation : Invocation) (settings : Settings) (task : Task)
    (link : Link) : (invocation.operation settings task link).trace.lines = [] := by
  unfold operation
  cases Custody.check (invocation.endpoint settings) invocation.caller invocation.attempts
    invocation.interval with
  | error fault => rfl
  | ok custody => exact (custody.manager_speaks (task.step settings)).lines link

end Invocation

theorem Narrates.follows {invocation : Invocation} {settings : Settings} {task : Task} {link : Link}
    {ran : Ran Link Answer} (narrates : Narrates (invocation.body settings task) link ran)
    (silent : ran.trace.lines = []) {report : Report}
    (ended : report.outcome = (invocation.perform settings task link).outcome)
    (traced : report.trace = (invocation.perform settings task link).trace)
    (printed : report.output = outputText report.trace) : report.Follows ran := by
  obtain ⟨before, behind, narrated⟩ := narrates
  obtain ⟨last, concluded, ends⟩ := conclude_run (invocation.body settings task) link
  obtain ⟨exited, shown, -⟩ := invocation.perform_run settings task link
  rw [narrated] at concluded ends
  rw [exited] at ended
  rw [shown, concluded] at traced
  have unprinted : report.trace.unprinted = ran.trace := by
    simp [traced, Trace.unprinted_of_lines silent]
  refine
    { shown := unprinted
      asked := by
        rw [← unprinted]
        exact (Trace.filterMap_unprinted (fun _ => rfl) report.trace).symm
      slept := by
        rw [← unprinted]
        exact (Trace.filterMap_unprinted (fun _ => rfl) report.trace).symm
      ends := ⟨String.join ((before ++ behind).map (· ++ "\n")), last, ?_, ?_⟩ }
  · simp [printed, outputText, traced, silent, String.append_assoc]
  · rw [ended]
    exact ends

theorem run_of_read {settings : Settings} {words : List String} {invocation : Invocation}
    {task : Task} {setup : Log.Setup} (read : Invocation.read settings words = .ok invocation)
    (asked : invocation.task = some task)
    (logged : Log.setup settings (some invocation.logLevel) (some invocation.logFormat) = .ok setup)
    (node : Node) :
    let ran := invocation.perform settings task { node }
    let report := run settings node words
    report.outcome = ran.outcome ∧ report.trace = ran.trace ∧
      report.output = outputText report.trace := by
  unfold run
  simp only [read, asked, logged, and_self]

theorem follows_of_complete {settings : Settings} {words : List String} {invocation : Invocation}
    {task : Task} {setup : Log.Setup} (read : Invocation.read settings words = .ok invocation)
    (asked : invocation.task = some task)
    (logged : Log.setup settings (some invocation.logLevel) (some invocation.logFormat) = .ok setup)
    (sends : task.needsSender = true → invocation.sender.isTruthy = true)
    (complete : task.lacksFees settings = false) (node : Node) :
    (run settings node words).Follows (invocation.operation settings task { node }) := by
  obtain ⟨ended, traced, printed⟩ := run_of_read read asked logged node
  have narrates := Invocation.body_narrates sends complete { node }
  exact narrates.follows (invocation.lines_operation settings task _) ended traced printed

/-- For a command line that can be read, the program does what the operation does that the line
stands for, and exits as it ends if whatever the node sends can be printed. A line that lacks
something its task needs is refused before anything is sent. No client is left open. -/
theorem run_follows {settings : Settings} {words : List String} {invocation : Invocation}
    {task : Task} {setup : Log.Setup} (read : Invocation.read settings words = .ok invocation)
    (asked : invocation.task = some task)
    (logged : Log.setup settings (some invocation.logLevel) (some invocation.logFormat) = .ok setup)
    (node : Node) :
    let report := run settings node words
    ((task.needsSender = true → invocation.sender.isTruthy = true) →
      task.lacksFees settings = false → node.IsWhole →
      report.Follows (invocation.operation settings task { node })) ∧
    (invocation.Refused settings task →
      ∃ cause, report.Follows ⟨.error (.fault (.invalid cause)), { node }, []⟩) ∧
    (invocation.perform settings task { node }).state.isOpen = false := by
  obtain ⟨ended, traced, printed⟩ := run_of_read read asked logged node
  refine ⟨fun sends complete _ => ?_, fun refused => ?_, ?_⟩
  · have narrates := Invocation.body_narrates sends complete { node }
    exact narrates.follows (invocation.lines_operation settings task _) ended traced printed
  · obtain ⟨cause, narrates⟩ := Invocation.body_of_refused refused { node }
    exact ⟨cause, narrates.follows rfl ended traced printed⟩
  · exact (invocation.perform_run settings task _).2.2

def pausing (seconds : Int) : Settings where
  rpcUrl := .fit "http://n"
  requestTimeout := none
  sender := .fit "0x1"
  blockTime := .fit (.whole seconds)
  pollingAttempts := .fit 2

theorem exists_setup_pausing (seconds : Int) :
    ∃ setup, Log.setup (pausing seconds) (some (.fit "INFO")) (some (.fit "json")) = .ok setup :=
  Log.exists_setup (by decide) (.inl rfl)

def awaiting : Invocation :=
  { Invocation.ofSettings (pausing 1) with task := some (.receipt "0x1") }

theorem read_awaiting : Invocation.read (pausing 1) ["receipt", "0x1"] = .ok awaiting := by
  simp [Invocation.read, Grammar.read, Grammar.items, Grammar.meaning, Grammar.take,
    Grammar.takeOperands, invocationGrammar, receiptGrammar, readTask, fill, operand,
    Operand.group?, Item.isOption, Item.isDashes, Item.isWord, settle, awaiting,
    Invocation.ofSettings, pausing, Except.map, bind, Except.bind, pure, Except.pure]

theorem run_follows_awaiting :
    Invocation.read (pausing 1) ["receipt", "0x1"] = .ok awaiting ∧
      awaiting.task = some (.receipt "0x1") ∧
      Node.silent.IsWhole ∧
      ∃ setup, Log.setup (pausing 1) (some awaiting.logLevel) (some awaiting.logFormat) =
          .ok setup ∧
        (run (pausing 1) Node.silent ["receipt", "0x1"]).Follows
          (awaiting.operation (pausing 1) (.receipt "0x1") { node := Node.silent }) := by
  obtain ⟨setup, logged⟩ := exists_setup_pausing 1
  have follows := run_follows read_awaiting rfl logged Node.silent
  exact ⟨read_awaiting, rfl, Node.isWhole_silent, setup, logged,
    follows.1 nofun rfl Node.isWhole_silent⟩

def mining (block : Nat) : Node where
  replies _ _ :=
    Node.enveloped [("result", .object [("blockNumber", .text (Quantity.written block))])]

theorem operation_awaiting : awaiting.operation (pausing 1) (.receipt "0x1") =
    (Custody.sample "http://n").manager.perform (.await (.fit "0x1")) := rfl

theorem await_mining (block : Nat) : ∃ receipt : Receipt, receipt.blockNumber = some (.fit block) ∧
    ((Custody.sample "http://n").manager.perform (.await (.fit "0x1"))
      { node := mining block }).outcome = .ok (.receipt receipt) := by
  have numbered : Quantity.ofJson (.text (Quantity.written block)) = .ok (some (block : Int)) := by
    rw [Quantity.ofJson, Quantity.decode_written]
    rfl
  obtain ⟨receipt, parsed, kept⟩ : ∃ receipt, Receipt.ofMembers
      [("blockNumber", .text (Quantity.written block))] = .ok receipt ∧
        receipt.blockNumber = some (.fit (block : Int)) :=
    ⟨_, bind_eq_ok numbered rfl, rfl⟩
  have decisive : ((mining block).ahead Provider.receiptMethod 0).isPending
      Endpoint.sampleAddress = false := rfl
  obtain ⟨outcome, decides, awaited⟩ :=
    Polling.brief.poll_of_decisive Endpoint.address_plain "0x1" decisive 2 1
  have found : ((mining block).ahead Provider.receiptMethod 0).Decides Endpoint.sampleAddress
      (.ok receipt) :=
    .found rfl rfl rfl parsed (Receipt.raw_of_ofMembers parsed)
  obtain rfl := decides.unique found
  have performed : ((Custody.sample "http://n").manager.perform (.await (.fit "0x1"))).Shows
      (mining block) (.ok (.receipt receipt)) _ _ _ :=
    awaited.bind (Act.Shows.pure _ _)
  exact ⟨receipt, kept, (performed { node := mining block } rfl).outcome⟩

theorem run_mining {block : Nat} (long : Nat.pow 10 maxDecimalDigits ≤ block) :
    ∃ receipt, (awaiting.operation (pausing 1) (.receipt "0x1")
        { node := mining block }).outcome = .ok (.receipt receipt) ∧
      (run (pausing 1) (mining block) ["receipt", "0x1"]).outcome = .ok 2 := by
  obtain ⟨receipt, numbered, ended⟩ := await_mining block
  refine ⟨receipt, ended, ?_⟩
  obtain ⟨setup, logged⟩ := exists_setup_pausing 1
  obtain ⟨-, -, -, before, last, -, ends⟩ :=
    follows_of_complete read_awaiting rfl logged (fun _ => rfl) rfl (mining block)
  have unprintable : (Answer.receipt receipt).verdict =
      .error (.fault (.invalid (.literal .tooLongToShow))) := by
    have unshown := shown_of_long (long.trans (Int.natAbs_natCast block).ge)
    rw [Answer.verdict, Receipt.isPrintable, numbered, Given.isShort, unshown]
    rfl
  have verdict : (awaiting.operation (pausing 1) (.receipt "0x1")
      { node := mining block }).outcome >>= Answer.verdict =
        .error (.fault (.invalid (.literal .tooLongToShow))) := by
    rw [operation_awaiting, ended]
    exact unprintable
  rw [verdict] at ends
  exact (ends.unique (.refused _)).1

def sending (attempts : Given Int) (interval : Given Amount) : Invocation :=
  { Invocation.ofSettings (pausing 1) with attempts, interval, task := some (.send {}) }

theorem read_blank (seconds : Int) :
    Invocation.read (pausing seconds) ["--attempts=--", "send"] =
        .ok (sending (.odd blankValue) (.fit (.whole seconds))) ∧
      Invocation.read (pausing seconds) ["--interval=--", "send"] =
        .ok (sending (.fit 2) (.odd blankValue)) := by
  constructor <;>
    simp [Invocation.read, Grammar.read, Grammar.items, Grammar.meaning, Grammar.take,
      Grammar.takeOption, Grammar.takeOperands, invocationGrammar, sendGrammar, readTask, textFlag,
      readFlag, splitValue, Item.isOption, Item.isDashes, Item.isWord, settle, sending,
      Invocation.ofSettings, pausing, blankValue, Except.map, bind, Except.bind, pure, Except.pure]

theorem run_sending {seconds : Int} {words : List String} {attempts : Given Int}
    {interval : Given Amount}
    (read : Invocation.read (pausing seconds) words = .ok (sending attempts interval))
    (odd : Polling.check attempts interval = .error (.wrongType .number)) (node : Node) :
    (run (pausing seconds) node words).outcome = .error (.fault (.wrongType .number)) := by
  obtain ⟨setup, logged⟩ := exists_setup_pausing seconds
  obtain ⟨exited, -⟩ := run_of_read read rfl logged node
  obtain ⟨account, checked⟩ := (sending attempts interval).check_caller
    ((sending attempts interval).endpoint (pausing seconds))
  have budget : Polling.check (sending attempts interval).attempts
    (sending attempts interval).interval = .error (.wrongType .number) := odd
  have unbegun : (sending attempts interval).body (pausing seconds) (.send {}) =
      Act.fail (.fault (.wrongType .number)) := by
    rw [Invocation.body, Invocation.custody_eq (fun _ => rfl), checked, budget]
    rfl
  obtain ⟨last, -, ends⟩ :=
    conclude_run ((sending attempts interval).body (pausing seconds) (.send {})) { node }
  rw [exited, ((sending attempts interval).perform_run _ _ _).1]
  rw [unbegun] at ends ⊢
  exact (ends.unique (.escaped nofun)).1

/-- The exit code is not always told by how the operation ends, and a command line that lacks
something is not always refused: the number of a block may be too long to be shown, and a number be
left blank that is looked at before an interval below zero or the fees. -/
theorem exits_not_always_told :
    (∃ receipt, (awaiting.operation (pausing 1) (.receipt "0x1")
        { node := mining (Nat.pow 10 maxDecimalDigits) }).outcome = .ok (.receipt receipt) ∧
      (run (pausing 1) (mining (Nat.pow 10 maxDecimalDigits)) ["receipt", "0x1"]).outcome =
        .ok 2) ∧
    (Amount.whole (-1)).isBelowZero = true ∧ (Task.send {}).lacksFees (pausing (-1)) = true ∧
    (run (pausing (-1)) Node.silent ["--attempts=--", "send"]).outcome =
      .error (.fault (.wrongType .number)) ∧
    (run (pausing (-1)) Node.silent ["--interval=--", "send"]).outcome =
      .error (.fault (.wrongType .number)) := by
  obtain ⟨uncounted, unpaused⟩ := read_blank (-1)
  refine ⟨run_mining (Nat.le_refl _), rfl, rfl, ?_, ?_⟩
  · exact run_sending uncounted rfl Node.silent
  · exact run_sending unpaused rfl Node.silent

end Cli

end TxSubmission

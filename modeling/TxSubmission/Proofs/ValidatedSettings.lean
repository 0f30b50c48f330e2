import TxSubmission.Interface
import TxSubmission.Log.Setup
import TxSubmission.Proofs.Confirmation
import TxSubmission.Settings.Reading

/-!
What settings are good for once they have been read. Reading checks the texts of a deployment,
making a manager checks its budget, and setting up a log checks its format; these checks are made
in three places. Whatever the texts are, what the first lets through the others accept, so a
deployment whose settings can be read never fails for them later, and its managers ask for a
receipt no more often than it says.
-/

namespace TxSubmission

open Number

/-- Whether a question asks for a receipt. A lookup has no parameters, whatever its method is. -/
def Question.isForReceipt (question : Question) : Bool :=
  match question.method, question.params with
  | .fit method, _ :: _ => method = Provider.receiptMethod
  | _, _ => false

theorem Endpoint.not_isForReceipt_of_mem_lookups {endpoint : Endpoint} {terms : FeeTerms}
    {question : Question} (looked : question ∈ endpoint.lookups terms) :
    ¬question.isForReceipt = true := by
  unfold lookups at looked
  split at looked
  next =>
    rw [List.mem_singleton.mp looked]
    simp [Question.isForReceipt]
  next => cases looked

theorem Question.not_isForReceipt_of_method {question : Question}
    (submits : question.method = .fit Provider.sendMethod) : ¬question.isForReceipt = true := by
  obtain ⟨url, method, params⟩ := question
  cases submits
  cases params <;> simp [isForReceipt, Provider.sendMethod, Provider.receiptMethod]

theorem Polling.exists_check {attempts : Int} {interval : Amount} (enough : 1 ≤ attempts)
    (nonneg : interval.isBelowZero = false) :
    ∃ polling, check (.fit attempts) (.fit interval) = .ok polling := by
  have patient : isTooFew (.fit attempts) = false := by
    simpa [isTooFew, turns?] using enough
  exact ⟨⟨.fit attempts, interval, patient, nonneg⟩, check_eq_ok_iff.mpr ⟨enough, nonneg, rfl, rfl⟩⟩

namespace Custody

variable {custody : Custody} {attempts : Int} {interval : Amount}

theorem countP_isForReceipt_le
    (budgeted : Polling.check (.fit attempts) (.fit interval) = .ok custody.polling)
    (order : Order) (link : Link) :
    ((custody.manager.execute order link).trace.questions.countP Question.isForReceipt : Int) ≤
      attempts := by
  obtain ⟨enough, -⟩ := Polling.check_eq_ok_iff.mp budgeted
  obtain ⟨outcome, submissions, receipts, sleeps, left, course, how⟩ :=
    execute_shows budgeted order link.node
  have unsubmitting : submissions.countP Question.isForReceipt = 0 := by
    rw [List.countP_eq_zero]
    intro question member
    cases how with
    | unsent => cases member
    | settled sends | awaited sends =>
      exact Question.not_isForReceipt_of_method (sends.submitting question member)
  have unlooking :
      (custody.account.endpoint.lookups order.terms).countP Question.isForReceipt = 0 := by
    rw [List.countP_eq_zero]
    exact fun _ looked => Endpoint.not_isForReceipt_of_mem_lookups looked
  have fewer : receipts.countP Question.isForReceipt ≤ receipts.length := List.countP_le_length
  have bounded : (receipts.length : Int) ≤ attempts := by
    cases how with
    | unsent | settled =>
      rw [List.length_nil]
      omega
    | awaited _ _ _ bounded => rwa [List.length_replicate]
  rw [(course link rfl).questions, List.countP_append, List.countP_append, unlooking, unsubmitting]
  omega

end Custody

namespace Settings

theorem readOr_fit {α : Type} {valid : α → Prop} {fallback : α}
    {read : String → Except FieldFault α} {text : Option String} {given : Given α}
    (preset : valid fallback) (checks : ∀ text a, read text = .ok a → valid a)
    (done : readOr (.fit fallback) read text = .ok given) : ∃ a, given = .fit a ∧ valid a := by
  cases text with
  | none =>
    cases done
    exact ⟨fallback, rfl, preset⟩
  | some text =>
    obtain ⟨found, given_eq, done⟩ := exists_of_map_eq_ok done
    obtain ⟨a, read_eq, rfl⟩ := exists_of_map_eq_ok given_eq
    exact ⟨a, done.symm, checks text a read_eq⟩

theorem le_of_readAtLeast {least n : Int} {text : String} (done : readAtLeast least text = .ok n) :
    least ≤ n := by
  obtain ⟨m, -, done⟩ := exists_of_bind_eq_ok done
  split at done
  next => cases done
  next enough =>
    cases done
    omega

theorem isBelowZero_of_readSeconds {text : String} {amount : Amount}
    (done : readSeconds text = .ok amount) : amount.isBelowZero = false := by
  unfold readSeconds at done
  split at done
  next => cases done
  next => cases done
  next x _ _ =>
    split at done
    next => cases done
    next enough =>
      cases done
      exact eq_false_of_ne_true enough

theorem formatOf_of_readLogFormat {text format : String} (done : readLogFormat text = .ok format) :
    ∃ shape, Log.formatOf (.fit format) = .ok shape := by
  unfold readLogFormat at done
  split at done
  next known =>
    cases done
    rcases List.mem_pair.mp known with rfl | rfl
    · exact ⟨.json, rfl⟩
    · exact ⟨.console, rfl⟩
  next => cases done

/-- What is known of settings once they have been read. -/
structure Checked (settings : Settings) (attempts : Int) (interval : Amount) (shape : Log.Format) :
    Prop where
  attempts_eq : settings.pollingAttempts = .fit attempts
  interval_eq : settings.blockTime = .fit interval
  attempts_pos : 1 ≤ attempts
  interval_nonneg : interval.isBelowZero = false
  shape_eq : Log.formatOf settings.logFormat = .ok shape

theorem checked_of_ofTexts {text : String → Option String} {settings : Settings}
    (read : ofTexts text = .ok settings) :
    ∃ attempts interval shape, Checked settings attempts interval shape := by
  unfold ofTexts at read
  dsimp only at read
  split at read
  next blockTime chainId logFormat pollingAttempts timeout timed _ formatted tried _ =>
    cases read
    have nonneg : ∃ interval, blockTime = .fit interval ∧ interval.isBelowZero = false :=
      readOr_fit (by decide) (fun _ _ => isBelowZero_of_readSeconds) timed
    have enough : ∃ attempts, pollingAttempts = .fit attempts ∧ 1 ≤ attempts :=
      readOr_fit (by decide) (fun _ _ => le_of_readAtLeast) tried
    have known : ∃ format, logFormat = .fit format ∧
        ∃ shape, Log.formatOf (.fit format) = .ok shape :=
      readOr_fit ⟨.json, rfl⟩ (fun _ _ => formatOf_of_readLogFormat) formatted
    obtain ⟨interval, rfl, nonneg⟩ := nonneg
    obtain ⟨attempts, rfl, enough⟩ := enough
    obtain ⟨format, rfl, shape, shaped⟩ := known
    exact ⟨attempts, interval, shape, rfl, rfl, enough, nonneg, shaped⟩
  next => cases read

namespace Checked

variable {settings : Settings} {attempts : Int} {interval : Amount} {shape : Log.Format}

theorem exists_custody (checked : settings.Checked attempts interval shape) (endpoint : Endpoint)
    {sender : Given String} (named : sender.isTruthy = true) :
    ∃ custody, settings.custody endpoint (some sender) none none = .ok custody ∧
      Custody.check endpoint sender (.fit attempts) (.fit interval) = .ok custody := by
  have kept : Given.orElse (some sender) settings.sender = sender := by
    rw [Given.orElse, Option.filter_some, named]
    rfl
  let account : Account := { endpoint, address := sender, address_given := named }
  have held : Account.check endpoint sender = .ok account := dif_pos named
  obtain ⟨polling, budgeted⟩ :=
    Polling.exists_check checked.attempts_pos checked.interval_nonneg
  have built : Custody.check endpoint sender (.fit attempts) (.fit interval) =
      .ok { account, polling } := by
    unfold Custody.check
    rw [held, budgeted]
    rfl
  refine ⟨_, ?_, built⟩
  unfold custody
  rw [kept, checked.attempts_eq, checked.interval_eq]
  exact built

theorem setup_eq (checked : settings.Checked attempts interval shape)
    (level : Option (Given String)) {format : Option (Given String)}
    (unchosen : format.filter Given.isTruthy = none) :
    Log.setup settings level format =
      match Given.orElse level settings.logLevel with
      | .odd _ => .error .notText
      | .fit name => (Log.rankOfName name).map fun threshold => { threshold, format := shape } := by
  have fallen : Given.orElse format settings.logFormat = settings.logFormat := by
    rw [Given.orElse, unchosen]
    rfl
  unfold Log.setup
  rw [fallen, checked.shape_eq]
  cases Given.orElse level settings.logLevel with
  | odd value => rfl
  | fit name =>
    dsimp only
    cases Log.rankOfName name <;> rfl

theorem setup_ne (checked : settings.Checked attempts interval shape)
    (level : Option (Given String)) {format : Option (Given String)}
    (unchosen : format.filter Given.isTruthy = none) {text : String} :
    Log.setup settings level format ≠ .error (.invalid (.unknownLogFormat text)) := by
  rw [checked.setup_eq level unchosen]
  cases Given.orElse level settings.logLevel with
  | odd value => nofun
  | fit name =>
    unfold Log.rankOfName
    dsimp only
    split <;> nofun

end Checked

/-- What settings are there for. A manager for any account is made without a budget of its own and
has that of the settings, which no execution exceeds; a log that is set up without a format of its
own is never refused for the format. -/
structure Usable (settings : Settings) (attempts : Int) (interval : Amount) : Prop where
  attempts_eq : settings.pollingAttempts = .fit attempts
  interval_eq : settings.blockTime = .fit interval
  attempts_pos : 1 ≤ attempts
  managed : ∀ (endpoint : Endpoint) (sender : Given String), sender.isTruthy = true →
    ∃ custody, settings.custody endpoint (some sender) none none = .ok custody ∧
      custody.account.endpoint = endpoint ∧ custody.account.address = sender ∧
      custody.polling.attempts = .fit attempts ∧ custody.polling.interval = interval ∧
      ∀ (order : Order) (link : Link),
        ((custody.manager.execute order link).trace.questions.countP Question.isForReceipt : Int) ≤
          attempts
  formatted : ∀ level format : Option (Given String), format.filter Given.isTruthy = none →
    ∀ text, Log.setup settings level format ≠ .error (.invalid (.unknownLogFormat text))

theorem Checked.usable {settings : Settings} {attempts : Int} {interval : Amount}
    {shape : Log.Format} (checked : settings.Checked attempts interval shape) :
    settings.Usable attempts interval where
  attempts_eq := checked.attempts_eq
  interval_eq := checked.interval_eq
  attempts_pos := checked.attempts_pos
  managed := by
    intro endpoint sender named
    obtain ⟨custody, given, built⟩ := checked.exists_custody endpoint named
    obtain ⟨reached, held, budgeted⟩ := Custody.of_check built
    obtain ⟨-, -, counted, paused⟩ := Polling.check_eq_ok_iff.mp budgeted
    exact ⟨custody, given, reached, held, counted, paused, Custody.countP_isForReceipt_le budgeted⟩
  formatted level _ unchosen _ := checked.setup_ne level unchosen

/-- The defaults can be used as they stand, with the budget that callers know by name. -/
theorem default_usable : ({} : Settings).Usable Interface.pollingAttempts Interface.blockTime := by
  have checked : ({} : Settings).Checked Interface.pollingAttempts Interface.blockTime .json :=
    ⟨rfl, rfl, by decide, by decide, rfl⟩
  exact checked.usable

/-- Settings that can be read can be used, whatever the environment and the file say. -/
theorem read_usable {environment : List (String × String)} {file : Option String}
    {settings : Settings} (done : read environment file = .ok settings) :
    ∃ attempts interval, settings.Usable attempts interval := by
  obtain ⟨attempts, interval, shape, checked⟩ := checked_of_ofTexts done
  exact ⟨attempts, interval, checked.usable⟩

theorem read_usable_signed :
    let spelled := [("Receipt_Polling_Attempts", " +1_0.0 "), ("BLOCK_TIME_SECONDS", "-0.0")]
    ∃ settings, read spelled none = .ok settings ∧ settings.pollingAttempts = .fit 10 ∧
      ∃ attempts interval, settings.Usable attempts interval := by
  intro spelled
  let settings : Settings :=
    { blockTime := .fit (.real (.ofRatio true 0 1)), pollingAttempts := .fit 10 }
  have done : read spelled none = .ok settings := rfl
  exact ⟨settings, done, rfl, read_usable done⟩

end Settings

end TxSubmission

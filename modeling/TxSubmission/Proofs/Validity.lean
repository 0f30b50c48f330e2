import TxSubmission.Proofs.SendableRequests

/-!
Which orders can be submitted. An order is refused if a fee that its terms need is missing, or if
one of its numbers is below zero: either no request is built for it, or the request cannot be
written. Any other order of numbers and texts is built and written. Either way this is settled
before a request is numbered.
-/

namespace TxSubmission

def Json.isBelowZero : Json → Bool
  | .int n => n < 0
  | _ => false

theorem Json.isBelowZero_ofText? (text : Option String) : (ofText? text).isBelowZero = false := by
  cases text <;> rfl

theorem exists_of_isOk_eq_false {ε α : Type} {result : Except ε α} (ended : result.isOk = false) :
    ∃ fault, result = .error fault := by
  cases result with
  | error fault => exact ⟨fault, rfl⟩
  | ok a => cases ended

theorem exists_of_isOk {ε α : Type} {result : Except ε α} (ended : result.isOk = true) :
    ∃ a, result = .ok a := by
  cases result with
  | error fault => cases ended
  | ok a => exact ⟨a, rfl⟩

theorem isOk_map {ε α β : Type} (result : Except ε α) (f : α → β) :
    (result.map f).isOk = result.isOk := by
  cases result <;> rfl

theorem Quantity.isOk_encodeField (content : Json) :
    (encodeField content).isOk = !content.isBelowZero := by
  cases content with
  | int n =>
    cases n with
    | ofNat n => rfl
    | negSucc n => simp [encodeField, encode, Json.isBelowZero, Except.map, Except.isOk,
        Except.toBool, Int.negSucc_lt_zero]
  | bool b => cases b <;> rfl
  | _ => rfl

namespace Request

theorem isOk_encodeFields (fields : Members) :
    (encodeFields fields).isOk = !fields.any fun field => field.2.isBelowZero := by
  induction fields with
  | nil => rfl
  | cons first rest ih =>
    obtain ⟨name, content⟩ := first
    have head := Quantity.isOk_encodeField content
    rw [encodeFields, List.any_cons, Bool.not_or, ← head, ← ih]
    cases Quantity.encodeField content with
    | error cause => rfl
    | ok written => rw [isOk_map]; rfl

end Request

/-- Whether a fault is that of a refused value, unless data is given that is no text. -/
def Fault.IsRefusal (data : Option (Given String)) (fault : Fault) : Prop :=
  ∀ text : Option String, data = text.map .fit → ∃ cause, fault = .invalid cause

theorem Fault.isRefusal_invalid (data : Option (Given String)) (cause : Invalid) :
    (invalid cause).IsRefusal data := fun _ _ => ⟨cause, rfl⟩

namespace Draft

def isNegative (draft : Draft) : Bool :=
  (draft.slots none).any fun field => field.2.isBelowZero

theorem isOk_payload {draft : Draft} {request : Request} (checked : draft.check = .ok request) :
    request.payload.isOk = !draft.isNegative := by
  have set : (fun field : String × Json => !field.2.isNull && field.2.isBelowZero) =
      fun field => field.2.isBelowZero := by
    funext ⟨name, content⟩
    cases content <;> rfl
  have slots : (request.slots.any fun field => field.2.isBelowZero) = draft.isNegative := by
    rw [(checked_of_check checked).slots, isNegative]
    simp only [Draft.slots, List.any_cons, Json.isBelowZero_ofText?]
  rw [Request.payload, Request.wire, isOk_map, Request.isOk_encodeFields, Request.fields,
    List.any_filter, set, slots]

theorem isRefusal_of_check {draft : Draft} {fault : Fault} (refused : draft.check = .error fault) :
    fault.IsRefusal draft.data := by
  intro data given
  unfold check at refused
  split at refused
  next =>
    cases refused
    exact ⟨_, rfl⟩
  next =>
    split at refused
    next =>
      split at refused
      next =>
        cases refused
        exact ⟨_, rfl⟩
      next =>
        split at refused
        next marked =>
          rw [given] at marked
          cases data <;> cases marked
        next => cases refused
    next =>
      cases refused
      exact ⟨_, rfl⟩

theorem exists_check {draft : Draft} {sender : Given String} {fees : Fees} {data : Option String}
    (sent : draft.sender = some sender) (truthy : sender.isTruthy = true)
    (modelled : Fees.ofFields draft.gasPrice draft.chainId draft.tip draft.cap draft.incentive =
      .ok fees) (given : draft.data = data.map .fit) : ∃ request, draft.check = .ok request := by
  have marked : ∃ text, markedData draft.data = .ok text := by
    rw [given]
    cases data <;> exact ⟨_, rfl⟩
  obtain ⟨text, marked⟩ := marked
  unfold check
  rw [sent]
  simp only [truthy, dif_pos, modelled]
  split
  next fault refused =>
    rw [marked] at refused
    cases refused
  next => exact ⟨_, rfl⟩

end Draft

def FeeTerms.isIncomplete (terms : FeeTerms) : Bool := terms.fees.any Option.isNone

theorem FeeTerms.exists_of_complete {chainId tip cap : Option (Given Int)}
    (complete : (market chainId tip cap).isIncomplete = false) :
    ∃ c t p, chainId = some c ∧ tip = some t ∧ cap = some p := by
  cases chainId <;> cases tip <;> cases cap <;>
    first | exact ⟨_, _, _, rfl, rfl, rfl⟩ | cases complete

def Order.isNegative (order : Order) : Bool :=
  ([order.gasLimit, order.value] ++ order.terms.fees).any fun number =>
    (Given.toJson? number).isBelowZero

namespace Account

variable {account : Account} {order : Order} {looked : String}

theorem request_of_incomplete (account : Account) (incomplete : order.terms.isIncomplete = true)
    (looked : String) : ∃ cause, account.request order looked = .error (.invalid cause) := by
  have market {cargo : Cargo} {chainId tip cap : Option (Given Int)}
      (missing : (FeeTerms.market chainId tip cap).isIncomplete = true)
      (incentive : Option (Given String)) :
      ∃ cause, Request.market cargo chainId tip cap incentive = .error (.invalid cause) := by
    unfold Request.market
    cases tip <;> cases cap <;> cases chainId <;> first | exact ⟨_, rfl⟩ | cases missing
  unfold request
  cases terms : order.terms with
  | legacy gasPrice =>
    rw [terms] at incomplete
    cases gasPrice with
    | none => exact ⟨_, rfl⟩
    | some price => cases incomplete
  | market chainId tip cap =>
    rw [terms] at incomplete
    exact market incomplete none
  | incentive chainId tip cap =>
    rw [terms] at incomplete
    simp only [Request.incentivized]
    split
    next => exact market incomplete _
    next => exact ⟨_, rfl⟩

theorem exists_request (account : Account) (complete : order.terms.isIncomplete = false)
    {data : Option String} (given : order.data = data.map .fit) (inhabited : looked ≠ "") :
    ∃ request, account.request order looked = .ok request ∧
      (account.recipe order looked).toDraft.check = .ok request := by
  have checks {draft : Draft} {fees : Fees} (cargo : draft.toCargo = account.cargo order)
      (modelled : Fees.ofFields draft.gasPrice draft.chainId draft.tip draft.cap draft.incentive =
        .ok fees) : ∃ request, draft.check = .ok request := by
    have sent : draft.sender = some account.address := by rw [cargo, Account.cargo]
    have carried : draft.data = data.map .fit := by rw [cargo, Account.cargo, given]
    exact Draft.exists_check sent account.address_given modelled carried
  unfold request recipe
  cases terms : order.terms with
  | legacy gasPrice =>
    rw [terms] at complete
    cases gasPrice with
    | none => cases complete
    | some price =>
      obtain ⟨request, checked⟩ :=
        @checks { account.cargo order with gasPrice := some price } (.legacy price) rfl rfl
      exact ⟨request, checked, checked⟩
  | market chainId tip cap =>
    rw [terms] at complete
    obtain ⟨chain, priority, whole, rfl, rfl, rfl⟩ := FeeTerms.exists_of_complete complete
    obtain ⟨request, checked⟩ :=
      @checks
        { account.cargo order with
          chainId := some chain, tip := some priority, cap := some whole }
        (.market chain priority whole none) rfl rfl
    exact ⟨request, checked, checked⟩
  | incentive chainId tip cap =>
    rw [terms] at complete
    obtain ⟨chain, priority, whole, rfl, rfl, rfl⟩ := FeeTerms.exists_of_complete complete
    have truthy : (some (Given.fit looked)).any Given.isTruthy = true :=
      (isTruthy_text looked).mpr inhabited
    obtain ⟨request, checked⟩ :=
      @checks
        { account.cargo order with
          chainId := some chain, tip := some priority, cap := some whole
          incentive := some (.fit looked) }
        (.market chain priority whole (some (.fit looked))) rfl rfl
    refine ⟨request, ?_, checked⟩
    simp only [Request.incentivized, truthy, if_true]
    exact checked

theorem isNegative_recipe (account : Account) (negative : order.isNegative = true)
    (looked : String) : (account.recipe order looked).toDraft.isNegative = true := by
  unfold Order.isNegative at negative
  unfold Draft.isNegative recipe
  cases terms : order.terms <;>
    simp_all [FeeTerms.fees, Recipe.toDraft, Draft.slots, cargo, Given.toJson?] <;> tauto

theorem not_isNegative_recipe (account : Account) (above : order.isNegative = false)
    (sender : (Given.toJson? (some account.address)).isBelowZero = false)
    (recipient : (Given.toJson? order.recipient).isBelowZero = false) (looked : String) :
    (account.recipe order looked).toDraft.isNegative = false := by
  have found : (Given.fit looked).toJson.isBelowZero = false := rfl
  have absent : Json.null.isBelowZero = false := rfl
  unfold Order.isNegative at above
  unfold Draft.isNegative recipe
  cases terms : order.terms <;>
    simp_all [FeeTerms.fees, Recipe.toDraft, Draft.slots, cargo, Given.toJson?,
      Json.isBelowZero_ofText?]

theorem data_recipe (account : Account) (order : Order) (looked : String) :
    (account.recipe order looked).toDraft.data = order.data := by
  unfold recipe
  cases order.terms <;> rfl

/-- An order with a missing fee or a number below zero is refused where it would be submitted,
whatever was looked up for it. -/
theorem refuses (account : Account)
    (invalid : order.terms.isIncomplete = true ∨ order.isNegative = true) (looked : String) :
    ∃ fault, fault.IsRefusal order.data ∧
      (Act.ofFault (account.request order looked) >>= Provider.send account.endpoint) =
        Act.fail (.fault fault) := by
  have refused {fault : Fault} (built : account.request order looked = .error fault) :
      (Act.ofFault (account.request order looked) >>= Provider.send account.endpoint) =
        Act.fail (.fault fault) := by
    rw [built]
    rfl
  rcases invalid with incomplete | negative
  · obtain ⟨cause, built⟩ := account.request_of_incomplete incomplete looked
    exact ⟨_, Fault.isRefusal_invalid _ cause, refused built⟩
  · rw [request_eq] at refused ⊢
    obtain ⟨cause, built⟩ | checked := (account.recipe order looked).build_cases
    · exact ⟨_, Fault.isRefusal_invalid _ cause, refused built⟩
    · cases built : (account.recipe order looked).toDraft.check with
      | error fault =>
        have refusal := Draft.isRefusal_of_check built
        rw [data_recipe] at refusal
        exact ⟨fault, refusal, refused (checked.trans built)⟩
      | ok request =>
        have unwritten := Draft.isOk_payload built
        rw [account.isNegative_recipe negative] at unwritten
        obtain ⟨cause, unwritten⟩ := exists_of_isOk_eq_false unwritten
        refine ⟨_, Fault.isRefusal_invalid _ cause, ?_⟩
        rw [checked, built, Act.ofFault_ok, pure_bind, Provider.send, unwritten]
        rfl

end Account

end TxSubmission

import TxSubmission.Proofs.Conversation

/-!
Requests that can be sent. What a request has in its slots is what its draft was given, apart from
the mark that its data may lack, and writing it turns whole numbers into texts. So a step whose
arguments can be sent asks questions that can be sent, whatever is looked up for it and whatever
hash is returned to it.
-/

namespace TxSubmission

open Number

namespace Fees

theorem fields_of_ofFields {gasPrice chainId tip cap : Option (Given Int)}
    {incentive : Option (Given String)} {fees : Fees}
    (built : ofFields gasPrice chainId tip cap incentive = .ok fees) :
    fees.gasPrice? = gasPrice ∧ fees.chainId? = chainId ∧ fees.tip? = tip ∧ fees.cap? = cap ∧
      fees.incentive? = incentive := by
  unfold ofFields at built
  split at built
  next => cases built
  next unmixed =>
    cases tip with
    | none =>
      cases cap with
      | some cap => cases built
      | none =>
        cases incentive with
        | some incentive => cases built
        | none =>
          cases gasPrice with
          | none =>
            cases built
            exact ⟨rfl, rfl, rfl, rfl, rfl⟩
          | some price =>
            cases built
            cases chainId with
            | none => exact ⟨rfl, rfl, rfl, rfl, rfl⟩
            | some chainId => exact absurd rfl unmixed
    | some tip =>
      cases cap with
      | none => cases built
      | some cap =>
        cases chainId with
        | none => cases built
        | some chainId =>
          cases built
          cases gasPrice with
          | none => exact ⟨rfl, rfl, rfl, rfl, rfl⟩
          | some price => exact absurd rfl unmixed

end Fees

namespace Draft

def slots (draft : Draft) (data : Option String) : Members :=
  [("from", Given.toJson? draft.sender),
   ("to", Given.toJson? draft.recipient),
   ("gas", Given.toJson? draft.gas),
   ("gasPrice", Given.toJson? draft.gasPrice),
   ("value", Given.toJson? draft.value),
   ("data", .ofText? data),
   ("nonce", Given.toJson? draft.nonce),
   ("chainId", Given.toJson? draft.chainId),
   ("maxPriorityFeePerGas", Given.toJson? draft.tip),
   ("maxFeePerGas", Given.toJson? draft.cap),
   ("incentiveAddress", Given.toJson? draft.incentive)]

theorem Checked.slots {draft : Draft} {r : Request} (checked : draft.Checked r) :
    r.slots = draft.slots r.data := by
  obtain ⟨price, chain, tip, cap, incentive⟩ := Fees.fields_of_ofFields checked.fees
  unfold Request.slots Draft.slots
  rw [checked.sender, checked.recipient, checked.gas, checked.value, checked.nonce, price, chain,
    tip, cap, incentive]
  rfl

def isSendable (room : Nat) (draft : Draft) : Bool :=
  (draft.slots none).all fun field => field.2.isSendableField (room + 1)

theorem isSendable_slots (room : Nat) (draft : Draft) (data : Option String) :
    ((draft.slots data).all fun field => field.2.isSendableField (room + 1)) =
      draft.isSendable room := by
  cases data <;> rfl

end Draft

def Recipe.toDraft : Recipe → Draft
  | .plain draft => draft
  | .legacy cargo gasPrice | .functionCall cargo gasPrice => { cargo with gasPrice }
  | .market cargo chainId tip cap incentive | .incentivized cargo chainId tip cap incentive =>
    { cargo with chainId, tip, cap, incentive }
  | .deployment cargo gasPrice => { cargo with recipient := none, gasPrice }
  | .transfer cargo gasPrice => { cargo with data := none, gasPrice }
  | .readOnly cargo => { cargo with gas := none, nonce := none }

namespace Request

theorem legacy_cases (cargo : Cargo) (gasPrice : Option (Given Int)) :
    (∃ cause, legacy cargo gasPrice = .error (.invalid cause)) ∨
      legacy cargo gasPrice = Draft.check { cargo with gasPrice } := by
  cases gasPrice with
  | none => exact .inl ⟨_, rfl⟩
  | some price => exact .inr rfl

theorem market_cases (cargo : Cargo) (chainId tip cap : Option (Given Int))
    (incentive : Option (Given String)) :
    (∃ cause, market cargo chainId tip cap incentive = .error (.invalid cause)) ∨
      market cargo chainId tip cap incentive =
        Draft.check { cargo with chainId, tip, cap, incentive } := by
  unfold market
  split
  next => exact .inl ⟨_, rfl⟩
  next =>
    split
    next => exact .inl ⟨_, rfl⟩
    next => exact .inr rfl

end Request

theorem Recipe.build_cases (recipe : Recipe) :
    (∃ cause, recipe.build = .error (.invalid cause)) ∨ recipe.build = recipe.toDraft.check := by
  cases recipe with
  | plain draft => exact .inr rfl
  | legacy cargo gasPrice => exact Request.legacy_cases cargo gasPrice
  | market cargo chainId tip cap incentive =>
    exact Request.market_cases cargo chainId tip cap incentive
  | incentivized cargo chainId tip cap incentive =>
    simp only [build, Request.incentivized]
    split
    next => exact Request.market_cases cargo chainId tip cap incentive
    next => exact .inl ⟨_, rfl⟩
  | deployment cargo gasPrice =>
    exact Request.legacy_cases { cargo with recipient := none } gasPrice
  | transfer cargo gasPrice => exact Request.legacy_cases { cargo with data := none } gasPrice
  | functionCall cargo gasPrice => exact Request.legacy_cases cargo gasPrice
  | readOnly cargo => exact .inr rfl

theorem Recipe.check_of_build {recipe : Recipe} {request : Request}
    (built : recipe.build = .ok request) : recipe.toDraft.check = .ok request := by
  obtain ⟨cause, refused⟩ | checked := recipe.build_cases
  · rw [refused] at built
    cases built
  · rw [← checked, built]

namespace Request

variable {room : Nat}

theorem isSendable_encodeField {content written : Json}
    (encoded : Quantity.encodeField content = .ok written)
    (sendable : content.isSendableField (room + 1) = true) :
    written.isSendable (room + 1) = true := by
  have number {n : Int} (spelled : (Quantity.encode n).map Json.text = .ok written) :
      written.isSendable (room + 1) = true := by
    cases quantity : Quantity.encode n with
    | error cause =>
      rw [quantity] at spelled
      cases spelled
    | ok text =>
      rw [quantity] at spelled
      cases spelled
      rfl
  cases content with
  | int n => exact number encoded
  | bool b => exact number encoded
  | null | real | text | list | object =>
    cases encoded
    exact sendable

theorem isSendable_encodeFields {fields entries : Members}
    (encoded : encodeFields fields = .ok entries)
    (sendable : ∀ field ∈ fields, field.2.isSendableField (room + 1) = true) :
    ∀ entry ∈ entries, entry.2.isSendable (room + 1) = true := by
  induction fields generalizing entries with
  | nil =>
    cases encoded
    exact nofun
  | cons first rest ih =>
    obtain ⟨name, content⟩ := first
    obtain ⟨written, later, head, tail, rfl⟩ := encodeFields_cons encoded
    obtain ⟨plain, others⟩ := List.forall_mem_cons.mp sendable
    exact List.forall_mem_cons.mpr ⟨isSendable_encodeField head plain, ih tail others⟩

variable {draft : Draft} {request : Request} {params : List Json}

theorem isSendable_wire (checked : draft.Checked request)
    (sendable : draft.isSendable room = true) {entries : Members}
    (wired : request.wire = .ok entries) :
    (Json.object entries).isSendable (room + 2) = true := by
  rw [← draft.isSendable_slots room request.data, ← checked.slots, List.all_eq_true] at sendable
  refine Json.isSendable_object.mpr (isSendable_encodeFields wired ?_)
  exact fun member kept => sendable member (List.mem_of_mem_filter kept)

theorem isSendable_params (checked : draft.check = .ok request)
    (sendable : draft.isSendable room = true) (written : request.params = .ok params) :
    (Json.list params).isSendable (room + 3) = true := by
  obtain ⟨payload, encoded, asked⟩ := exists_of_bind_eq_ok written
  obtain ⟨entries, wired, rfl⟩ := exists_of_map_eq_ok (eq_ok_of_mapError encoded)
  cases asked
  rw [Json.isSendable_list]
  simpa using isSendable_wire (Draft.checked_of_check checked) sendable wired

theorem isSendable_paramsAt (checked : draft.check = .ok request)
    (sendable : draft.isSendable room = true) {block : BlockParameter}
    (written : request.paramsAt block = .ok params) :
    (Json.list params).isSendable (room + 3) = true := by
  obtain ⟨payload, encoded, written⟩ := exists_of_bind_eq_ok written
  obtain ⟨tag, -, asked⟩ := exists_of_bind_eq_ok written
  cases asked
  have alone : request.params = .ok [payload] := bind_eq_ok encoded rfl
  have sendable := isSendable_params checked sendable alone
  rw [Json.isSendable_list] at sendable ⊢
  simpa using sendable

end Request

namespace FeeTerms

def fees : FeeTerms → List (Option (Given Int))
  | .legacy gasPrice => [gasPrice]
  | .market chainId tip cap | .incentive chainId tip cap => [chainId, tip, cap]

end FeeTerms

def Order.isSendable (room : Nat) (order : Order) : Bool :=
  ([Given.toJson? order.gasLimit, Given.toJson? order.recipient, Given.toJson? order.value] ++
    order.terms.fees.map Given.toJson?).all fun value => value.isSendableField (room + 1)

namespace Account

def recipe (account : Account) (order : Order) (recipient : String) : Recipe :=
  let cargo := account.cargo order
  match order.terms with
  | .legacy gasPrice => .legacy cargo gasPrice
  | .market chainId tip cap => .market cargo chainId tip cap none
  | .incentive chainId tip cap => .incentivized cargo chainId tip cap (some (.fit recipient))

theorem request_eq (account : Account) (order : Order) (recipient : String) :
    account.request order recipient = (account.recipe order recipient).build := by
  unfold request recipe
  cases order.terms <;> rfl

variable {account : Account} {room : Nat} {order : Order}

theorem isSendable_recipe (held : account.address.toJson.isSendableField (room + 1) = true)
    (sendable : order.isSendable room = true) (looked : String) :
    (account.recipe order looked).toDraft.isSendable room = true := by
  have found : (Given.fit looked).toJson.isSendableField (room + 1) = true := rfl
  have missing : Json.null.isSendableField (room + 1) = true := rfl
  obtain ⟨terms, gasLimit, recipient, data, value, deploys⟩ := order
  rw [Order.isSendable, List.all_eq_true] at sendable
  rw [Draft.isSendable, List.all_eq_true, recipe]
  cases terms <;>
    simp_all [FeeTerms.fees, Recipe.toDraft, Draft.slots, cargo, Given.toJson?, Json.ofText?]

theorem isSendable_of_asksFor (held : account.address.toJson.isSendableField (room + 1) = true)
    (sendable : order.isSendable room = true) {method : Given String} {params : List Json}
    (asks : account.AsksFor order method params)
    (named : account.endpoint.lookupMethod.toJson.isSendable (room + 1) = true) :
    RpcRequest.isSendable room method params = true := by
  cases asks with
  | lookup => exact Bool.and_eq_true_iff.mpr ⟨named, rfl⟩
  | submission built written =>
    rw [request_eq] at built
    exact RpcRequest.isSendable_fit (Request.isSendable_params (Recipe.check_of_build built)
      (isSendable_recipe held sendable _) written)

end Account

def ManagerStep.isSendable (room : Nat) : ManagerStep → Bool
  | .address => true
  | .send order | .execute order => order.isSendable room
  | .call recipient _ _ => (Given.toJson? recipient).isSendableField (room + 1)
  | .code target _ => target.toJson.isSendable (room + 2)
  | .await hash => hash.toJson.isSendable (room + 2)

def ProviderStep.isSendable (room : Nat) : ProviderStep → Bool
  | .send recipe | .call recipe _ | .estimateGas recipe => recipe.toDraft.isSendable room
  | .code target _ => target.toJson.isSendable (room + 2)
  | .receipt hash => hash.toJson.isSendable (room + 2)
  | _ => true

/-- Whether the arguments of a step can be sent. -/
def Step.isSendable (room : Nat) : Step → Bool
  | .manager step => step.isSendable room
  | .budget => true
  | .provider step => step.isSendable room

/-! Arguments of the types that are due -/

def Given.isFit {α : Type} : Given α → Bool
  | .fit _ => true
  | .odd _ => false

def Draft.isFit (draft : Draft) : Bool :=
  [draft.sender, draft.recipient, draft.data, draft.incentive].all (·.all Given.isFit) &&
    [draft.gas, draft.value, draft.nonce, draft.gasPrice, draft.chainId, draft.tip, draft.cap].all
      (·.all Given.isFit)

def Order.isFit (order : Order) : Bool :=
  [order.recipient, order.data].all (·.all Given.isFit) &&
    ([order.gasLimit, order.value] ++ order.terms.fees).all (·.all Given.isFit)

def ManagerStep.isFit : ManagerStep → Bool
  | .address => true
  | .send order | .execute order => order.isFit
  | .call recipient data _ => [recipient, data].all (·.all Given.isFit)
  | .code target _ => target.isFit
  | .await hash => hash.isFit

def ProviderStep.isFit : ProviderStep → Bool
  | .send recipe | .call recipe _ | .estimateGas recipe => recipe.toDraft.isFit
  | .code target _ => target.isFit
  | .receipt hash => hash.isFit
  | _ => true

def Step.isFit : Step → Bool
  | .manager step => step.isFit
  | .budget => true
  | .provider step => step.isFit

section Fit

variable {room : Nat}

theorem Given.isSendable_of_isFit {given : Given String} (fit : given.isFit = true) :
    given.toJson.isSendable (room + 1) = true := by
  cases given with
  | fit text => rfl
  | odd value => cases fit

theorem Given.isSendableField_of_isFit {α : Type} [Plain α]
    (spelled : ∀ a : α, (Plain.toJson a).isSendableField (room + 1) = true)
    {given : Option (Given α)} (fit : given.all Given.isFit = true) :
    (Given.toJson? given).isSendableField (room + 1) = true := by
  cases given with
  | none => rfl
  | some given =>
    cases given with
    | fit a => exact spelled a
    | odd value => cases fit

theorem Draft.isSendable_of_isFit {draft : Draft} (fit : draft.isFit = true) :
    draft.isSendable room = true := by
  obtain ⟨texts, numbers⟩ := Bool.and_eq_true_iff.mp fit
  rw [List.all_eq_true] at texts numbers
  have text {given : Option (Given String)}
      (member : given ∈ [draft.sender, draft.recipient, draft.data, draft.incentive]) :
      (Given.toJson? given).isSendableField (room + 1) = true :=
    Given.isSendableField_of_isFit (fun _ => rfl) (texts given member)
  have number {given : Option (Given Int)} (member : given ∈ [draft.gas, draft.value, draft.nonce,
      draft.gasPrice, draft.chainId, draft.tip, draft.cap]) :
      (Given.toJson? given).isSendableField (room + 1) = true :=
    Given.isSendableField_of_isFit (fun _ => rfl) (numbers given member)
  have missing : Json.null.isSendableField (room + 1) = true := rfl
  simp [Draft.isSendable, Draft.slots, Json.ofText?, text, number, missing]

theorem Order.isSendable_of_isFit {order : Order} (fit : order.isFit = true) :
    order.isSendable room = true := by
  obtain ⟨texts, numbers⟩ := Bool.and_eq_true_iff.mp fit
  rw [List.all_eq_true] at texts numbers
  have number {given : Option (Given Int)}
      (member : given ∈ [order.gasLimit, order.value] ++ order.terms.fees) :
      (Given.toJson? given).isSendableField (room + 1) = true :=
    Given.isSendableField_of_isFit (fun _ => rfl) (numbers given member)
  have recipient : (Given.toJson? order.recipient).isSendableField (room + 1) = true :=
    Given.isSendableField_of_isFit (fun _ => rfl) (texts order.recipient (by simp))
  rw [Order.isSendable, List.all_eq_true]
  intro value member
  rcases List.mem_append.mp member with cargo | fee
  · simp only [List.mem_cons, List.not_mem_nil, or_false] at cargo
    rcases cargo with rfl | rfl | rfl
    · exact number (by simp)
    · exact recipient
    · exact number (by simp)
  · obtain ⟨given, among, rfl⟩ := List.mem_map.mp fee
    exact number (List.mem_append_right _ among)

end Fit

/-- Arguments of the types that are due can be sent, however little room there is. -/
theorem Step.isSendable_of_isFit {step : Step} (fit : step.isFit = true) (room : Nat) :
    step.isSendable room = true := by
  cases step with
  | budget => rfl
  | manager step =>
    cases step with
    | address => rfl
    | send order | execute order => exact Order.isSendable_of_isFit fit
    | call recipient data block =>
      have named := List.all_eq_true.mp fit recipient (by simp)
      exact Given.isSendableField_of_isFit (fun _ => rfl) named
    | code target block => exact Given.isSendable_of_isFit fit
    | await hash => exact Given.isSendable_of_isFit fit
  | provider step =>
    cases step with
    | send recipe | call recipe block | estimateGas recipe => exact Draft.isSendable_of_isFit fit
    | code target block => exact Given.isSendable_of_isFit fit
    | receipt hash => exact Given.isSendable_of_isFit fit
    | _ => rfl

theorem RpcRequest.isSendable_single {room : Nat} {method : String} {value : Json}
    (sendable : value.isSendable (room + 2) = true) :
    isSendable room (.fit method) [value] = true := by
  apply isSendable_fit
  rw [Json.isSendable_list]
  simpa using sendable

theorem Endpoint.isSendable_of_question? {endpoint : Endpoint} {room : Nat} {step : ProviderStep}
    (sendable : step.isSendable room = true)
    (named : endpoint.lookupMethod.toJson.isSendable (room + 1) = true) {method : Given String}
    {params : List Json} (asks : endpoint.question? step = some (method, .ok params)) :
    RpcRequest.isSendable room method params = true := by
  -- a recipe comes down to the check of its draft
  have prepared {recipe : Recipe} {further : Request → Except Failure (List Json)}
      (kept : ∀ request, recipe.toDraft.check = .ok request → further request = .ok params →
        (Json.list params).isSendable (room + 3) = true)
      (asked : (recipe.build.mapError Failure.fault >>= further) = .ok params) :
      (Json.list params).isSendable (room + 3) = true := by
    obtain ⟨request, built, written⟩ := exists_of_bind_eq_ok asked
    exact kept request (Recipe.check_of_build (eq_ok_of_mapError built)) written
  have asked {name : String} {given : Except Failure (List Json)}
      (same : some (Given.fit name, given) = some (method, .ok params))
      (kept : given = .ok params → (Json.list params).isSendable (room + 3) = true) :
      RpcRequest.isSendable room method params = true := by
    cases same
    exact RpcRequest.isSendable_fit (kept rfl)
  cases step with
  | name | url | timeout | ready | close => cases asks
  | health =>
    simp only [question?] at asks
    split at asks
    next =>
      cases asks
      rfl
    next => cases asks
  | send recipe =>
    exact asked asks (prepared fun _ checked => Request.isSendable_params checked sendable)
  | call recipe block =>
    exact asked asks (prepared fun _ checked => Request.isSendable_paramsAt checked sendable)
  | code address block =>
    refine asked asks fun given => ?_
    obtain ⟨tag, -, ended⟩ := exists_of_bind_eq_ok given
    cases ended
    have held : address.toJson.isSendable (room + 2) = true := sendable
    rw [Json.isSendable_list]
    simp [held]
  | receipt hash =>
    cases asks
    exact RpcRequest.isSendable_single sendable
  | incentiveAddress =>
    cases asks
    exact Bool.and_eq_true_iff.mpr ⟨named, rfl⟩
  | chainId =>
    cases asks
    rfl
  | estimateGas recipe =>
    exact asked asks (prepared fun _ checked => Request.isSendable_params checked sendable)

theorem Account.isSendable_reading {account : Account} {room : Nat}
    (held : account.address.toJson.isSendableField (room + 1) = true)
    {recipient data : Option (Given String)}
    (called : (Given.toJson? recipient).isSendableField (room + 1) = true) {request : Request}
    (built : account.reading recipient data = .ok request)
    {block : BlockParameter} {params : List Json} (written : request.paramsAt block = .ok params) :
    (Json.list params).isSendable (room + 3) = true := by
  let recipe := Recipe.readOnly { sender := some account.address, recipient, data }
  have checked : recipe.toDraft.check = .ok request := built
  refine Request.isSendable_paramsAt checked ?_ written
  have named : (Given.toJson? (some account.address)).isSendableField (room + 1) = true := held
  have missing : Json.null.isSendableField (room + 1) = true := rfl
  rw [Draft.isSendable, List.all_eq_true]
  simp_all [recipe, Recipe.toDraft, Draft.slots, Given.toJson?, Json.ofText?]

/-- What a step whose arguments can be sent may ask can be sent. -/
theorem Custody.isSendable_of_mayAsk {custody : Custody} {room : Nat}
    (held : custody.account.address.toJson.isSendableField (room + 1) = true)
    (named : custody.account.endpoint.lookupMethod.toJson.isSendable (room + 1) = true)
    {step : Step} (sendable : step.isSendable room = true) {method : Given String}
    {params : List Json} (asks : custody.MayAsk step method params) :
    RpcRequest.isSendable room method params = true := by
  cases asks with
  | send asks => exact Account.isSendable_of_asksFor held sendable asks named
  | execute asks => exact Account.isSendable_of_asksFor held sendable asks named
  | confirm hash => rfl
  | call built written =>
    exact RpcRequest.isSendable_fit (Account.isSendable_reading held sendable built written)
  | @code address block tag encoded =>
    have target : address.toJson.isSendable (room + 2) = true := sendable
    apply RpcRequest.isSendable_fit
    rw [Json.isSendable_list]
    simp [target]
  | await hash => exact RpcRequest.isSendable_single sendable
  | provider asks => exact Endpoint.isSendable_of_question? sendable named asks

end TxSubmission

import TxSubmission.Proofs.WireRoundTrip
import TxSubmission.Request.Reading

/-!
The fee models of requests. Of the five fees that can be given, a draft that passes its check has
set none, a chain alone, a gas price alone, or a chain with both fees of the market, to which an
incentive may be added; every other combination is refused. What a request says of itself follows
from the model, and its wire form has just the names of the model. Each recipe leads to the model
that it is made for.
-/

namespace TxSubmission

/-- The fee models: no fee at all, a chain alone, a gas price, a fee market, and a fee market with
an incentive. -/
inductive FeeModel where
  | unpriced
  | chained
  | legacy
  | market
  | incentivized
deriving DecidableEq, Repr

namespace FeeModel

def names : FeeModel → List String
  | .unpriced => []
  | .chained => ["chainId"]
  | .legacy => ["gasPrice"]
  | .market => ["chainId", "maxPriorityFeePerGas", "maxFeePerGas"]
  | .incentivized => ["chainId", "maxPriorityFeePerGas", "maxFeePerGas", "incentiveAddress"]

theorem names_injective {model other : FeeModel} (same : model.names = other.names) :
    model = other := by
  cases model <;> cases other <;> simp_all [names]

end FeeModel

namespace Fees

def allNames : List String :=
  ["gasPrice", "chainId", "maxPriorityFeePerGas", "maxFeePerGas", "incentiveAddress"]

def setNames (gasPrice chainId tip cap : Option (Given Int)) (incentive : Option (Given String)) :
    List String :=
  ([("gasPrice", gasPrice.isSome),
    ("chainId", chainId.isSome),
    ("maxPriorityFeePerGas", tip.isSome),
    ("maxFeePerGas", cap.isSome),
    ("incentiveAddress", incentive.isSome)].filter Prod.snd).map Prod.fst

def model : Fees → FeeModel
  | .unpriced none => .unpriced
  | .unpriced (some _) => .chained
  | .legacy _ => .legacy
  | .market _ _ _ none => .market
  | .market _ _ _ (some _) => .incentivized

theorem names_model (fees : Fees) :
    setNames fees.gasPrice? fees.chainId? fees.tip? fees.cap? fees.incentive? =
      fees.model.names := by
  cases fees with
  | unpriced chainId => cases chainId <;> rfl
  | legacy price => rfl
  | market chainId tip cap incentive => cases incentive <;> rfl

section Fields

variable {gasPrice chainId tip cap : Option (Given Int)} {incentive : Option (Given String)}
  {fees : Fees} {model : FeeModel}

theorem setNames_of_ofFields (built : ofFields gasPrice chainId tip cap incentive = .ok fees) :
    setNames gasPrice chainId tip cap incentive = fees.model.names := by
  obtain ⟨rfl, rfl, rfl, rfl, rfl⟩ := fields_of_ofFields built
  exact fees.names_model

theorem isSome_of_setNames (same : setNames gasPrice chainId tip cap incentive = model.names) :
    gasPrice.isSome = decide ("gasPrice" ∈ model.names) ∧
      chainId.isSome = decide ("chainId" ∈ model.names) ∧
      tip.isSome = decide ("maxPriorityFeePerGas" ∈ model.names) ∧
      cap.isSome = decide ("maxFeePerGas" ∈ model.names) ∧
      incentive.isSome = decide ("incentiveAddress" ∈ model.names) := by
  rw [← same]
  simp [setNames]

theorem consistent_of_setNames
    (same : setNames gasPrice chainId tip cap incentive = model.names) :
    (gasPrice.isSome = true → chainId.isSome = false ∧ tip.isSome = false) ∧
      tip.isSome = cap.isSome ∧ (tip.isSome = true → chainId.isSome = true) ∧
      (incentive.isSome = true → tip.isSome = true) := by
  obtain ⟨price, chain, priority, whole, recipient⟩ := isSome_of_setNames same
  rw [price, chain, priority, whole, recipient]
  cases model <;> decide

/-- Fees are made of just the combinations of fields whose names are those of a model. -/
theorem exists_ofFields_iff :
    (∃ fees, ofFields gasPrice chainId tip cap incentive = .ok fees) ↔
      ∃ model : FeeModel, setNames gasPrice chainId tip cap incentive = model.names := by
  constructor
  · rintro ⟨fees, built⟩
    exact ⟨fees.model, setNames_of_ofFields built⟩
  · rintro ⟨model, same⟩
    obtain ⟨unmixed, paired, chained, backed⟩ := consistent_of_setNames same
    unfold ofFields
    cases tip with
    | none =>
      obtain rfl : cap = none := by simpa using paired.symm
      obtain rfl : incentive = none := by simpa using backed
      cases gasPrice with
      | none => exact ⟨.unpriced chainId, rfl⟩
      | some price =>
        obtain rfl : chainId = none := by simpa using (unmixed rfl).1
        exact ⟨.legacy price, rfl⟩
    | some tip =>
      obtain ⟨cap, rfl⟩ := Option.isSome_iff_exists.mp paired.symm
      obtain ⟨chainId, rfl⟩ := Option.isSome_iff_exists.mp (chained rfl)
      cases gasPrice with
      | none => exact ⟨.market chainId tip cap incentive, rfl⟩
      | some price => cases (unmixed rfl).1

end Fields

end Fees

/-! Values -/

def Given.IsValue {α : Type} [Plain α] (given : Option (Given α)) : Prop :=
  (toJson? given).isNull = given.isNone

theorem Given.IsValue.isSome {α : Type} [Plain α] {given : Option (Given α)}
    (value : IsValue given) : (!(toJson? given).isNull) = given.isSome := by
  rw [show (toJson? given).isNull = given.isNone from value, Option.not_isNone]

theorem Given.isValue_number (value : Json) : IsValue (ofJson? value : Option (Given Int)) := by
  cases value <;> rfl

theorem Given.isValue_text (value : Json) : IsValue (ofJson? value : Option (Given String)) := by
  cases value <;> rfl

namespace Draft

variable {draft : Draft} {request : Request}

def setFees (draft : Draft) : List String :=
  Fees.setNames draft.gasPrice draft.chainId draft.tip draft.cap draft.incentive

/-- A draft that gives no fee as null, which stands for a missing value. -/
structure Valued (draft : Draft) : Prop where
  gasPrice : Given.IsValue draft.gasPrice
  chainId : Given.IsValue draft.chainId
  tip : Given.IsValue draft.tip
  cap : Given.IsValue draft.cap
  incentive : Given.IsValue draft.incentive

theorem exists_check_iff :
    (∃ request, draft.check = .ok request) ↔
      (∃ sender, draft.sender = some sender ∧ sender.isTruthy = true) ∧
        (∃ data, markedData draft.data = .ok data) ∧
        ∃ model : FeeModel, draft.setFees = model.names := by
  constructor
  · rintro ⟨request, passed⟩
    have checked := checked_of_check passed
    exact ⟨⟨request.sender, checked.sender, request.sender_given⟩, ⟨request.data, checked.data⟩,
      Fees.exists_ofFields_iff.mp ⟨request.fees, checked.fees⟩⟩
  · rintro ⟨⟨sender, given, truthy⟩, ⟨data, marked⟩, modelled⟩
    obtain ⟨fees, built⟩ := Fees.exists_ofFields_iff.mpr modelled
    let request : Request :=
      { sender
        recipient := draft.recipient
        gas := draft.gas
        value := draft.value
        data
        nonce := draft.nonce
        fees
        sender_given := truthy
        data_marked := hasHexPrefix_of_markedData marked }
    exact ⟨request, check_of_checked ⟨given, rfl, rfl, rfl, rfl, built, marked⟩⟩

def feeSlots (draft : Draft) : Members :=
  [("gasPrice", Given.toJson? draft.gasPrice),
   ("chainId", Given.toJson? draft.chainId),
   ("maxPriorityFeePerGas", Given.toJson? draft.tip),
   ("maxFeePerGas", Given.toJson? draft.cap),
   ("incentiveAddress", Given.toJson? draft.incentive)]

theorem filter_slots (draft : Draft) (data : Option String) :
    ((draft.slots data).filter fun field => decide (field.1 ∈ Fees.allNames)) = draft.feeSlots := by
  simp [slots, feeSlots, Fees.allNames]

theorem names_feeSlots (valued : draft.Valued) :
    (draft.feeSlots.filter fun field => !field.2.isNull).map Prod.fst = draft.setFees := by
  have presence : draft.feeSlots.map (fun field => (field.1, !field.2.isNull)) =
      [("gasPrice", draft.gasPrice.isSome), ("chainId", draft.chainId.isSome),
       ("maxPriorityFeePerGas", draft.tip.isSome), ("maxFeePerGas", draft.cap.isSome),
       ("incentiveAddress", draft.incentive.isSome)] := by
    simp only [feeSlots, List.map_cons, List.map_nil, valued.gasPrice.isSome, valued.chainId.isSome,
      valued.tip.isSome, valued.cap.isSome, valued.incentive.isSome]
  rw [setFees, Fees.setNames, ← presence, List.filter_map, List.map_map]
  rfl

end Draft

/-- A request with the fees of a model, which tells of itself what holds of the model. -/
structure Request.Follows (request : Request) (model : FeeModel) : Prop where
  set : Fees.setNames request.fees.gasPrice? request.fees.chainId? request.fees.tip?
    request.fees.cap? request.fees.incentive? = model.names
  legacy_iff : request.isLegacy = true ↔ model = .legacy
  market_iff : request.isMarket = true ↔ model = .market ∨ model = .incentivized
  incentive_iff : request.isIncentive = true ↔ model = .incentivized
  within : request.isIncentive = true → request.isMarket = true
  apart : request.isLegacy = true → request.isMarket = false ∧ request.isIncentive = false
  callOnly_iff : request.isCallOnly = true ↔
    (model = .unpriced ∨ model = .chained) ∧ request.nonce = none

theorem Request.follows (request : Request) : request.Follows request.fees.model := by
  have set := request.fees.names_model
  obtain ⟨price, -, -, whole, recipient⟩ := Fees.isSome_of_setNames set
  have legacy : request.isLegacy = decide ("gasPrice" ∈ request.fees.model.names) := price
  have market : request.isMarket = decide ("maxFeePerGas" ∈ request.fees.model.names) := whole
  have incentive : request.isIncentive = decide ("incentiveAddress" ∈ request.fees.model.names) :=
    recipient
  have callOnly : request.isCallOnly = (!request.isLegacy && !request.isMarket &&
    request.nonce.isNone) := rfl
  constructor
  case set => exact set
  all_goals
    simp only [callOnly, legacy, market, incentive]
    cases request.fees.model <;> simp [FeeModel.names]

theorem Draft.feeNames_wire {draft : Draft} {request : Request} {entries : Members}
    (passed : draft.check = .ok request) (valued : draft.Valued)
    (wired : request.wire = .ok entries) :
    ((entries.map Prod.fst).filter fun name => decide (name ∈ Fees.allNames)) = draft.setFees := by
  have slots := (checked_of_check passed).slots
  calc ((entries.map Prod.fst).filter fun name => decide (name ∈ Fees.allNames))
      = ((request.fields.filter fun field => decide (field.1 ∈ Fees.allNames)).map Prod.fst) := by
        rw [Request.names_encodeFields wired, List.filter_map]
        rfl
    _ = (draft.feeSlots.filter fun field => !field.2.isNull).map Prod.fst := by
        rw [← draft.filter_slots request.data, Request.fields, slots, List.filter_filter,
          List.filter_filter]
        simp only [Bool.and_comm]
    _ = draft.setFees := names_feeSlots valued

namespace Recipe

/-- What a recipe says of the fees and the use of a request. -/
def Prescribes (recipe : Recipe) (request : Request) (model : FeeModel) : Prop :=
  match recipe with
  | .plain _ => True
  | .legacy .. | .deployment .. | .transfer .. | .functionCall .. =>
    model = .legacy ∧ request.isCallOnly = false
  | .market _ _ _ _ incentive =>
    model = (if incentive.isSome then .incentivized else .market) ∧ request.isCallOnly = false
  | .incentivized _ _ _ _ incentive =>
    model = .incentivized ∧ request.isCallOnly = false ∧
      ∃ address, incentive = some address ∧ request.fees.incentive? = some address ∧
        address.isTruthy = true
  | .readOnly _ => model = .unpriced ∧ request.nonce = none ∧ request.isCallOnly = true

end Recipe

theorem Draft.model_of_setFees {draft : Draft} {request : Request} {model : FeeModel}
    (passed : draft.check = .ok request) (same : draft.setFees = model.names) :
    request.fees.model = model := by
  have names := Fees.setNames_of_ofFields (checked_of_check passed).fees
  exact FeeModel.names_injective (names.symm.trans same)

theorem Request.Follows.isCallOnly {request : Request} {model : FeeModel}
    (follows : request.Follows model) (priced : model ≠ .unpriced) (fees : model ≠ .chained) :
    request.isCallOnly = false := by
  apply Bool.eq_false_iff.mpr
  intro callOnly
  exact (follows.callOnly_iff.mp callOnly).1.elim priced fees

namespace Request

variable {cargo : Cargo} {gasPrice chainId tip cap : Option (Given Int)}
  {incentive : Option (Given String)} {request : Request}

theorem legacy_model (built : legacy cargo gasPrice = .ok request) :
    request.fees.model = .legacy ∧ request.isCallOnly = false := by
  cases gasPrice with
  | none => cases built
  | some price =>
    have passed : Draft.check { cargo with gasPrice := some price } = .ok request := built
    have model : request.fees.model = .legacy := Draft.model_of_setFees passed rfl
    exact ⟨model, (model ▸ request.follows).isCallOnly nofun nofun⟩

theorem isSome_of_market (built : market cargo chainId tip cap incentive = .ok request) :
    chainId.isSome = true ∧ tip.isSome = true ∧ cap.isSome = true := by
  unfold market at built
  cases tip <;> cases cap <;> cases chainId <;> first | exact ⟨rfl, rfl, rfl⟩ | cases built

theorem market_model (built : market cargo chainId tip cap incentive = .ok request) :
    request.fees.model = (if incentive.isSome then .incentivized else .market) ∧
      request.isCallOnly = false ∧ request.fees.incentive? = incentive := by
  obtain ⟨chain, priority, whole⟩ := isSome_of_market built
  obtain ⟨chainId, rfl⟩ := Option.isSome_iff_exists.mp chain
  obtain ⟨tip, rfl⟩ := Option.isSome_iff_exists.mp priority
  obtain ⟨cap, rfl⟩ := Option.isSome_iff_exists.mp whole
  have passed : Draft.check
      { cargo with chainId := some chainId, tip := some tip, cap := some cap, incentive } =
        .ok request := built
  obtain ⟨-, -, -, -, kept⟩ := Fees.fields_of_ofFields (Draft.checked_of_check passed).fees
  have model : request.fees.model = (if incentive.isSome then .incentivized else .market) := by
    apply Draft.model_of_setFees passed
    cases incentive <;> rfl
  refine ⟨model, (model ▸ request.follows).isCallOnly ?_ ?_, kept⟩ <;> cases incentive <;> nofun

end Request

namespace Recipe

theorem prescribes {recipe : Recipe} {request : Request} (built : recipe.build = .ok request) :
    recipe.Prescribes request request.fees.model := by
  cases recipe with
  | plain draft => trivial
  | legacy cargo gasPrice => exact Request.legacy_model built
  | deployment cargo gasPrice => exact Request.legacy_model built
  | transfer cargo gasPrice => exact Request.legacy_model built
  | functionCall cargo gasPrice => exact Request.legacy_model built
  | market cargo chainId tip cap incentive =>
    obtain ⟨model, sent, -⟩ := Request.market_model built
    exact ⟨model, sent⟩
  | incentivized cargo chainId tip cap incentive =>
    simp only [build, Request.incentivized] at built
    split at built
    next truthy =>
      obtain ⟨model, sent, kept⟩ := Request.market_model built
      cases incentive with
      | none => cases truthy
      | some address => exact ⟨model, sent, address, rfl, kept, truthy⟩
    next => cases built
  | readOnly cargo =>
    have passed : Draft.check { cargo with gas := none, nonce := none } = .ok request := built
    have model : request.fees.model = .unpriced := Draft.model_of_setFees passed rfl
    have unnumbered : request.nonce = none := (Draft.checked_of_check passed).nonce
    exact ⟨model, unnumbered, (request.follows.callOnly_iff).mpr ⟨.inl model, unnumbered⟩⟩

theorem valued_draft (arguments : Members) : (draft arguments).Valued where
  gasPrice := Given.isValue_number _
  chainId := Given.isValue_number _
  tip := Given.isValue_number _
  cap := Given.isValue_number _
  incentive := Given.isValue_text _

theorem valued_ofDraft {draft : Draft} (valued : draft.Valued) (form : String) :
    (ofDraft form draft).toDraft.Valued := by
  have priced (cargo : Cargo) : Draft.Valued { cargo with gasPrice := draft.gasPrice } :=
    ⟨valued.gasPrice, rfl, rfl, rfl, rfl⟩
  have market (cargo : Cargo) : Draft.Valued
      { cargo with
        chainId := draft.chainId, tip := draft.tip, cap := draft.cap
        incentive := draft.incentive } :=
    ⟨rfl, valued.chainId, valued.tip, valued.cap, valued.incentive⟩
  unfold ofDraft
  split
  next => exact priced _
  next => exact market _
  next => exact market _
  next => exact priced _
  next => exact priced _
  next => exact priced _
  next => exact ⟨rfl, rfl, rfl, rfl, rfl⟩
  next => exact valued

theorem valued_of_ofMembers {description : Members} {recipe : Recipe}
    (read : ofMembers description = .ok recipe) : recipe.toDraft.Valued := by
  unfold ofMembers at read
  extract_lets form arguments at read
  cases signed : signature? form with
  | none =>
    rw [signed] at read
    cases read
  | some signature =>
    rw [signed] at read
    obtain ⟨-, -, same⟩ := exists_of_bind_eq_ok read
    obtain rfl := Except.ok.inj same
    exact valued_ofDraft (valued_draft arguments) form

/-- A draft is accepted exactly if it has a sender, data that can be marked, and the fees of a
model. So each request has the fees of one model and tells so of itself, and has their names where
it is written, if no fee was given as null; none is in what a caller describes. Each recipe leads to
its own model. -/
theorem build_follows :
    (∀ draft : Draft, (∃ request, draft.check = .ok request) ↔
      (∃ sender, draft.sender = some sender ∧ sender.isTruthy = true) ∧
        (∃ data, markedData draft.data = .ok data) ∧
        ∃ model : FeeModel, draft.setFees = model.names) ∧
    (∀ (recipe : Recipe) (request : Request), recipe.build = .ok request →
      ∃ model : FeeModel, recipe.toDraft.setFees = model.names ∧ request.Follows model ∧
        recipe.Prescribes request model ∧
        (recipe.toDraft.Valued → recipe.toDraft.isNegative = false →
          ∃ entries, request.wire = .ok entries ∧
            ((entries.map Prod.fst).filter fun name => decide (name ∈ Fees.allNames)) =
              model.names)) ∧
    ∀ description recipe, ofMembers description = .ok recipe → recipe.toDraft.Valued := by
  refine ⟨fun draft => Draft.exists_check_iff, ?_, fun _ _ => valued_of_ofMembers⟩
  intro recipe request built
  have passed := check_of_build built
  have names : recipe.toDraft.setFees = request.fees.model.names :=
    Fees.setNames_of_ofFields (Draft.checked_of_check passed).fees
  refine ⟨request.fees.model, names, request.follows, prescribes built, ?_⟩
  intro valued above
  have written := Draft.isOk_payload passed
  rw [above, Request.payload, isOk_map] at written
  obtain ⟨entries, wired⟩ := exists_of_isOk written
  exact ⟨entries, wired, (Draft.feeNames_wire passed valued wired).trans names⟩

/-- A market without costs, on a chain without a number, whose incentive goes to an empty text. -/
def costless : Recipe :=
  .market { sender := some (.fit "0x1") } (some (.fit 0)) (some (.fit 0)) (some (.fit 0))
    (some (.fit ""))

theorem build_follows_costless :
    ∃ request entries, costless.build = .ok request ∧ request.isIncentive = true ∧
      request.isMarket = true ∧ request.isLegacy = false ∧ request.isCallOnly = false ∧
      request.wire = .ok entries ∧
      ((entries.map Prod.fst).filter fun name => decide (name ∈ Fees.allNames)) =
        ["chainId", "maxPriorityFeePerGas", "maxFeePerGas", "incentiveAddress"] := by
  obtain ⟨accepted, follows, -⟩ := build_follows
  obtain ⟨request, passed⟩ :=
    (accepted costless.toDraft).mpr ⟨⟨.fit "0x1", rfl, rfl⟩, ⟨none, rfl⟩, .incentivized, rfl⟩
  have built : costless.build = .ok request := passed
  obtain ⟨model, -, tells, ⟨rfl, sent⟩, written⟩ := follows costless request built
  obtain ⟨entries, wired, names⟩ := written ⟨rfl, rfl, rfl, rfl, rfl⟩ (by decide)
  have incentive := tells.incentive_iff.mpr rfl
  refine ⟨request, entries, built, incentive, tells.within incentive, ?_, sent, wired, names⟩
  exact Bool.eq_false_iff.mpr fun legacy => by cases tells.legacy_iff.mp legacy

end Recipe

end TxSubmission

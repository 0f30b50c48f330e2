import TxSubmission.Request

/-!
Recipes for the usual requests. Each checks that the fees of its model are there before the
request itself is checked; a recipe leaves out the parts of the cargo that it has no use for.
-/

namespace TxSubmission

namespace Request

def legacy (cargo : Cargo) : Option (Given Int) → Except Fault Request
  | none => .error (.invalid .legacyWithoutPrice)
  | some price => Draft.check { cargo with gasPrice := some price }

def market (cargo : Cargo) (chainId tip cap : Option (Given Int))
    (incentive : Option (Given String)) : Except Fault Request :=
  if tip.isNone || cap.isNone then .error (.invalid .marketWithoutFees)
  else if chainId.isNone then .error (.invalid .marketWithoutChain)
  else Draft.check { cargo with chainId, tip, cap, incentive }

def incentivized (cargo : Cargo) (chainId tip cap : Option (Given Int))
    (incentive : Option (Given String)) : Except Fault Request :=
  if incentive.any Given.isTruthy then market cargo chainId tip cap incentive
  else .error (.invalid .incentiveMissing)

def deployment (cargo : Cargo) (gasPrice : Option (Given Int)) : Except Fault Request :=
  legacy { cargo with recipient := none } gasPrice

def transfer (cargo : Cargo) (gasPrice : Option (Given Int)) : Except Fault Request :=
  legacy { cargo with data := none } gasPrice

def functionCall (cargo : Cargo) (gasPrice : Option (Given Int)) : Except Fault Request :=
  legacy cargo gasPrice

def readOnly (cargo : Cargo) : Except Fault Request :=
  Draft.check { cargo with gas := none, nonce := none }

end Request

inductive Recipe where
  | plain (draft : Draft)
  | legacy (cargo : Cargo) (gasPrice : Option (Given Int))
  | market (cargo : Cargo) (chainId tip cap : Option (Given Int))
    (incentive : Option (Given String))
  | incentivized (cargo : Cargo) (chainId tip cap : Option (Given Int))
    (incentive : Option (Given String))
  | deployment (cargo : Cargo) (gasPrice : Option (Given Int))
  | transfer (cargo : Cargo) (gasPrice : Option (Given Int))
  | functionCall (cargo : Cargo) (gasPrice : Option (Given Int))
  | readOnly (cargo : Cargo)

def Recipe.build : Recipe → Except Fault Request
  | .plain draft => draft.check
  | .legacy cargo gasPrice => Request.legacy cargo gasPrice
  | .market cargo chainId tip cap incentive => Request.market cargo chainId tip cap incentive
  | .incentivized cargo chainId tip cap incentive =>
    Request.incentivized cargo chainId tip cap incentive
  | .deployment cargo gasPrice => Request.deployment cargo gasPrice
  | .transfer cargo gasPrice => Request.transfer cargo gasPrice
  | .functionCall cargo gasPrice => Request.functionCall cargo gasPrice
  | .readOnly cargo => Request.readOnly cargo

end TxSubmission

import TxSubmission.Custody

/-!
Settings: what a deployment may configure, with its defaults. A manager or a provider that is not
told otherwise takes its parameters from here.
-/

namespace TxSubmission

open Number

structure Settings where
  logLevel : Given String := .fit "INFO"
  logFormat : Given String := .fit "json"
  rpcUrl : Given String := .fit "http://127.0.0.1:8545"
  requestTimeout : Option (Given Amount) := some (.fit (.whole 30))
  sender : Given String := .fit ""
  chainId : Option (Given Int) := none
  blockTime : Given Amount := .fit (.real (.ofRatio false 15 1))
  pollingAttempts : Given Int := .fit 40
  incentiveMethod : Given String := .fit Endpoint.defaultLookup

namespace Settings

def endpoint (settings : Settings) : Endpoint :=
  { url := settings.rpcUrl
    timeout := settings.requestTimeout
    lookupMethod := settings.incentiveMethod }

/-- The account and budget of a manager, the settings filling in what is not given. -/
def custody (settings : Settings) (endpoint : Endpoint) (sender : Option (Given String))
    (attempts : Option (Given Int)) (interval : Option (Given Amount)) : Except Fault Custody :=
  Custody.check endpoint (Given.orElse sender settings.sender)
    (attempts.getD settings.pollingAttempts) (interval.getD settings.blockTime)

end Settings

end TxSubmission

import TxSubmission.Json
import TxSubmission.Text.LongHex

/-!
Long payloads in log events. Every text at the top of an event has its long hex runs shortened;
texts further inside and all other values are left alone.
-/

namespace TxSubmission.Log

def shortenValue : Json → Json
  | .text s => .text (Text.shortenHex s)
  | value => value

def shortenPayloads (event : Members) : Members :=
  event.map fun (name, value) => (name, shortenValue value)

end TxSubmission.Log

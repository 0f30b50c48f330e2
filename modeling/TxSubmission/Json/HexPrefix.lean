import TxSubmission.Fault
import TxSubmission.Json.Display
import TxSubmission.Text.HexPrefix

/-!
The mark of hex text on values of any kind. A list can be looked at as if it were a text and never
carries the mark; any other value that is no text is refused.
-/

namespace TxSubmission.Json

open Text

def hasHexPrefix : Json → Except Fault Bool
  | .text s => .ok (Text.hasHexPrefix s)
  | .list _ => .ok false
  | _ => .error (.wrongType .hexText)

def withHexPrefix : Json → Except Fault String
  | .text s => .ok (Text.withHexPrefix s)
  | .list items => .ok (Text.withHexPrefix (Json.list items).display)
  | _ => .error (.wrongType .hexText)

def withoutHexPrefix : Json → Except Fault Json
  | .text s => .ok (.text (Text.withoutHexPrefix s))
  | .list items => .ok (.list items)
  | _ => .error (.wrongType .hexText)

theorem hasHexPrefix_of_withHexPrefix {value : Json} {text : String}
    (h : value.withHexPrefix = .ok text) : Text.hasHexPrefix text = true := by
  cases value with
  | text s =>
    cases h
    exact hasHexPrefix_withHexPrefix s
  | list items =>
    cases h
    exact hasHexPrefix_withHexPrefix _
  | null => cases h
  | bool b => cases h
  | int n => cases h
  | real x => cases h
  | object members => cases h

end TxSubmission.Json

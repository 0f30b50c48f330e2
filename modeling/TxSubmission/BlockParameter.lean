import TxSubmission.Quantity
import TxSubmission.Text.HexPrefix

/-!
Block parameters. A call or a code query names a block by one of five tags, in any letter case,
or by its number, which may also be given as hex text.
-/

namespace TxSubmission

open Text

inductive BlockParameter where
  | number (n : Int)
  | text (s : String)
  | flag (b : Bool)
  | other (value : Json)

namespace BlockParameter

def tags : List String := ["earliest", "finalized", "latest", "pending", "safe"]

def latest : BlockParameter := .text "latest"

def ofJson : Json → BlockParameter
  | .int n => .number n
  | .text s => .text s
  | .bool b => .flag b
  | value => .other value

def toJson : BlockParameter → Json
  | .number n => .int n
  | .text s => .text s
  | .flag b => .bool b
  | .other value => value

/-- A text with its ASCII capitals turned into small letters. No other capital has a small form
that occurs in a tag. -/
def lowered (s : String) : String := String.ofList (s.toList.map Char.toLower)

def encodeText (s : String) : Except Invalid String :=
  if lowered s ∈ tags then .ok (lowered s)
  else if hasHexPrefix s then do Quantity.encode (← Quantity.decode s)
  else .error (.unknownBlock s)

def encode : BlockParameter → Except Fault String
  | .number n => (Quantity.encode n).mapError .invalid
  | .text s => (encodeText s).mapError .invalid
  | .flag _ => .error (.invalid .blockFlag)
  | .other _ => .error .notText

end BlockParameter

end TxSubmission

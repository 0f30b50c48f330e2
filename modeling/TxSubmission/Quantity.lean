import TxSubmission.Fault
import TxSubmission.Json

/-!
Quantities: whole numbers on the wire. A quantity is written as 0x and lower-case hex digits
without needless zeros. Reading is more liberal: either letter case, blanks around the digits,
a missing mark and a sign are all accepted.
-/

namespace TxSubmission.Quantity

open Number

def written (n : Nat) : String := "0x" ++ String.ofList (Nat.toDigits 16 n)

def encode : Int → Except Invalid String
  | .ofNat n => .ok (written n)
  | n@(.negSucc _) => .error (.negativeQuantity n)

def encodeNumber : Json → Except Fault String
  | .int n => (encode n).mapError .invalid
  | .bool b => (encode (if b then 1 else 0)).mapError .invalid
  | .real x =>
    if x.isBelowZero then .error (.invalid (.negativeReal x)) else .error (.wrongType .number)
  | _ => .error (.wrongType .number)

/-- Writes the content of a field: whole numbers and truth values as quantities, anything else
as it is. -/
def encodeField : Json → Except Invalid Json
  | .int n => (encode n).map .text
  | .bool b => (encode (if b then 1 else 0)).map .text
  | value => .ok value

def decode (text : String) : Except Invalid Int :=
  (readInt 16 text).mapError .literal

/-- Reads a quantity that a node sent: null is no quantity, and only a text can be one. -/
def ofJson : Json → Except Fault (Option Int)
  | .null => .ok none
  | .text s => ((decode s).mapError .invalid).map some
  | _ => .error (.wrongType .quantity)

end TxSubmission.Quantity

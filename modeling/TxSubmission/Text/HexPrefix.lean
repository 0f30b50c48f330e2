/-!
The mark of hex text. Both 0x and 0X count; a text without the mark is given the lower-case one.
-/

namespace TxSubmission.Text

def marked : List Char → Bool
  | '0' :: 'x' :: _ => true
  | '0' :: 'X' :: _ => true
  | _ => false

def hasHexPrefix (s : String) : Bool := marked s.toList

def withHexPrefix (s : String) : String :=
  if hasHexPrefix s then s else "0x" ++ s

def withoutHexPrefix (s : String) : String :=
  if hasHexPrefix s then String.ofList (s.toList.drop 2) else s

theorem hasHexPrefix_withHexPrefix (s : String) : hasHexPrefix (withHexPrefix s) = true := by
  unfold withHexPrefix
  split
  next h => exact h
  next => simp [hasHexPrefix, marked]

theorem withHexPrefix_idem (s : String) : withHexPrefix (withHexPrefix s) = withHexPrefix s := by
  have h := hasHexPrefix_withHexPrefix s
  generalize withHexPrefix s = t at h
  simp [withHexPrefix, h]

end TxSubmission.Text

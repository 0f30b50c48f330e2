import TxSubmission.BlockParameter

/-!
Values on the command line. A number is decimal, or hex when it carries the mark; a block is a
number where it can be one, and otherwise a tag that is checked later.
-/

namespace TxSubmission.Cli

open Number Text

def readNumber (text : String) : Except LiteralFault Int :=
  if hasHexPrefix text then readInt 16 text else readInt 10 text

def readBlock (text : String) : BlockParameter :=
  match readNumber text with
  | .ok n => .number n
  | .error _ => .text text

end TxSubmission.Cli

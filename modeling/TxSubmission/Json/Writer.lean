import TxSubmission.Json
import TxSubmission.Number.DecimalText
import TxSubmission.Number.Literal

/-!
Writing values. Texts are written in ASCII alone: a character beyond it becomes the escape of
its one or two code units.
-/

namespace TxSubmission.Json

open Number Text

def unitEscape (n : Nat) : List Char := '\\' :: 'u' :: paddedDigits 16 4 n

def writtenChar (c : Char) : List Char :=
  if c = '"' then ['\\', '"']
  else if c = '\\' then ['\\', '\\']
  else if c = '\n' then ['\\', 'n']
  else if c = '\r' then ['\\', 'r']
  else if c = '\t' then ['\\', 't']
  else if c = '\x08' then ['\\', 'b']
  else if c = '\x0c' then ['\\', 'f']
  else if 0x20 ≤ c.toNat ∧ c.toNat < 0x7f then [c]
  else if c.toNat < 0x10000 then unitEscape c.toNat
  else
    let n := c.toNat - 0x10000
    unitEscape (0xd800 + n / 0x400) ++ unitEscape (0xdc00 + n % 0x400)

def writtenText (s : String) : String :=
  String.ofList ('"' :: s.toList.flatMap writtenChar ++ ['"'])

def writtenReal : Binary64 → String
  | .nan => "NaN"
  | .infinite negative => if negative then "-Infinity" else "Infinity"
  | x => x.display

mutual

def write : Json → String
  | .null => "null"
  | .bool true => "true"
  | .bool false => "false"
  | .int n => decimalText n
  | .real x => writtenReal x
  | .text s => writtenText s
  | .list items => "[" ++ writeItems items ++ "]"
  | .object members => "\x7b" ++ writeMembers members ++ "\x7d"

def writeItems : List Json → String
  | [] => ""
  | [item] => write item
  | item :: rest => write item ++ ", " ++ writeItems rest

def writeMembers : List (String × Json) → String
  | [] => ""
  | [(name, value)] => writtenText name ++ ": " ++ write value
  | (name, value) :: rest => writtenText name ++ ": " ++ write value ++ ", " ++ writeMembers rest

end

end TxSubmission.Json

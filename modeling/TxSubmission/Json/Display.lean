import TxSubmission.Json
import TxSubmission.Number.DecimalText
import TxSubmission.Number.Literal
import TxSubmission.Text.Quoted

/-!
The text of a value in messages and log lines. A text at the top stands for itself; inside lists
and objects texts are quoted. The constants are written None, True and False.
-/

namespace TxSubmission.Json

open Number Text

def quotedText (s : String) : String := String.ofList (quoted s.toList)

mutual

def nested : Json → String
  | .null => "None"
  | .bool true => "True"
  | .bool false => "False"
  | .int n => decimalText n
  | .real x => x.display
  | .text s => quotedText s
  | .list items => "[" ++ nestedItems items ++ "]"
  | .object members => "\x7b" ++ nestedMembers members ++ "\x7d"

def nestedItems : List Json → String
  | [] => ""
  | [item] => nested item
  | item :: rest => nested item ++ ", " ++ nestedItems rest

def nestedMembers : List (String × Json) → String
  | [] => ""
  | [(name, value)] => quotedText name ++ ": " ++ nested value
  | (name, value) :: rest => quotedText name ++ ": " ++ nested value ++ ", " ++ nestedMembers rest

end

def display : Json → String
  | .text s => s
  | value => nested value

def typeName : Json → String
  | .null => "NoneType"
  | .bool _ => "bool"
  | .int _ => "int"
  | .real _ => "float"
  | .text _ => "str"
  | .list _ => "list"
  | .object _ => "dict"

def described (value : Json) : String := "<class '" ++ value.typeName ++ "'>: " ++ value.nested

end TxSubmission.Json

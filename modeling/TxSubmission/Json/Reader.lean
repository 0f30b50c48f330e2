import TxSubmission.Json.Token

/-!
Reading values. Characters are cut into tokens and the tokens taken one at a time, with a stack of
the lists and objects that have been opened and not yet closed. Reading stops at the first fault,
and also where lists and objects lie deeper in each other than a limit allows.
-/

namespace TxSubmission.Json

/-- Why a text is not read: it is no value, or one container too many lies inside others. -/
inductive ReadFault where
  | malformed
  | tooDeep (inner : Container)
deriving DecidableEq, Repr

inductive Frame where
  | list (items : List Json)
  | object (members : Members) (name : String)

inductive Reading where
  | value (stack : List Frame)
  | item (stack : List Frame)
  | name (members : Members) (closable : Bool) (stack : List Frame)
  | colon (members : Members) (key : String) (stack : List Frame)
  | afterItem (items : List Json) (stack : List Frame)
  | afterMember (members : Members) (stack : List Frame)
  | done (value : Json)

def deliver (value : Json) : List Frame → Reading
  | [] => .done value
  | .list items :: stack => .afterItem (value :: items) stack
  | .object members name :: stack => .afterMember (members.insert name value) stack

/-- Opens a container inside others, of which there may be fewer than the limit. -/
def enter (limit : Nat) (inner : Container) (stack : List Frame) : Except ReadFault Reading :=
  if stack.length < limit then
    match inner with
    | .list => .ok (.item stack)
    | .object => .ok (.name [] true stack)
  else .error (.tooDeep inner)

def begin (limit : Nat) (stack : List Frame) : Token → Except ReadFault Reading
  | .scalar value => .ok (deliver value stack)
  | .text s => .ok (deliver (.text s) stack)
  | .mark .listOpen => enter limit .list stack
  | .mark .objectOpen => enter limit .object stack
  | _ => .error .malformed

def Reading.step (limit : Nat) : Reading → Token → Except ReadFault Reading
  | .value stack, token => begin limit stack token
  | .item stack, .mark .listClose => .ok (deliver (.list []) stack)
  | .item stack, token => begin limit (.list [] :: stack) token
  | .name members closable stack, token =>
    match token with
    | .text key => .ok (.colon members key stack)
    | .mark .objectClose =>
      if closable then .ok (deliver (.object members) stack) else .error .malformed
    | _ => .error .malformed
  | .colon members key stack, .mark .colon => .ok (.value (.object members key :: stack))
  | .afterItem items stack, .mark .comma => .ok (.value (.list items :: stack))
  | .afterItem items stack, .mark .listClose => .ok (deliver (.list items.reverse) stack)
  | .afterMember members stack, .mark .comma => .ok (.name members false stack)
  | .afterMember members stack, .mark .objectClose => .ok (deliver (.object members) stack)
  | _, _ => .error .malformed

def Reading.run (limit : Nat) : Reading → List Token → Except ReadFault Reading
  | reading, [] => .ok reading
  | reading, token :: rest =>
    match reading.step limit token with
    | .error fault => .error fault
    | .ok next => next.run limit rest

def Reading.scan (stand : Char) (limit : Nat) :
    Reading → Progress → List Char → Except ReadFault Reading
  | reading, progress, [] =>
    match progress.finish with
    | none => .error .malformed
    | some tokens => reading.run limit tokens
  | reading, progress, c :: rest =>
    match progress.step stand c with
    | none => .error .malformed
    | some (next, tokens) =>
      match reading.run limit tokens with
      | .error fault => .error fault
      | .ok reading => reading.scan stand limit next rest

def read (stand : Char) (limit : Nat) (s : List Char) : Except ReadFault Json :=
  match Reading.scan stand limit (.value []) .between s with
  | .ok (.done value) => .ok value
  | .ok _ => .error .malformed
  | .error fault => .error fault

/-- The value that a text stands for, however deep it is: no value is deeper than its text is
long. -/
def read? (s : List Char) : Option Json :=
  match read Text.replacement s.length s with
  | .ok value => some value
  | .error _ => none

def readMarked (stand : Char) (limit : Nat) : List Char → Except ReadFault Json
  | '\ufeff' :: rest => read stand limit rest
  | s => read stand limit s

end TxSubmission.Json

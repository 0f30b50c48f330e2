import TxSubmission.Failure
import TxSubmission.Http.Status
import TxSubmission.Json.Reader
import TxSubmission.Text.Wide

/-!
Nodes. A node is known by its replies: for every method an endless sequence, of which each
request of the method takes the next. A reply is an HTTP response, or a failure of the exchange
before there was one.

The texts of a body may hold half of a surrogate pair, which can neither be posted nor printed. A
body is whole if what it is read as does not depend on what stands for such a half, and then it
holds none; results about texts that go from a node to another request or to a line ask for it.
-/

namespace TxSubmission

/-- How many containers of a body may lie inside each other if it is read from an ordinary place. -/
def Http.usualDepth : Nat := 975

/-- The body of a response: text, with the depth to which the reader can follow it, or a value that
was written without fault and can be read again. -/
inductive Http.Body where
  | text (s : String) (limit : Nat := Http.usualDepth)
  | value (v : Json)

inductive Http.Reply where
  | broken (text : String)
  | response (status : Int) (location : Option String) (body : Http.Body)

namespace Http

/-- The value of a body, a character standing for every half of a surrogate pair. -/
def Body.readWith (stand : Char) : Body → Except Json.ReadFault Json
  | .text s limit =>
    match Text.unfoldUnits? stand s.toList with
    | some unfolded => Json.readMarked stand limit unfolded
    | none => .error .malformed
  | .value v => .ok v

def Body.read (body : Body) : Except Json.ReadFault Json := body.readWith Text.replacement

/-- Whether no text in a body holds half of a surrogate pair. -/
def Body.IsWhole (body : Body) : Prop := ∀ stand, body.readWith stand = body.read

def Reply.IsWhole : Reply → Prop
  | .broken _ => True
  | .response _ _ body => body.IsWhole

@[simp] theorem Body.read_value (v : Json) : (Body.value v).read = .ok v := rfl

theorem Body.isWhole_value (v : Json) : (Body.value v).IsWhole := fun _ => rfl

def failed (method text : String) : Failure := .execution (.transport (.failed method text))

/-- Why the place to which a response points cannot be gone to, if there is a reason. Only some
statuses point anywhere, and nobody goes there. -/
def pointerFailure? (method : String) (status : Int) (location : Option String) :
    Option Failure :=
  (location.filter fun _ => isRedirect status).bind fun place =>
    match Address.read place with
    | .error fault =>
      some (failed method ("Invalid URL in location header: " ++ fault.message ++ "."))
    | .ok target =>
      if target.isReachable then none else some (.fault (.address .unrooted))

def Body.envelope (method : String) (body : Body) : Except Failure Members :=
  match body.read with
  | .ok (.object members) => .ok members
  | .ok _ => .error (.execution (.transport (.notAnObject method)))
  | .error .malformed => .error (.execution (.transport (.unreadable method)))
  | .error (.tooDeep inner) => .error (.fault (.tooDeep (.decoding inner)))

/-- A reply to a request of a method at an address: the envelope that it carries, or the reason
why there is none. No response comes from an address without a host, and none can be made that
points outside ASCII. -/
def Reply.envelope (address : Address) (method : String) : Reply → Except Failure Members
  | .broken text => .error (failed method text)
  | .response status location body =>
    if !address.isAbsolute || location.any fun place => place.any fun c => !Address.isAscii c then
      .error (.execution (.transport (.unreadable method)))
    else
      match pointerFailure? method status location with
      | some failure => .error failure
      | none =>
        if isSuccess status then body.envelope method
        else .error (failed method (statusText address.text status location))

end Http

/-- A node: the replies to each method, and how many have been taken. -/
structure Node where
  replies : String → Nat → Http.Reply
  taken : String → Nat := fun _ => 0

namespace Node

/-- Whether no text that a node sends holds half of a surrogate pair. -/
def IsWhole (node : Node) : Prop := ∀ method n, (node.replies method n).IsWhole

def enveloped (members : Members) : Http.Reply := .response 200 none (.value (.object members))

def methodNotFound : Http.Reply :=
  enveloped
    [("error", .object [("code", .int (-32601)), ("message", .text "method not found")])]

/-- The next reply to a method. No node has a method whose name is no text. -/
def next (node : Node) : Given String → Http.Reply
  | .fit method => node.replies method (node.taken method)
  | .odd _ => methodNotFound

def advance (node : Node) : Given String → Node
  | .fit method =>
    let count := node.taken method + 1
    { node with taken := fun other => if other = method then count else node.taken other }
  | .odd _ => node

/-- The sequence that a list begins and its last item continues for ever. -/
def sustained (list : List Http.Reply) (n : Nat) : Http.Reply :=
  (list[n]?.or list.getLast?).getD methodNotFound

def readReply (description : Json) : Http.Reply :=
  match description with
  | .object members =>
    let status :=
      match Members.get "status" members with
      | .int n => n
      | _ => 200
    let location :=
      match Members.get "location" members with
      | .text s => some s
      | _ => none
    if (Members.get? "result" members).isSome || (Members.get? "error" members).isSome then
      enveloped members
    else
      match Members.get? "envelope" members, Members.get? "exc" members with
      | some value, _ => .response status location (.value value)
      | none, some _ =>
        match Members.get "message" members with
        | .text s => .broken s
        | _ => .broken ""
      | none, none =>
        match Members.get "raw" members with
        | .text s => .response status location (.text s)
        | _ => .response status location (.text "")
  | _ => methodNotFound

def ofMembers (description : Members) : Node :=
  let lists := description.map fun (method, value) =>
    match value with
    | .list items => (method, items.map readReply)
    | _ => (method, [])
  { replies := fun method => sustained ((lists.lookup method).getD []) }

end Node

end TxSubmission

import TxSubmission.Proofs.Confirmation
import TxSubmission.Proofs.Relay

/-!
Errors inside replies. The operations that return a reply hand an error of the node back in it, as
far as the error can be read. What is no object is read as a message, whatever it is; an object is
read if its code is: a code that is missing or counts as false stands for the internal error, any
other has to be a whole or finite number, a truth value or a decimal literal. With a code of another
form the operation ends with the fault of reading it.
-/

namespace TxSubmission

open Number

def Json.isCode : Json → Bool
  | .null | .bool _ | .int _ => true
  | .real (.finite ..) => true
  | .real _ => false
  | .text s => s = "" || (readInt 10 s).isOk
  | .list items => items.isEmpty
  | .object members => members.isEmpty

def Json.isReport : Json → Bool
  | .object members => (Members.get "code" members).isCode
  | _ => true

namespace RpcError

theorem isOk_readCode (value : Json) : (readCode value).isOk = value.isCode := by
  cases value with
  | null => rfl
  | bool b => rfl
  | int n => rfl
  | real x => cases x <;> rfl
  | text s =>
    simp only [readCode, Json.isCode]
    by_cases empty : s = ""
    · rw [if_pos empty, decide_eq_true empty]
      rfl
    · rw [if_neg empty, decide_eq_false empty]
      cases readInt 10 s <;> rfl
  | list items => cases items <;> rfl
  | object members => cases members <;> rfl

theorem isOk_ofJson (value : Json) : (ofJson value).isOk = value.isReport := by
  cases value with
  | object members =>
    simp only [ofJson, Json.isReport, ← isOk_readCode]
    cases readCode (Members.get "code" members) <;> rfl
  | _ => rfl

end RpcError

def CallReply.refused (error : RpcError) : CallReply :=
  { error := some error
    reverted := error.isRevert
    reason := if error.isRevert then some error.message else none }

theorem CallReply.ofEnvelope_of_present {envelope : Members}
    (present : (Members.get "error" envelope).isNull = false)
    (empty : (Members.get "result" envelope).isNull = true) :
    ofEnvelope envelope = (RpcError.ofJson (Members.get "error" envelope)).map refused := by
  have result : Members.get "result" envelope = .null := by
    cases value : Members.get "result" envelope with
    | null => rfl
    | _ => rw [value] at empty; cases empty
  unfold ofEnvelope
  rw [RpcError.ofEnvelope_of_present present, result]
  cases RpcError.ofJson (Members.get "error" envelope) with
  | error fault => rfl
  | ok error =>
    simp only [Except.map, bind, Except.bind, Option.filter_some, refused]
    cases error.isRevert with
    | true => rfl
    | false => rfl

theorem CodeReply.ofEnvelope_of_present {envelope : Members}
    (present : (Members.get "error" envelope).isNull = false) :
    ofEnvelope envelope =
      (RpcError.ofJson (Members.get "error" envelope)).map
        fun error => { error := some error } := by
  unfold ofEnvelope
  rw [RpcError.ofEnvelope_of_present present]
  cases RpcError.ofJson (Members.get "error" envelope) with
  | error fault => rfl
  | ok error => rfl

def Act.Hears {α : Type} (act : Act Link α) (endpoint : Endpoint) (method : Given String)
    (envelope : Members) (outcome : Except Failure α) : Prop :=
  ∀ link, (act link).trace.questions ≠ [] →
    endpoint.object? (link.node.next method) = some envelope → (act link).outcome = outcome

theorem Act.Relays.hears {α : Type} {act : Act Link α} {endpoint : Endpoint}
    {method : Given String} {params : Except Failure (List Json)}
    {read : Members → Except Failure α} (relays : act.Relays endpoint method params read)
    {envelope : Members} {outcome : Except Failure α} (made : read envelope = outcome) :
    act.Hears endpoint method envelope outcome := by
  intro link asked heard
  rw [relays.heard asked heard, made]

/-- What becomes of a report: each operation that returns a reply hands the error back in it, or
ends with the fault of reading it. -/
structure Endpoint.HandsBack (endpoint : Endpoint) (envelope : Members)
    (report : Except Fault RpcError) : Prop where
  sendReply : SendReply.ofEnvelope envelope = report.map fun error => { error := some error }
  callReply : CallReply.ofEnvelope envelope = report.map CallReply.refused
  codeReply : CodeReply.ofEnvelope envelope = report.map fun error => { error := some error }
  sent : ∀ request, (Provider.send endpoint request).Hears endpoint (.fit Provider.sendMethod)
    envelope ((report.map fun error => { error := some error }).mapError .fault)
  called : ∀ request block, (Provider.call endpoint request block).Hears endpoint
    (.fit "eth_call") envelope ((report.map CallReply.refused).mapError .fault)
  coded : ∀ address block, (Provider.code endpoint address block).Hears endpoint
    (.fit "eth_getCode") envelope
    ((report.map fun error => { error := some error }).mapError .fault)

namespace Endpoint

variable (endpoint : Endpoint) {envelope : Members}

theorem handsBack (present : (Members.get "error" envelope).isNull = false)
    (empty : (Members.get "result" envelope).isNull = true) :
    endpoint.HandsBack envelope (RpcError.ofJson (Members.get "error" envelope)) := by
  have sendReply := SendReply.ofEnvelope_of_present present
  have callReply := CallReply.ofEnvelope_of_present present empty
  have codeReply := CodeReply.ofEnvelope_of_present present
  refine ⟨sendReply, callReply, codeReply, ?_, ?_, ?_⟩
  · intro request
    apply (Provider.send_relays endpoint request).hears
    rw [sendReply]
  · intro request block
    apply (Provider.call_relays endpoint request block).hears
    rw [callReply]
  · intro address block
    apply (Provider.code_relays endpoint address block).hears
    rw [codeReply]

/-- An error in a reply without a result is handed back by every operation that returns the reply if
it can be read; otherwise all of them end with the same fault. -/
theorem errors_handed_back (present : (Members.get "error" envelope).isNull = false)
    (empty : (Members.get "result" envelope).isNull = true) :
    ((Members.get "error" envelope).isReport = true →
      ∃ error, RpcError.ofJson (Members.get "error" envelope) = .ok error ∧
        endpoint.HandsBack envelope (.ok error)) ∧
    ((Members.get "error" envelope).isReport = false →
      ∃ fault, RpcError.ofJson (Members.get "error" envelope) = .error fault ∧
        endpoint.HandsBack envelope (.error fault)) := by
  have handed := endpoint.handsBack present empty
  have read := RpcError.isOk_ofJson (Members.get "error" envelope)
  cases reported : RpcError.ofJson (Members.get "error" envelope) with
  | ok error =>
    rw [reported] at handed read
    constructor
    · intro readable
      exact ⟨error, rfl, handed⟩
    · intro unreadable
      rw [unreadable] at read
      cases read
  | error fault =>
    rw [reported] at handed read
    constructor
    · intro readable
      rw [readable] at read
      cases read
    · intro unreadable
      exact ⟨fault, rfl, handed⟩

def coded (code : Json) : Members :=
  [("error", .object [("code", code), ("message", .text "m"), ("data", .text "0x1")])]

theorem errors_handed_back_coded :
    (∃ error, RpcError.ofJson (Members.get "error" (coded (.text "-7"))) = .ok error ∧
      (plain "http://n").HandsBack (coded (.text "-7")) (.ok error)) ∧
    ∃ fault, RpcError.ofJson (Members.get "error" (coded (.text "abc"))) = .error fault ∧
      (plain "http://n").HandsBack (coded (.text "abc")) (.error fault) := by
  have readable : (Json.text "-7").isCode = true := by decide +kernel
  have unreadable : (Json.text "abc").isCode = false := by decide +kernel
  obtain ⟨handed, -⟩ := @errors_handed_back (plain "http://n") (coded (.text "-7")) rfl rfl
  obtain ⟨-, failed⟩ := @errors_handed_back (plain "http://n") (coded (.text "abc")) rfl rfl
  exact ⟨handed readable, failed unreadable⟩

/-- Not every error is handed back: the code may be a text that is no number. -/
theorem errors_not_always_handed_back :
    (Members.get "error" (coded (.text "abc"))).isNull = false ∧
      (Members.get "result" (coded (.text "abc"))).isNull = true ∧
      (SendReply.ofEnvelope (coded (.text "abc"))).isOk = false ∧
      (CallReply.ofEnvelope (coded (.text "abc"))).isOk = false ∧
      (CodeReply.ofEnvelope (coded (.text "abc"))).isOk = false := by
  decide +kernel

end Endpoint

end TxSubmission

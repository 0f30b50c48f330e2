import TxSubmission.Proofs.Observation
import TxSubmission.Proofs.SendableValues

/-!
One exchange with a node. A request goes to the target of its endpoint, which is missing if the
request cannot be logged, the address cannot be read or a number is not finite; without a target
nothing is posted. With one exactly one request is posted and exactly one reply taken. The object
of a reply is what a client gets out of it: a response that arrives, has a status of success and
carries an object.
-/

namespace TxSubmission

open Number

namespace Node

def ahead (node : Node) (method : String) (n : Nat) : Http.Reply :=
  node.replies method (node.taken method + n)

def advanceBy (node : Node) (method : String) (n : Nat) : Node :=
  { node with
    taken := fun other => if other = method then node.taken method + n else node.taken other }

def silent : Node := { replies := fun _ _ => enveloped [("result", .null)] }

def accepting : Node := { replies := fun _ _ => enveloped [("result", .text "0x1")] }

theorem isWhole_silent : silent.IsWhole := fun _ _ => Http.Body.isWhole_value _

theorem isWhole_accepting : accepting.IsWhole := fun _ _ => Http.Body.isWhole_value _

theorem next_fit (node : Node) (method : String) : node.next (.fit method) = node.ahead method 0 :=
  rfl

theorem ahead_advance_same (node : Node) (method : String) (n : Nat) :
    (node.advance (.fit method)).ahead method n = node.ahead method (n + 1) := by
  simp only [advance, ahead, if_true]
  rw [Nat.add_assoc, Nat.add_comm 1 n]

theorem ahead_advance_other (node : Node) {method other : String} (different : other ≠ method)
    (n : Nat) : (node.advance (.fit method)).ahead other n = node.ahead other n := by
  simp only [advance, ahead, if_neg different]

theorem advanceBy_zero (node : Node) (method : String) : node.advanceBy method 0 = node := by
  obtain ⟨replies, taken⟩ := node
  simp only [advanceBy, Nat.add_zero, Node.mk.injEq, true_and]
  funext other
  split
  next same => rw [same]
  next => rfl

theorem advanceBy_advance (node : Node) (method : String) (n : Nat) :
    (node.advance (.fit method)).advanceBy method n = node.advanceBy method (n + 1) := by
  simp only [advanceBy, advance, Node.mk.injEq, true_and]
  funext other
  split
  next =>
    rw [if_pos trivial]
    omega
  next => rfl

end Node

def Failure.isExchange : Failure → Bool
  | .fault _ => true
  | .execution (.transport _) => true
  | .execution _ => false

namespace Http

/-- Whether a client at an address gets to see a reply: it is a response, comes from a host, and
has a header of ASCII. -/
def Reply.arrives (address : Address) : Reply → Bool
  | .broken _ => false
  | .response _ location _ =>
    address.isAbsolute && !location.any fun place => place.any fun c => !Address.isAscii c

def Body.object? (body : Body) : Option Members :=
  match body.read with
  | .ok (.object members) => some members
  | _ => none

/-- The object that a client at an address gets out of a reply: the body of a response with a
status of success. -/
def Reply.object? (address : Address) (reply : Reply) : Option Members :=
  match reply with
  | .broken _ => none
  | .response status _ body =>
    if reply.arrives address && isSuccess status then body.object? else none

theorem Body.envelope_eq_ok_iff {method : String} {body : Body} {members : Members} :
    body.envelope method = .ok members ↔ body.object? = some members := by
  unfold Body.envelope Body.object?
  cases body.read with
  | error fault => cases fault <;> simp
  | ok value => cases value <;> simp

theorem pointerFailure?_of_isSuccess {status : Int} (success : isSuccess status = true)
    (method : String) (location : Option String) :
    pointerFailure? method status location = none := by
  have straight : isRedirect status = false := by
    simp only [isSuccess, Bool.and_eq_true, decide_eq_true_eq] at success
    simp only [isRedirect, List.mem_cons, List.not_mem_nil, or_false, decide_eq_false_iff_not]
    omega
  cases location <;> simp [pointerFailure?, straight, Option.filter]

theorem Reply.envelope_eq_ok_iff {address : Address} {method : String} {reply : Reply}
    {members : Members} :
    reply.envelope address method = .ok members ↔ reply.object? address = some members := by
  cases reply with
  | broken text => simp [envelope, object?]
  | response status location body =>
    have lost : (!address.isAbsolute ||
        location.any fun place => place.any fun c => !Address.isAscii c) =
          !(response status location body).arrives address := by
      simp only [arrives, Bool.not_and, Bool.not_not]
    simp only [envelope, object?, lost]
    cases (response status location body).arrives address with
    | false => simp
    | true =>
      cases success : isSuccess status with
      | true =>
        rw [pointerFailure?_of_isSuccess success]
        simpa using Body.envelope_eq_ok_iff
      | false => cases pointerFailure? method status location <;> simp

theorem Reply.envelope_of_object? {address : Address} {reply : Reply} {members : Members}
    (found : reply.object? address = some members) (method : String) :
    reply.envelope address method = .ok members :=
  envelope_eq_ok_iff.mpr found

theorem Body.envelope_isExchange {method : String} {body : Body} {failure : Failure}
    (lost : body.envelope method = .error failure) : failure.isExchange = true := by
  unfold Body.envelope at lost
  split at lost
  next => cases lost
  next =>
    cases lost
    rfl
  next =>
    cases lost
    rfl
  next =>
    cases lost
    rfl

theorem pointerFailure?_isExchange {method : String} {status : Int} {location : Option String}
    {failure : Failure} (lost : pointerFailure? method status location = some failure) :
    failure.isExchange = true := by
  obtain ⟨place, -, lost⟩ := Option.bind_eq_some_iff.mp lost
  split at lost
  next =>
    cases lost
    rfl
  next =>
    split at lost
    next => cases lost
    next =>
      cases lost
      rfl

theorem Reply.envelope_isExchange {address : Address} {method : String} {reply : Reply}
    {failure : Failure} (lost : reply.envelope address method = .error failure) :
    failure.isExchange = true := by
  cases reply with
  | broken text =>
    cases lost
    rfl
  | response status location body =>
    simp only [envelope] at lost
    split at lost
    next =>
      cases lost
      rfl
    next =>
      split at lost
      next failure pointed =>
        cases lost
        exact pointerFailure?_isExchange pointed
      next =>
        split at lost
        next => exact Body.envelope_isExchange lost
        next =>
          cases lost
          rfl

theorem Reply.envelope_error_of_object? {address : Address} {reply : Reply}
    (missing : reply.object? address = none) (method : String) :
    (∃ cause, reply.envelope address method = .error (.execution (.transport cause))) ∨
      ∃ fault, reply.envelope address method = .error (.fault fault) := by
  cases read : reply.envelope address method with
  | ok members =>
    rw [envelope_eq_ok_iff.mp read] at missing
    cases missing
  | error failure =>
    have kind := envelope_isExchange read
    cases failure with
    | fault fault => exact .inr ⟨fault, rfl⟩
    | execution error =>
      cases error with
      | transport cause => exact .inl ⟨cause, rfl⟩
      | _ => cases kind

end Http

namespace RpcError

theorem ofEnvelope_of_absent {envelope : Members}
    (absent : (Members.get "error" envelope).isNull = true) : ofEnvelope envelope = .ok none := by
  unfold ofEnvelope
  cases value : Members.get "error" envelope with
  | null => rfl
  | _ => rw [value] at absent; cases absent

theorem ofEnvelope_of_present {envelope : Members}
    (present : (Members.get "error" envelope).isNull = false) :
    ofEnvelope envelope = (ofJson (Members.get "error" envelope)).map some := by
  unfold ofEnvelope
  cases value : Members.get "error" envelope with
  | null => rw [value] at present; cases present
  | _ => rfl

end RpcError

/-- Where a request of an endpoint is posted, or why it is not posted. -/
def Endpoint.target (endpoint : Endpoint) (method : Given String) (params : List Json) :
    Except Failure Http.Address :=
  match RpcRequest.logText endpoint.room method params with
  | .error fault => .error (.fault fault)
  | .ok _ =>
    match endpoint.address with
    | .error fault => .error (.fault fault)
    | .ok address =>
      if method.toJson.isFinite && (Json.list params).isFinite then .ok address
      else .error (.execution (.transport (.unreadable method.display)))

namespace Endpoint

variable {endpoint : Endpoint} {method : Given String} {params : List Json}

theorem target_eq_ok_iff {address : Http.Address} :
    endpoint.target method params = .ok address ↔ endpoint.address = .ok address ∧
      RpcRequest.isSendable endpoint.room method params = true := by
  rw [RpcRequest.isSendable_iff, target, RpcRequest.logText]
  cases RpcRequest.unshown? endpoint.room method params with
  | some fault => simp
  | none =>
    cases endpoint.address with
    | error fault => simp
    | ok other =>
      dsimp only
      split
      next finite => simp [finite]
      next infinite => simp [infinite]

theorem target_of_address {address : Http.Address} (read : endpoint.address = .ok address)
    (sendable : RpcRequest.isSendable endpoint.room method params = true) :
    endpoint.target method params = .ok address :=
  target_eq_ok_iff.mpr ⟨read, sendable⟩

theorem target_of_unreadable {fault : Fault} (unreadable : endpoint.address = .error fault)
    (sendable : RpcRequest.isSendable endpoint.room method params = true) :
    endpoint.target method params = .error (.fault fault) := by
  simp only [target, RpcRequest.logText, (RpcRequest.isSendable_iff.mp sendable).1, unreadable]

theorem address_of_target {address : Http.Address}
    (posted : endpoint.target method params = .ok address) : endpoint.address = .ok address :=
  (target_eq_ok_iff.mp posted).1

end Endpoint

/-- A link whose next number has been taken; its client is open by then. -/
def Link.counted (link : Link) : Link := { link with sent := link.sent + 1, client := .live }

namespace Provider

def opening (endpoint : Endpoint) (link : Link) : Trace :=
  if link.client = .live then [] else [.opened endpoint.timeout]

def complaint : Except Failure Members → Trace
  | .ok _ => []
  | .error failure => if failure.isBroken then [.logged .error .provider failure.message] else []

theorem connect_run (endpoint : Endpoint) (link : Link) :
    connect endpoint link = ⟨.ok (), { link with client := .live }, opening endpoint link⟩ := by
  obtain ⟨node, sent, client⟩ := link
  cases client <;> rfl

def announcement (endpoint : Endpoint) (method : Given String) (params : List Json) : Trace :=
  match RpcRequest.logText endpoint.room method params with
  | .ok text => [.logged .debug .provider text]
  | .error _ => []

/-- Without a target a number is used up and nothing is posted. -/
theorem exchange_untargeted {endpoint : Endpoint} {method : Given String} {params : List Json}
    {failure : Failure} (untargeted : endpoint.target method params = .error failure)
    (link : Link) :
    exchange endpoint method params link =
      ⟨.error failure, link.counted,
        opening endpoint link ++ announcement endpoint method params⟩ := by
  unfold exchange
  rw [Act.bind_of_ok (connect_run endpoint link)]
  unfold Endpoint.target at untargeted
  unfold announcement
  cases logged : RpcRequest.logText endpoint.room method params with
  | error fault =>
    rw [logged] at untargeted
    cases untargeted
    rfl
  | ok text =>
    rw [logged] at untargeted
    dsimp only at untargeted
    cases read : endpoint.address with
    | error fault =>
      rw [read] at untargeted
      cases untargeted
      rfl
    | ok address =>
      rw [read] at untargeted
      dsimp only at untargeted
      split at untargeted
      next => cases untargeted
      next infinite =>
        cases untargeted
        simp only [number, Act.modifyGet_then, Act.log_then, Act.ofFault_ok, pure_bind,
          RpcRequest.isFinite_body, Bool.eq_false_iff.mpr infinite, Bool.not_false, if_true]
        rfl

/-- With a target one request is posted, and the next reply to its method decides. -/
theorem exchange_targeted {endpoint : Endpoint} {method : Given String} {params : List Json}
    {address : Http.Address} (targeted : endpoint.target method params = .ok address)
    (link : Link) :
    exchange endpoint method params link =
      ⟨(link.node.next method).envelope address method.display,
        { link.counted with node := link.node.advance method },
        opening endpoint link ++ (announcement endpoint method params ++
          .posted address.text ⟨link.sent + 1, method, params⟩ ::
          complaint ((link.node.next method).envelope address method.display))⟩ := by
  obtain ⟨read, sendable⟩ := Endpoint.target_eq_ok_iff.mp targeted
  obtain ⟨shown, finite⟩ := RpcRequest.isSendable_iff.mp sendable
  have logged : RpcRequest.logText endpoint.room method params =
      .ok (RpcRequest.text method params) := by
    rw [RpcRequest.logText, shown]
  unfold exchange
  rw [Act.bind_of_ok (connect_run endpoint link)]
  simp only [number, post, announcement, logged, Act.modifyGet_then, Act.log_then, Act.emit_then,
    read, Act.ofFault_ok, pure_bind, bind_assoc, RpcRequest.isFinite_body, finite, Bool.not_true,
    Bool.false_eq_true, if_false]
  cases (link.node.next method).envelope address method.display with
  | ok envelope => rfl
  | error failure =>
    cases broken : failure.isBroken with
    | true => simp [Act.log_then, Act.fail, Link.counted, complaint, Ran.after, broken]
    | false => simp [Act.fail, Link.counted, complaint, Ran.after, broken]

section Surroundings

variable {endpoint : Endpoint} {link : Link} {method : Given String} {params : List Json}
  {heard : Except Failure Members} {event : Event} {δ : Type} {seen : Event → Option δ}

theorem eq_of_mem_opening (shown : event ∈ opening endpoint link) :
    event = .opened endpoint.timeout := by
  unfold opening at shown
  split at shown
  next => cases shown
  next => exact List.mem_singleton.mp shown

theorem exists_of_mem_announcement (shown : event ∈ announcement endpoint method params) :
    ∃ text, event = .logged .debug .provider text := by
  unfold announcement at shown
  split at shown
  next text _ => exact ⟨text, List.mem_singleton.mp shown⟩
  next => cases shown

theorem exists_of_mem_complaint (shown : event ∈ complaint heard) :
    ∃ text, event = .logged .error .provider text := by
  cases heard with
  | ok envelope => cases shown
  | error failure =>
    unfold complaint at shown
    dsimp only at shown
    split at shown
    next => exact ⟨failure.message, List.mem_singleton.mp shown⟩
    next => cases shown

-- What an observer takes from a trace is a `filterMap` of its events. One who is blind to clients
-- or to log records finds nothing around the posted request.
theorem filterMap_opening (blind : ∀ timeout, seen (.opened timeout) = none) :
    (opening endpoint link).filterMap seen = [] := by
  refine List.filterMap_eq_nil_iff.mpr fun event shown => ?_
  rw [eq_of_mem_opening shown]
  exact blind _

theorem filterMap_announcement
    (blind : ∀ severity component text, seen (.logged severity component text) = none) :
    (announcement endpoint method params).filterMap seen = [] := by
  refine List.filterMap_eq_nil_iff.mpr fun event shown => ?_
  obtain ⟨text, rfl⟩ := exists_of_mem_announcement shown
  exact blind _ _ _

theorem filterMap_complaint
    (blind : ∀ severity component text, seen (.logged severity component text) = none) :
    (complaint heard).filterMap seen = [] := by
  refine List.filterMap_eq_nil_iff.mpr fun event shown => ?_
  obtain ⟨text, rfl⟩ := exists_of_mem_complaint shown
  exact blind _ _ _

end Surroundings

@[simp]
theorem questions_opening (endpoint : Endpoint) (link : Link) :
    (opening endpoint link).questions = [] := by
  rw [Trace.questions, Trace.postings, filterMap_opening fun _ => rfl, List.map_nil]

@[simp]
theorem sleeps_opening (endpoint : Endpoint) (link : Link) :
    (opening endpoint link).sleeps = [] :=
  filterMap_opening fun _ => rfl

@[simp]
theorem questions_announcement (endpoint : Endpoint) (method : Given String)
    (params : List Json) : (announcement endpoint method params).questions = [] := by
  rw [Trace.questions, Trace.postings, filterMap_announcement fun _ _ _ => rfl, List.map_nil]

@[simp]
theorem sleeps_announcement (endpoint : Endpoint) (method : Given String)
    (params : List Json) : (announcement endpoint method params).sleeps = [] :=
  filterMap_announcement fun _ _ _ => rfl

@[simp]
theorem questions_complaint (heard : Except Failure Members) :
    (complaint heard).questions = [] := by
  rw [Trace.questions, Trace.postings, filterMap_complaint fun _ _ _ => rfl, List.map_nil]

@[simp]
theorem sleeps_complaint (heard : Except Failure Members) : (complaint heard).sleeps = [] :=
  filterMap_complaint fun _ _ _ => rfl

theorem exchange_shows_nothing {endpoint : Endpoint} {method : Given String} {params : List Json}
    {failure : Failure} (untargeted : endpoint.target method params = .error failure)
    (node : Node) :
    (exchange endpoint method params).Shows node (.error failure) [] [] node := by
  intro link same
  rw [exchange_untargeted untargeted]
  exact ⟨rfl, by simp, by simp, same⟩

theorem exchange_shows {endpoint : Endpoint} {method : Given String} {params : List Json}
    {address : Http.Address} (targeted : endpoint.target method params = .ok address)
    (node : Node) :
    (exchange endpoint method params).Shows node
      ((node.next method).envelope address method.display) [⟨address.text, method, params⟩] []
      (node.advance method) := by
  rintro link rfl
  rw [exchange_targeted targeted]
  exact ⟨rfl, by simp, by simp, rfl⟩

variable {β : Type} {endpoint : Endpoint} {method : Given String} {params : List Json}
  {address : Http.Address} {node : Node}

theorem exchange_then (targeted : endpoint.target method params = .ok address)
    {envelope : Members} (heard : (node.next method).object? address = some envelope)
    {next : Members → Act Link β} {outcome : Except Failure β} {later : List Question}
    {sleeps : List Amount} {left : Node}
    (goes : (next envelope).Shows (node.advance method) outcome later sleeps left) :
    (exchange endpoint method params >>= next).Shows node outcome
      (⟨address.text, method, params⟩ :: later) sleeps left := by
  have asked := exchange_shows targeted node
  rw [Http.Reply.envelope_of_object? heard] at asked
  exact asked.bind goes

theorem exchange_lost (targeted : endpoint.target method params = .ok address)
    {failure : Failure}
    (lost : (node.next method).envelope address method.display = .error failure)
    (next : Members → Act Link β) :
    (exchange endpoint method params >>= next).Shows node (.error failure)
      [⟨address.text, method, params⟩] [] (node.advance method) := by
  have asked := exchange_shows targeted node
  rw [lost] at asked
  exact asked.bind_error next

variable {envelope : Members}

theorem exchange_unreported (targeted : endpoint.target method params = .ok address)
    (heard : (node.next method).object? address = some envelope)
    (absent : (Members.get "error" envelope).isNull = true)
    {next : Members → Option RpcError → Act Link β} {outcome : Except Failure β}
    {later : List Question} {sleeps : List Amount} {left : Node}
    (goes : (next envelope none).Shows (node.advance method) outcome later sleeps left) :
    (exchange endpoint method params >>= fun envelope =>
      Act.ofFault (RpcError.ofEnvelope envelope) >>= next envelope).Shows node outcome
        (⟨address.text, method, params⟩ :: later) sleeps left := by
  refine exchange_then targeted heard ?_
  rw [RpcError.ofEnvelope_of_absent absent, Act.ofFault_ok, pure_bind]
  exact goes

theorem exchange_reported (targeted : endpoint.target method params = .ok address)
    (heard : (node.next method).object? address = some envelope)
    (present : (Members.get "error" envelope).isNull = false) {error : RpcError}
    (reported : RpcError.ofJson (Members.get "error" envelope) = .ok error)
    {next : Members → Option RpcError → Act Link β} {outcome : Except Failure β}
    {later : List Question} {sleeps : List Amount} {left : Node}
    (goes : (next envelope (some error)).Shows (node.advance method) outcome later sleeps left) :
    (exchange endpoint method params >>= fun envelope =>
      Act.ofFault (RpcError.ofEnvelope envelope) >>= next envelope).Shows node outcome
        (⟨address.text, method, params⟩ :: later) sleeps left := by
  refine exchange_then targeted heard ?_
  rw [RpcError.ofEnvelope_of_present present, reported]
  exact goes

theorem exchange_garbled (targeted : endpoint.target method params = .ok address)
    (heard : (node.next method).object? address = some envelope)
    (present : (Members.get "error" envelope).isNull = false) {fault : Fault}
    (misread : RpcError.ofJson (Members.get "error" envelope) = .error fault)
    (next : Members → Option RpcError → Act Link β) :
    (exchange endpoint method params >>= fun envelope =>
      Act.ofFault (RpcError.ofEnvelope envelope) >>= next envelope).Shows node
        (.error (.fault fault)) [⟨address.text, method, params⟩] [] (node.advance method) := by
  refine exchange_then targeted heard ?_
  rw [RpcError.ofEnvelope_of_present present, misread]
  exact Act.Shows.fail _ _

end Provider

namespace Http.Address

theorem isSchemeChar_colon : isSchemeChar ':' = false := by
  rw [isSchemeChar, String.contains_char_eq]
  simp

theorem splitScheme_append {scheme : List Char}
    (plain : ∀ c ∈ scheme, isSchemeChar c = true) (begun : scheme.head?.all Char.isAlpha = true)
    (rest : List Char) : splitScheme (scheme ++ ':' :: rest) = (scheme, rest) := by
  have dropped : (scheme ++ ':' :: rest).dropWhile isSchemeChar = ':' :: rest := by
    rw [List.dropWhile_append_of_pos plain, List.dropWhile_cons_of_neg]
    rw [isSchemeChar_colon]
    decide
  have taken : (scheme ++ ':' :: rest).takeWhile isSchemeChar = scheme := by
    rw [List.takeWhile_append_of_pos plain, List.takeWhile_cons_of_neg, List.append_nil]
    rw [isSchemeChar_colon]
    decide
  rw [splitScheme, dropped, taken]
  exact if_pos begun

theorem splitScheme_http (rest : List Char) :
    splitScheme ('h' :: 't' :: 't' :: 'p' :: ':' :: rest) = (['h', 't', 't', 'p'], rest) := by
  have letters : ∀ c ∈ ['h', 't', 't', 'p'], isSchemeChar c = true := by
    intro c member
    simp only [List.mem_cons, List.not_mem_nil, or_false] at member
    rcases member with rfl | rfl | rfl | rfl <;> rfl
  exact splitScheme_append letters rfl rest
end Http.Address

namespace Endpoint

def plain (url : String) : Endpoint :=
  { url := .fit url, timeout := none, lookupMethod := .fit defaultLookup }

def sampleAddress : Http.Address :=
  { scheme := "http".toList, user := [], host := ['n'], socket := none, path := [], query := none,
    fragment := none }

theorem address_plain_eq (url : String) :
    (plain url).address = (Http.Address.read url).mapError .address := rfl

theorem address_plain : (plain "http://n").address = .ok sampleAddress := by
  have found : (Http.Address.read "http://n").toOption = some sampleAddress := by
    have text : "http://n".toList = 'h' :: 't' :: 't' :: 'p' :: ':' :: ['/', '/', 'n'] :=
      String.toList_ofList
    unfold Http.Address.read
    simp only [text, Http.Address.splitScheme_http]
    decide +kernel
  cases read : Http.Address.read "http://n" with
  | error fault =>
    rw [read] at found
    cases found
  | ok other =>
    rw [read] at found
    cases found
    rw [address_plain_eq, read]
    rfl

theorem address_plain_bracket : ∃ fault, (plain "http://[::1").address = .error fault := by
  have lost : (Http.Address.read "http://[::1").toOption = none := by
    have text : "http://[::1".toList =
      'h' :: 't' :: 't' :: 'p' :: ':' :: ['/', '/', '[', ':', ':', '1'] := String.toList_ofList
    unfold Http.Address.read
    simp only [text, Http.Address.splitScheme_http]
    decide +kernel
  cases read : Http.Address.read "http://[::1" with
  | error fault => exact ⟨.address fault, by rw [address_plain_eq, read]; rfl⟩
  | ok address =>
    rw [read] at lost
    cases lost

end Endpoint

end TxSubmission

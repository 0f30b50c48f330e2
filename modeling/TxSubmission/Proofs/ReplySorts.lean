import TxSubmission.Proofs.Exchange

/-!
The sorts of replies. An exchange ends in one of a few ways, by the reply to it: the object in the
body of a response is handed on; a failure of the round trip and a status other than success, a body
or a whole response that cannot be read, and a value that is no object each have a failure with a
message of its own. Two sorts are strays, for which there is no such failure: a response that sends
the client to a place without a root, and a body whose containers lie too deep in each other.
-/

namespace TxSubmission

open Number

namespace Http

/-- Whether a response sends the client to a place that cannot be completed to an address. -/
def isDangling (status : Int) (location : Option String) : Bool :=
  isRedirect status && location.any fun place =>
    match Address.read place with
    | .ok target => !target.isReachable
    | .error _ => false

def Body.isTooDeep (body : Body) : Bool :=
  match body.read with
  | .error (.tooDeep _) => true
  | _ => false

namespace Reply

/-- Whether a reply is a response that the client at an address gets to see but has no failure
for. -/
def isStray (address : Address) (reply : Reply) : Bool :=
  match reply with
  | .broken _ => false
  | .response status location body =>
    reply.arrives address &&
      (isDangling status location || (isSuccess status && body.isTooDeep))

def Brings (address : Address) (reply : Reply) (status : Int) (location : Option String)
    (body : Body) : Prop :=
  reply = .response status location body ∧ reply.arrives address = true

/-- The sorts of replies, and how an exchange ends for each. -/
inductive Sorts (address : Address) (method : String) : Reply → Except Failure Members → Prop
  | broken {text : String} : Sorts address method (.broken text) (.error (failed method text))
  | unseen {status : Int} {location : Option String} {body : Body}
      (away : (response status location body).arrives address = false) :
      Sorts address method (.response status location body)
        (.error (.execution (.transport (.unreadable method))))
  | stray {status : Int} {location : Option String} {body : Body} {fault : Fault}
      (seen : (response status location body).arrives address = true)
      (strays : isDangling status location = true ∧ isSuccess status = false ∨
        isSuccess status = true ∧ ∃ inner, body.read = .error (.tooDeep inner)) :
      Sorts address method (.response status location body) (.error (.fault fault))
  | refused {status : Int} {location : Option String} {body : Body} {text : String}
      (seen : (response status location body).arrives address = true)
      (straight : isDangling status location = false) (unsuccessful : isSuccess status = false) :
      Sorts address method (.response status location body) (.error (failed method text))
  | malformed {status : Int} {location : Option String} {body : Body}
      (seen : (response status location body).arrives address = true)
      (success : isSuccess status = true) (unread : body.read = .error .malformed) :
      Sorts address method (.response status location body)
        (.error (.execution (.transport (.unreadable method))))
  | notAnObject {status : Int} {location : Option String} {body : Body} {value : Json}
      (seen : (response status location body).arrives address = true)
      (success : isSuccess status = true) (read : body.read = .ok value)
      (different : ∀ members, value ≠ .object members) :
      Sorts address method (.response status location body)
        (.error (.execution (.transport (.notAnObject method))))
  | object {status : Int} {location : Option String} {body : Body} {members : Members}
      (seen : (response status location body).arrives address = true)
      (success : isSuccess status = true) (read : body.read = .ok (.object members)) :
      Sorts address method (.response status location body) (.ok members)

end Reply

theorem pointerFailure?_cases (method : String) (status : Int) (location : Option String) :
    isDangling status location = true ∧
        pointerFailure? method status location = some (.fault (.address .unrooted)) ∨
      isDangling status location = false ∧
        ((∃ text, pointerFailure? method status location = some (failed method text)) ∨
          pointerFailure? method status location = none) := by
  cases location with
  | none => exact .inr ⟨Bool.and_false _, .inr rfl⟩
  | some place =>
    cases redirect : isRedirect status with
    | false =>
      refine .inr ⟨?_, .inr ?_⟩
      · rw [isDangling, redirect, Bool.false_and]
      · simp only [pointerFailure?, Option.filter_some, redirect, Bool.false_eq_true, if_false,
          Option.bind_none]
    | true =>
      simp only [isDangling, pointerFailure?, redirect, Option.any_some, Option.filter_some,
        if_true, Option.bind_some, Bool.true_and]
      cases Address.read place with
      | error fault => exact .inr ⟨rfl, .inl ⟨_, rfl⟩⟩
      | ok target =>
        cases reachable : target.isReachable with
        | true =>
          simp only [reachable]
          exact .inr ⟨rfl, .inr rfl⟩
        | false =>
          simp only [reachable]
          exact .inl ⟨rfl, rfl⟩

namespace Reply

variable {address : Address} {method : String} {reply : Reply}

theorem unsuccessful_of_pointed {status : Int} {location : Option String} {failure : Failure}
    (pointed : pointerFailure? method status location = some failure) :
    isSuccess status = false := by
  cases success : isSuccess status with
  | false => rfl
  | true =>
    rw [pointerFailure?_of_isSuccess success] at pointed
    cases pointed

theorem straight_of_isSuccess {status : Int} {location : Option String}
    (success : isSuccess status = true) : isDangling status location = false := by
  rcases pointerFailure?_cases "" status location with ⟨-, pointed⟩ | ⟨straight, -⟩
  · have unsuccessful := unsuccessful_of_pointed pointed
    rw [success] at unsuccessful
    cases unsuccessful
  · exact straight

theorem sorts_of_seen {status : Int} {location : Option String} {body : Body}
    (seen : (response status location body).arrives address = true)
    (straight : isDangling status location = false) {text : String} :
    Sorts address method (.response status location body)
      (if isSuccess status then body.envelope method else .error (failed method text)) := by
  cases success : isSuccess status with
  | false => exact .refused seen straight success
  | true =>
    rw [if_pos rfl, Body.envelope]
    cases read : body.read with
    | error fault =>
      cases fault with
      | malformed => exact .malformed seen success read
      | tooDeep inner => exact .stray seen (.inr ⟨success, inner, read⟩)
    | ok value =>
      cases value with
      | object members => exact .object seen success read
      | _ => exact .notAnObject seen success read nofun

theorem sorts (address : Address) (method : String) (reply : Reply) :
    Sorts address method reply (reply.envelope address method) := by
  cases reply with
  | broken text => exact .broken
  | response status location body =>
    have lost : (!address.isAbsolute ||
        location.any fun place => place.any fun c => !Address.isAscii c) =
          !(response status location body).arrives address := by
      simp only [arrives, Bool.not_and, Bool.not_not]
    simp only [envelope, lost]
    cases seen : (response status location body).arrives address with
    | false => exact .unseen seen
    | true =>
      simp only [Bool.not_true, Bool.false_eq_true, if_false]
      obtain ⟨dangling, pointed⟩ | ⟨straight, ⟨text, pointed⟩ | pointed⟩ :=
        pointerFailure?_cases method status location
      · rw [pointed]
        exact .stray seen (.inl ⟨dangling, unsuccessful_of_pointed pointed⟩)
      · rw [pointed]
        exact .refused seen straight (unsuccessful_of_pointed pointed)
      · rw [pointed]
        exact sorts_of_seen seen straight

end Reply

def FailsWith (outcome : Except Failure Members) (message : String) : Prop :=
  ∃ cause, outcome = .error (.execution (.transport cause)) ∧ cause.message = message

theorem failed_ne (method text : String) {said : String} (different : said.toList[1]? ≠ some 'f') :
    "RPC " ++ method ++ " failed: " ++ text ≠ "RPC " ++ method ++ said := by
  intro same
  simp only [String.append_assoc, String.append_right_inj] at same
  apply different
  rw [← same]
  simp [String.toList_append]

theorem notAnObject_ne_unreadable (method : String) :
    "RPC " ++ method ++ " returned a non-object response" ≠
      "RPC " ++ method ++ " returned invalid JSON" := by
  intro same
  simp only [String.append_assoc, String.append_right_inj] at same
  exact absurd same (by decide)

/-- How the end of an exchange tells of the reply to it. -/
structure Reply.Classified (address : Address) (method : String) (reply : Reply)
    (outcome : Except Failure Members) : Prop where
  returned : ∀ members, outcome = .ok members ↔
    ∃ status location body, reply.Brings address status location body ∧
      isSuccess status = true ∧ body.read = .ok (.object members)
  transported : reply.isStray address = false → ∀ failure, outcome = .error failure →
    ∃ cause, failure = .execution (.transport cause)
  failed : reply.isStray address = false →
    ((∃ text, FailsWith outcome ("RPC " ++ method ++ " failed: " ++ text)) ↔
      (∃ text, reply = .broken text) ∨
        ∃ status location body, reply.Brings address status location body ∧
          isSuccess status = false)
  unreadable : reply.isStray address = false →
    (FailsWith outcome ("RPC " ++ method ++ " returned invalid JSON") ↔
      ∃ status location body, reply = .response status location body ∧
        (reply.arrives address = false ∨
          isSuccess status = true ∧ body.read = .error .malformed))
  shapeless : reply.isStray address = false →
    (FailsWith outcome ("RPC " ++ method ++ " returned a non-object response") ↔
      ∃ status location body value, reply.Brings address status location body ∧
        isSuccess status = true ∧ body.read = .ok value ∧ ∀ members, value ≠ .object members)

namespace Reply

variable {address : Address} {method : String} {reply : Reply} {outcome : Except Failure Members}

theorem isStray_of_strays {status : Int} {location : Option String} {body : Body}
    (seen : (response status location body).arrives address = true)
    (strays : isDangling status location = true ∧ isSuccess status = false ∨
      isSuccess status = true ∧ ∃ inner, body.read = .error (.tooDeep inner)) :
    (response status location body).isStray address = true := by
  rcases strays with ⟨dangling, -⟩ | ⟨success, inner, deep⟩
  · simp only [isStray, seen, dangling, Bool.true_or, Bool.and_self]
  · simp only [isStray, seen, success, Body.isTooDeep, deep, Bool.or_true, Bool.and_self]

theorem Sorts.fault_of_isStray (sorts : Sorts address method reply outcome)
    (strays : reply.isStray address = true) : ∃ fault, outcome = .error (.fault fault) := by
  cases sorts with
  | stray => exact ⟨_, rfl⟩
  | broken => cases strays
  | unseen away =>
    simp only [isStray, away, Bool.false_and] at strays
    cases strays
  | refused seen straight unsuccessful =>
    simp only [isStray, straight, unsuccessful, Bool.false_and, Bool.or_self,
      Bool.and_false] at strays
    cases strays
  | malformed seen success read | notAnObject seen success read | object seen success read =>
    simp only [isStray, straight_of_isSuccess success, Body.isTooDeep, read, Bool.and_false,
      Bool.or_self] at strays
    cases strays

theorem Sorts.returned (sorts : Sorts address method reply outcome) (members : Members) :
    outcome = .ok members ↔
      ∃ status location body, reply.Brings address status location body ∧
        isSuccess status = true ∧ body.read = .ok (.object members) := by
  constructor
  · intro same
    cases sorts with
    | object seen success read =>
      cases same
      exact ⟨_, _, _, ⟨rfl, seen⟩, success, read⟩
    | _ => cases same
  · rintro ⟨status, location, body, ⟨rfl, brought⟩, successful, holds⟩
    cases sorts <;> grind

theorem object?_eq_some_iff {members : Members} :
    reply.object? address = some members ↔
      ∃ status location body, reply.Brings address status location body ∧
        isSuccess status = true ∧ body.read = .ok (.object members) :=
  envelope_eq_ok_iff.symm.trans ((sorts address "" reply).returned members)

theorem Sorts.transported (sorts : Sorts address method reply outcome)
    (straight : reply.isStray address = false) {failure : Failure}
    (lost : outcome = .error failure) : ∃ cause, failure = .execution (.transport cause) := by
  cases sorts with
  | stray seen strays =>
    exact absurd (isStray_of_strays seen strays) (Bool.eq_false_iff.mp straight)
  | object => cases lost
  | _ =>
    cases lost
    exact ⟨_, rfl⟩

theorem Sorts.failed (sorts : Sorts address method reply outcome)
    (straight : reply.isStray address = false) :
    (∃ text, FailsWith outcome ("RPC " ++ method ++ " failed: " ++ text)) ↔
      (∃ text, reply = .broken text) ∨
        ∃ status location body, reply.Brings address status location body ∧
          isSuccess status = false := by
  constructor
  · rintro ⟨text, cause, lost, said⟩
    cases sorts with
    | broken => exact .inl ⟨_, rfl⟩
    | refused seen straight unsuccessful => exact .inr ⟨_, _, _, ⟨rfl, seen⟩, unsuccessful⟩
    | stray | object => cases lost
    | unseen | malformed =>
      cases lost
      exact absurd said.symm (failed_ne method text (by decide))
    | notAnObject =>
      cases lost
      exact absurd said.symm (failed_ne method text (by decide))
  · rintro (⟨text, rfl⟩ | ⟨status, location, body, ⟨rfl, brought⟩, unsuccessful⟩)
    · cases sorts
      exact ⟨text, _, rfl, rfl⟩
    · cases sorts with
      | refused => exact ⟨_, _, rfl, rfl⟩
      | stray seen strays =>
        exact absurd (isStray_of_strays seen strays) (Bool.eq_false_iff.mp straight)
      | _ => grind

theorem Sorts.unreadable (sorts : Sorts address method reply outcome)
    (straight : reply.isStray address = false) :
    FailsWith outcome ("RPC " ++ method ++ " returned invalid JSON") ↔
      ∃ status location body, reply = .response status location body ∧
        (reply.arrives address = false ∨
          isSuccess status = true ∧ body.read = .error .malformed) := by
  constructor
  · rintro ⟨cause, lost, said⟩
    cases sorts with
    | unseen away => exact ⟨_, _, _, rfl, .inl away⟩
    | malformed seen success unread => exact ⟨_, _, _, rfl, .inr ⟨success, unread⟩⟩
    | stray | object => cases lost
    | broken | refused =>
      cases lost
      exact absurd said (failed_ne method _ (by decide))
    | notAnObject =>
      cases lost
      exact absurd said (notAnObject_ne_unreadable method)
  · rintro ⟨status, location, body, rfl, lost⟩
    cases sorts with
    | unseen | malformed => exact ⟨_, rfl, rfl⟩
    | stray seen strays =>
      exact absurd (isStray_of_strays seen strays) (Bool.eq_false_iff.mp straight)
    | _ => grind

theorem Sorts.shapeless (sorts : Sorts address method reply outcome)
    (straight : reply.isStray address = false) :
    FailsWith outcome ("RPC " ++ method ++ " returned a non-object response") ↔
      ∃ status location body value, reply.Brings address status location body ∧
        isSuccess status = true ∧ body.read = .ok value ∧ ∀ members, value ≠ .object members := by
  constructor
  · rintro ⟨cause, lost, said⟩
    cases sorts with
    | notAnObject seen success read different =>
      exact ⟨_, _, _, _, ⟨rfl, seen⟩, success, read, different⟩
    | stray | object => cases lost
    | broken | refused =>
      cases lost
      exact absurd said (failed_ne method _ (by decide))
    | unseen | malformed =>
      cases lost
      exact absurd said.symm (notAnObject_ne_unreadable method)
  · rintro ⟨status, location, body, value, ⟨rfl, brought⟩, successful, holds, other⟩
    cases sorts with
    | notAnObject => exact ⟨_, rfl, rfl⟩
    | stray seen strays =>
      exact absurd (isStray_of_strays seen strays) (Bool.eq_false_iff.mp straight)
    | _ => grind

theorem classified (address : Address) (method : String) (reply : Reply) :
    reply.Classified address method (reply.envelope address method) :=
  have sorted := sorts address method reply
  { returned := sorted.returned
    transported := fun straight _ lost => sorted.transported straight lost
    failed := sorted.failed
    unreadable := sorted.unreadable
    shapeless := sorted.shapeless }

end Reply

end Http

namespace Json

/-- Open brackets inside others are too many when there are more of them than a limit allows. -/
theorem scan_brackets {stand : Char} {limit n : Nat} {stack : List Frame} (more : 0 < n)
    (deep : limit ≤ stack.length + n) :
    Reading.scan stand limit (.item stack) .between (List.replicate n '[') =
      .error (.tooDeep .list) := by
  induction n generalizing stack with
  | zero => omega
  | succ n ih =>
    have taken : Progress.step stand .between '[' = some (.between, [.mark .listOpen]) := rfl
    rw [List.replicate_succ, Reading.scan, taken]
    -- the bracket opens a list inside the one whose item it begins
    by_cases room : stack.length + 1 < limit
    · have opened : Reading.run limit (.item stack) [.mark .listOpen] =
          .ok (.item (.list [] :: stack)) := by
        simp only [Reading.run, Reading.step, begin, enter, List.length_cons,
          if_pos room]
      dsimp only
      rw [opened]
      apply ih
      · omega
      · rw [List.length_cons]
        omega
    · have refused : Reading.run limit (.item stack) [.mark .listOpen] =
          .error (.tooDeep .list) := by
        simp only [Reading.run, Reading.step, begin, enter, List.length_cons,
          if_neg room]
      dsimp only
      rw [refused]

theorem read_brackets {stand : Char} {limit n : Nat} (positive : 0 < limit) (deep : limit < n) :
    Json.read stand limit (List.replicate n '[') = .error (.tooDeep .list) := by
  obtain ⟨n, rfl⟩ : ∃ m, n = m + 1 := ⟨n - 1, by omega⟩
  have opened : Reading.run limit (.value []) [.mark .listOpen] = .ok (.item []) := by
    simp only [Reading.run, Reading.step, begin, enter, List.length_nil,
      if_pos positive]
  have taken : Progress.step stand .between '[' = some (.between, [.mark .listOpen]) := rfl
  rw [Json.read, List.replicate_succ, Reading.scan, taken]
  dsimp only
  rw [opened]
  dsimp only
  rw [scan_brackets (by omega) (by rw [List.length_nil]; omega)]

end Json

theorem Http.Body.read_brackets {limit n : Nat} (many : 3 ≤ limit) (deep : limit < n) :
    (Body.text (String.ofList (List.replicate n '[')) limit).read = .error (.tooDeep .list) := by
  obtain ⟨n, rfl⟩ : ∃ m, n = m + 4 := ⟨n - 4, by omega⟩
  have unfolded : Text.unfoldUnits? Text.replacement (List.replicate (n + 4) '[') =
      some (List.replicate (n + 4) '[') := rfl
  rw [read, readWith, String.toList_ofList, unfolded]
  exact Json.read_brackets (by omega) deep

theorem Http.isDangling_rootless : isDangling 301 (some "http:foo") = true := by
  have found : (Address.read "http:foo").toOption.map Address.isReachable = some false := by
    have text : "http:foo".toList = 'h' :: 't' :: 't' :: 'p' :: ':' :: ['f', 'o', 'o'] :=
      String.toList_ofList
    unfold Address.read
    simp only [text, Address.splitScheme_http]
    decide +kernel
  simp only [isDangling, Option.any_some]
  cases read : Address.read "http:foo" with
  | error fault =>
    rw [read] at found
    cases found
  | ok target =>
    rw [read] at found
    have unreachable : target.isReachable = false := Option.some.inj found
    dsimp only
    rw [unreachable]
    rfl

end TxSubmission

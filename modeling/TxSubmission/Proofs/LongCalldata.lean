import TxSubmission.Proofs.Exchange
import TxSubmission.Proofs.HexText
import TxSubmission.Proofs.LongHexText
import TxSubmission.Proofs.WireForm

/-!
Long data in the log. A provider logs each request with its parameters before it is posted, and the
log shortens long hex runs. Of the data of a request that has many digits the shortened line never
shows all, unless another parameter of the request shows them as well: with one exception, data
under the mark 0X, which counts as marked but begins no run, is shown in full.
-/

namespace TxSubmission

open Text

/-! Quoted values -/

namespace Text

variable {c mark : Char} {chars digits : List Char}

def isDataChar (c : Char) : Bool := isHexDigit c || c == 'x' || c == 'X'

theorem isBreak_quoteMark (s : List Char) : isBreak (quoteMark s) = true := by
  unfold quoteMark
  split <;> decide

theorem quoteChar_of_isDataChar (marks : mark = apostrophe ∨ mark = doubleQuote)
    (plain : isDataChar c = true) : quoteChar mark c = [c] := by
  have small : c.toNat < 128 := by
    simp only [isDataChar, Bool.or_eq_true, beq_iff_eq] at plain
    rcases plain with (hex | rfl) | rfl
    · obtain ⟨d, value⟩ := Option.isSome_iff_exists.mp hex
      exact of_decide_eq_true
        (forall_hexDigit (p := fun c _ => decide (c.toNat < 128)) (by decide) value)
    · decide
    · decide
  have checked : ∀ n < 128, isDataChar (Char.ofNat n) = true →
      quoteChar apostrophe (Char.ofNat n) = [Char.ofNat n] ∧
        quoteChar doubleQuote (Char.ofNat n) = [Char.ofNat n] := by
    decide +kernel
  have held := checked c.toNat small
  rw [Char.ofNat_toNat] at held
  rcases marks with rfl | rfl
  · exact (held plain).1
  · exact (held plain).2

theorem flatMap_quoteChar (plain : ∀ c ∈ chars, isDataChar c = true) :
    chars.flatMap (quoteChar (quoteMark chars)) = chars := by
  have marks : quoteMark chars = apostrophe ∨ quoteMark chars = doubleQuote := by
    unfold quoteMark
    split
    next => exact .inr rfl
    next => exact .inl rfl
  generalize quoteMark chars = mark at marks ⊢
  induction chars with
  | nil => rfl
  | cons c rest ih =>
    rw [List.forall_mem_cons] at plain
    rw [List.flatMap_cons, quoteChar_of_isDataChar marks plain.1, ih plain.2]
    rfl

theorem infix_shortenHex_iff {s : String} :
    digits <:+: (shortenHex s).toList ↔ Shows digits s.toList := by
  rw [shortenHex, String.toList_ofList, Shows]

namespace Long

theorem shows_quotedText (long : Long digits) (s : String) :
    Shows digits (Json.quotedText s).toList ↔
      Shows digits (s.toList.flatMap (quoteChar (quoteMark s.toList))) := by
  have breaks := isBreak_quoteMark s.toList
  rw [Json.quotedText, String.toList_ofList, quoted, long.shows_cons breaks,
    long.shows_append_cons breaks]
  simp [long.not_shows_nil]

theorem shows_nestedMembers (long : Long digits) (members : Members) :
    Shows digits (Json.nestedMembers members).toList ↔ ∃ entry ∈ members,
      Shows digits (Json.quotedText entry.1).toList ∨ Shows digits entry.2.nested.toList := by
  have colon : isBreak ':' = true := by decide
  have comma : isBreak ',' = true := by decide
  have blank : isBreak ' ' = true := by decide
  induction members with
  | nil =>
    have nothing : ¬Shows digits (Json.nestedMembers []).toList := long.not_shows_nil
    simp [nothing]
  | cons first rest ih =>
    obtain ⟨name, value⟩ := first
    cases rest with
    | nil =>
      have spelled : (Json.nestedMembers [(name, value)]).toList =
          (Json.quotedText name).toList ++ ':' :: ' ' :: value.nested.toList := by
        simp [Json.nestedMembers]
      rw [spelled, long.shows_append_cons colon, long.shows_cons blank]
      simp
    | cons second later =>
      have spelled : (Json.nestedMembers ((name, value) :: second :: later)).toList =
          (Json.quotedText name).toList ++ ':' :: ' ' :: (value.nested.toList ++
            ',' :: ' ' :: (Json.nestedMembers (second :: later)).toList) := by
        simp [Json.nestedMembers]
      rw [spelled, long.shows_append_cons colon, long.shows_cons blank,
        long.shows_append_cons comma, long.shows_cons blank, List.exists_mem_cons_iff, or_assoc]
      exact or_congr_right (or_congr_right ih)

theorem shows_nested_object (long : Long digits) (members : Members) :
    Shows digits (Json.object members).nested.toList ↔
      Shows digits (Json.nestedMembers members).toList := by
  have opening : isBreak '\x7b' = true := by decide
  have closing : isBreak '\x7d' = true := by decide
  have spelled : (Json.object members).nested.toList =
      '\x7b' :: ((Json.nestedMembers members).toList ++ '\x7d' :: []) := by
    simp [Json.nested]
  rw [spelled, long.shows_cons opening, long.shows_append_cons closing]
  simp only [long.not_shows_nil, or_false]

theorem shows_nestedItems_pair (long : Long digits) (first second : Json) :
    Shows digits (Json.nestedItems [first, second]).toList ↔
      Shows digits first.nested.toList ∨ Shows digits second.nested.toList := by
  have comma : isBreak ',' = true := by decide
  have blank : isBreak ' ' = true := by decide
  have spelled : (Json.nestedItems [first, second]).toList =
      first.nested.toList ++ ',' :: ' ' :: second.nested.toList := by
    simp [Json.nestedItems]
  rw [spelled, long.shows_append_cons comma, long.shows_cons blank]

theorem shows_nested_text (long : Long digits) (plain : ∀ c ∈ chars, isDataChar c = true) :
    Shows digits (Json.text (String.ofList chars)).nested.toList ↔ Shows digits chars := by
  rw [Json.nested, long.shows_quotedText, String.toList_ofList, flatMap_quoteChar plain]

theorem shows_text (long : Long digits) {method : String}
    (short : method.toList.length < 64) (params : List Json) :
    Shows digits (RpcRequest.text (.fit method) params).toList ↔
      Shows digits (Json.nestedItems params).toList := by
  have blank : isBreak ' ' = true := by decide
  have opening : isBreak '[' = true := by decide
  have closing : isBreak ']' = true := by decide
  have spelled : (RpcRequest.text (.fit method) params).toList =
      ("RPC ".toList ++ method.toList) ++ ' ' :: '[' ::
        ((Json.nestedItems params).toList ++ ']' :: []) := by
    simp [RpcRequest.text, Given.display, Given.toJson, Plain.toJson, Json.display, Json.nested]
  have unnamed : ¬Shows digits ("RPC ".toList ++ method.toList) := by
    refine long.not_shows_of_short ?_
    rw [List.length_append, maxHexChars]
    simp only [String.reduceToList, List.length_cons, List.length_nil]
    omega
  rw [spelled, long.shows_append_cons blank, long.shows_cons opening,
    long.shows_append_cons closing]
  simp only [unnamed, long.not_shows_nil, false_or, or_false]

end Long

end Text

namespace Members

variable {name : String} {value : Json} {members : Members}

theorem mem_of_get? (found : get? name members = some value) : (name, value) ∈ members := by
  induction members with
  | nil => cases found
  | cons first rest ih =>
    obtain ⟨other, content⟩ := first
    rw [get?] at found
    split at found
    next same =>
      cases found
      rw [same]
      exact List.mem_cons_self
    next => exact List.mem_cons_of_mem _ (ih found)

theorem get?_of_mem (distinct : (members.map Prod.fst).Nodup) (member : (name, value) ∈ members) :
    get? name members = some value := by
  induction members with
  | nil => cases member
  | cons first rest ih =>
    rw [List.map_cons, List.nodup_cons] at distinct
    rcases List.mem_cons.mp member with rfl | later
    · exact if_pos rfl
    · have other : first.1 ≠ name := fun same =>
        distinct.1 (same ▸ List.mem_map_of_mem later)
      rw [get?, if_neg other]
      exact ih distinct.2 later

end Members

/-! Wire forms -/

namespace Request

variable {draft : Draft} {request : Request} {mark digits : List Char} {entries : Members}

def marks : List (List Char) := [[], ['0', 'x'], ['0', 'X']]

/-- The mark under which data is sent. -/
def sentMark (mark : List Char) : List Char := if mark = [] then ['0', 'x'] else mark

theorem not_hasHexPrefix (long : Long digits) : hasHexPrefix (String.ofList digits) = false := by
  rw [hasHexPrefix, String.toList_ofList]
  unfold Text.marked
  split
  next => exact absurd (by simp) (long.not_mem (show isHexDigit 'x' = false by decide))
  next => exact absurd (by simp) (long.not_mem (show isHexDigit 'X' = false by decide))
  next => rfl

theorem withHexPrefix_eq (long : Long digits) (marked : mark ∈ marks) :
    withHexPrefix (String.ofList (mark ++ digits)) = String.ofList (sentMark mark ++ digits) := by
  simp only [marks, List.mem_cons, List.not_mem_nil, or_false] at marked
  rcases marked with rfl | rfl | rfl
  · rw [List.nil_append, withHexPrefix, not_hasHexPrefix long]
    exact String.toList_inj.mp (by simp [sentMark])
  all_goals
    rw [withHexPrefix, hasHexPrefix, String.toList_ofList]
    rfl

theorem data_eq (long : Long digits) (marked : mark ∈ marks)
    (given : draft.data = some (.fit (String.ofList (mark ++ digits))))
    (checked : draft.check = .ok request) :
    request.data = some (String.ofList (sentMark mark ++ digits)) := by
  have kept := (Draft.checked_of_check checked).data
  rw [given] at kept
  have same : some (withHexPrefix (String.ofList (mark ++ digits))) = request.data :=
    Except.ok.inj kept
  rw [← same, withHexPrefix_eq long marked]

theorem shows_sentMark (long : Long digits) (marked : mark ∈ marks) :
    Shows digits (sentMark mark ++ digits) ↔ mark = ['0', 'X'] := by
  simp only [marks, List.mem_cons, List.not_mem_nil, or_false] at marked
  rcases marked with rfl | rfl | rfl
  · exact iff_of_false long.not_shows_marked (by decide)
  · exact iff_of_false long.not_shows_marked (by decide)
  · exact iff_of_true long.shows_capital rfl

theorem isDataChar_of_mem (long : Long digits) (marked : mark ∈ marks) :
    ∀ c ∈ sentMark mark ++ digits, isDataChar c = true := by
  have plain : (marks.all fun mark => (sentMark mark).all isDataChar) = true := by decide
  simp only [List.all_eq_true] at plain
  intro c member
  rcases List.mem_append.mp member with member | member
  · exact plain mark marked c member
  · simp [isDataChar, long.hex c member]

/-- The wire form of a request shows the digits of its data under a capital mark, and otherwise if
another entry does. -/
theorem shows_entries (long : Long digits) (marked : mark ∈ marks)
    (sent : request.data = some (String.ofList (sentMark mark ++ digits)))
    (wired : request.wire = .ok entries) :
    Shows digits (Json.nestedMembers entries).toList ↔
      mark = ['0', 'X'] ∨ ∃ entry ∈ entries, entry.1 ≠ "data" ∧
        Shows digits entry.2.nested.toList := by
  have names := names_wire wired
  have held : Members.get? "data" entries =
      some (.text (String.ofList (sentMark mark ++ digits))) := by
    rw [get?_wire_text wired (show Members.get? "data" request.slots = _ from rfl), sent]
    rfl
  have unnamed {entry : String × Json} (member : entry ∈ entries) :
      ¬Shows digits (Json.quotedText entry.1).toList := by
    have short : ∀ name ∈ wireNames, (Json.quotedText name).toList.length < maxHexChars - 1 := by
      decide +kernel
    exact long.not_shows_of_short (short _ (names.subset (List.mem_map_of_mem member)))
  have shown_data :
      Shows digits (Json.text (String.ofList (sentMark mark ++ digits))).nested.toList ↔
        mark = ['0', 'X'] := by
    rw [long.shows_nested_text (isDataChar_of_mem long marked), shows_sentMark long marked]
  rw [long.shows_nestedMembers]
  constructor
  · rintro ⟨⟨name, value⟩, member, named | shown⟩
    · exact absurd named (unnamed member)
    · by_cases isData : name = "data"
      · subst isData
        have same := Members.get?_of_mem (nodup_wireNames.sublist names) member
        rw [held, Option.some.injEq] at same
        subst same
        exact .inl (shown_data.mp shown)
      · exact .inr ⟨_, member, isData, shown⟩
  · rintro (capital | ⟨entry, member, -, shown⟩)
    · exact ⟨_, Members.mem_of_get? held, .inr (shown_data.mpr capital)⟩
    · exact ⟨entry, member, .inr shown⟩

end Request

/-! Logged requests -/

def Trace.debugTexts (trace : Trace) : List String :=
  trace.records.filterMap fun (severity, _, text) => if severity = .debug then some text else none

namespace Provider

theorem debugTexts_append (before later : Trace) :
    Trace.debugTexts (before ++ later) = before.debugTexts ++ later.debugTexts := by
  simp only [Trace.debugTexts, Trace.records, List.filterMap_append]

theorem debugTexts_opening (endpoint : Endpoint) (link : Link) :
    (opening endpoint link).debugTexts = [] := by
  unfold opening
  split <;> rfl

theorem debugTexts_complaint (outcome : Except Failure Members) :
    (complaint outcome).debugTexts = [] := by
  cases outcome with
  | ok envelope => rfl
  | error failure =>
    unfold complaint
    dsimp only
    split <;> rfl

theorem debugTexts_announcement (endpoint : Endpoint) (method : Given String)
    (params : List Json) :
    (announcement endpoint method params).debugTexts =
      if (RpcRequest.unshown? endpoint.room method params).isNone then
        [RpcRequest.text method params]
      else [] := by
  unfold announcement RpcRequest.logText
  cases RpcRequest.unshown? endpoint.room method params <;> rfl

theorem debugTexts_exchange (endpoint : Endpoint) (method : Given String) (params : List Json)
    (link : Link) :
    (exchange endpoint method params link).trace.debugTexts =
      if (RpcRequest.unshown? endpoint.room method params).isNone then
        [RpcRequest.text method params]
      else [] := by
  cases targeted : endpoint.target method params with
  | error failure =>
    rw [exchange_untargeted targeted, debugTexts_append, debugTexts_opening, List.nil_append,
      debugTexts_announcement]
  | ok address =>
    rw [exchange_targeted targeted, debugTexts_append, debugTexts_opening, List.nil_append,
      debugTexts_append, ← debugTexts_announcement]
    exact (congrArg (_ ++ ·) (debugTexts_complaint _)).trans (List.append_nil _)

theorem trace_bind_ofFault {α β : Type} (act : Act Link α) (read : α → Except Fault β)
    (link : Link) : ((act >>= fun a => Act.ofFault (read a)) link).trace = (act link).trace := by
  rw [Act.bind_apply]
  split
  next => rfl
  next => exact List.append_nil _

variable {request : Request} {entries : Members}

theorem debugTexts_send (wired : request.wire = .ok entries) (endpoint : Endpoint) (link : Link) :
    (send endpoint request link).trace.debugTexts =
      if (RpcRequest.unshown? endpoint.room (.fit "eth_sendTransaction") [.object entries]).isNone
      then [RpcRequest.text (.fit "eth_sendTransaction") [.object entries]]
      else [] := by
  rw [send, Request.payload_of_wire wired, Act.ofInvalid_ok, Act.pure_then, trace_bind_ofFault,
    debugTexts_exchange]

theorem debugTexts_call (wired : request.wire = .ok entries) {block : BlockParameter}
    {tag : String} (encoded : block.encode = .ok tag) (endpoint : Endpoint) (link : Link) :
    (call endpoint request block link).trace.debugTexts =
      if (RpcRequest.unshown? endpoint.room (.fit "eth_call") [.object entries, .text tag]).isNone
      then [RpcRequest.text (.fit "eth_call") [.object entries, .text tag]]
      else [] := by
  rw [call, Request.payload_of_wire wired, encoded, Act.ofInvalid_ok, Act.pure_then,
    Act.ofFault_ok, Act.pure_then, trace_bind_ofFault, debugTexts_exchange]

end Provider

namespace Request

variable {draft : Draft} {request : Request} {mark digits : List Char} {entries : Members}

def sendText (entries : Members) : String :=
  RpcRequest.text (.fit "eth_sendTransaction") [.object entries]

def callText (entries : Members) (tag : String) : String :=
  RpcRequest.text (.fit "eth_call") [.object entries, .text tag]

theorem shows_sendText (long : Long digits) (marked : mark ∈ marks)
    (sent : request.data = some (String.ofList (sentMark mark ++ digits)))
    (wired : request.wire = .ok entries) :
    Shows digits (sendText entries).toList ↔
      mark = ['0', 'X'] ∨ ∃ entry ∈ entries, entry.1 ≠ "data" ∧
        Shows digits entry.2.nested.toList := by
  rw [sendText, long.shows_text (by decide), ← shows_entries long marked sent wired,
    ← long.shows_nested_object]
  rfl

theorem shows_callText (long : Long digits) (entries : Members) (tag : String) :
    Shows digits (callText entries tag).toList ↔
      Shows digits (Json.nestedMembers entries).toList ∨
        Shows digits (Json.text tag).nested.toList := by
  rw [callText, long.shows_text (by decide), long.shows_nestedItems_pair,
    long.shows_nested_object]

/-- Of a request whose data has many digits the line that a provider logs, if there is one, shows
them all in two cases only: another parameter shows them, or they come under the capital mark. -/
theorem data_shown_iff (long : Long digits) (marked : mark ∈ marks)
    (given : draft.data = some (.fit (String.ofList (mark ++ digits))))
    (checked : draft.check = .ok request) (wired : request.wire = .ok entries) :
    ((∀ endpoint link,
        (Provider.send endpoint request link).trace.debugTexts =
          if (RpcRequest.unshown? endpoint.room (.fit "eth_sendTransaction")
            [.object entries]).isNone then [sendText entries] else []) ∧
      (digits <:+: (shortenHex (sendText entries)).toList ↔
        mark = ['0', 'X'] ∨ ∃ entry ∈ entries, entry.1 ≠ "data" ∧
          digits <:+: (shortenHex entry.2.nested).toList)) ∧
    ∀ block tag, block.encode = .ok tag →
      (∀ endpoint link,
        (Provider.call endpoint request block link).trace.debugTexts =
          if (RpcRequest.unshown? endpoint.room (.fit "eth_call")
            [.object entries, .text tag]).isNone then [callText entries tag] else []) ∧
      (digits <:+: (shortenHex (callText entries tag)).toList ↔
        (mark = ['0', 'X'] ∨ ∃ entry ∈ entries, entry.1 ≠ "data" ∧
          digits <:+: (shortenHex entry.2.nested).toList) ∨
        digits <:+: (shortenHex (Json.text tag).nested).toList) := by
  have sent := data_eq long marked given checked
  refine ⟨⟨Provider.debugTexts_send wired, ?_⟩,
    fun block tag encoded => ⟨Provider.debugTexts_call wired encoded, ?_⟩⟩
  · simp only [infix_shortenHex_iff]
    exact shows_sendText long marked sent wired
  · simp only [infix_shortenHex_iff]
    rw [shows_callText long, shows_entries long marked sent wired]

def sampleDraft (mark : List Char) : Draft where
  sender := some (.fit "0x1")
  data := some (.fit (String.ofList (mark ++ List.replicate 74 '6')))

def sampleEntries (mark : List Char) : Members :=
  [("from", .text "0x1"),
   ("data", .text (withHexPrefix (String.ofList (mark ++ List.replicate 74 '6'))))]

theorem exists_sample (mark : List Char) :
    ∃ request, (sampleDraft mark).check = .ok request ∧
      request.wire = .ok (sampleEntries mark) :=
  ⟨_, rfl, rfl⟩

theorem long_sample : Long (List.replicate 74 '6') where
  hex c member := by
    rw [List.eq_of_mem_replicate member]
    decide
  many := by decide

theorem data_shown_iff_small :
    ∃ request, (sampleDraft []).check = .ok request ∧
      request.wire = .ok (sampleEntries []) ∧
      ¬List.replicate 74 '6' <:+: (shortenHex (sendText (sampleEntries []))).toList := by
  obtain ⟨request, checked, wired⟩ := exists_sample []
  have shown := data_shown_iff long_sample (by decide) rfl checked wired
  refine ⟨request, checked, wired, fun hidden => ?_⟩
  rcases shown.1.2.mp hidden with capital | ⟨entry, member, other, found⟩
  · cases capital
  · rcases List.mem_pair.mp member with rfl | rfl
    · have short : (Json.text "0x1").nested.toList.length < maxHexChars - 1 := by decide
      exact long_sample.not_shows_of_short short (infix_shortenHex_iff.mp found)
    · exact other rfl

/-- Under the capital mark the digits are no run, and nothing hides them. -/
theorem data_shown_capital :
    ∃ request, (sampleDraft ['0', 'X']).check = .ok request ∧
      request.wire = .ok (sampleEntries ['0', 'X']) ∧
      List.replicate 74 '6' <:+: (shortenHex (sendText (sampleEntries ['0', 'X']))).toList := by
  obtain ⟨request, checked, wired⟩ := exists_sample ['0', 'X']
  have marked : ['0', 'X'] ∈ marks := by decide
  have shown := shows_sendText long_sample marked (data_eq long_sample marked rfl checked) wired
  exact ⟨request, checked, wired, infix_shortenHex_iff.mpr (shown.mpr (.inl rfl))⟩

end Request

end TxSubmission

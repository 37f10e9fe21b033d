import WebhookWise.PythonTexts

/-!
# What the gateway clients make of the gateway's answers

The HTTP client asks for the final response of a session a few times; the WebSocket client shakes
hands, asks for the history and reads the last message.  Both look fields of JSON values up
without checking what these values are, so a field of another type raises an exception that
neither catches.
-/

namespace WebhookWise

open SurrogateTexts RenderedJson PythonTexts

namespace GatewayClients

/-! ## Exceptions and results -/

/-- What the connection raises: `TimeoutError`, or one of the errors of the transport. -/
inductive Fault where
  | timedOut
  | network (text : PyText)

inductive Raised where
  | fault (fault : Fault)
  | valueError (text : PyText)
  | attributeError
  | typeError
  | keyError
  | overflowError

/-- The exceptions that `_poll_single_record` turns into a result. -/
def Raised.isTurned : Raised → Bool
  | fault _ => true
  | valueError _ => true
  | _ => false

/-- A mapping that a client returns. -/
abbrev Mapping := List (String × PyJson)

def plain (text : String) : PyJson :=
  .str (PyText.ofString text)

def pendingResult : Mapping :=
  [("status", plain "pending")]

def errorResult (error : PyText) : Mapping :=
  [("status", plain "error"), ("error", .str error)]

/-- The client has returned a mapping with one of the three states, or raised what its caller
turns into a result. -/
def IsTotal (outcome : Except Raised Mapping) : Prop :=
  match outcome with
  | .ok result => ∃ status ∈ ["completed", "pending", "error"],
      result.lookup "status" = some (plain status)
  | .error raised => raised.isTurned = true

structure ClientRuntime extends TextRuntime where
  /-- `int` of a text; `none` for `ValueError`. -/
  intOfText : PyText → Option Int
  /-- `int` of a finite float. -/
  intOfFloat : List Char → Int

/-! ## HTTP polling -/

/-- How a request for the final response ends. -/
inductive HttpAnswer where
  | response (code : Nat) (body : Option PyJson)
  | readTimeout (text : PyText)
  | raised (text : PyText)

/-- How the loop over the attempts goes on after one of them. -/
inductive AttemptEnd where
  | returned (result : Mapping)
  | again (lastError : PyText)

def inProgress : PyText :=
  PyText.ofString "analysis in progress"

/-- `value is True` or `value is False`. -/
def isBool (wanted : Bool) : Option PyJson → Bool
  | some (.bool value) => value = wanted
  | _ => false

/-- `value or None`. -/
def truthy? (value : Option PyJson) : Option PyJson :=
  value.filter truthy

section

variable (runtime : ClientRuntime)

/-- `int(value or 0)`. -/
def intOr0 (value : Option PyJson) : Except Raised Int :=
  match truthy? value with
  | none => .ok 0
  | some (.null) => .ok 0
  | some (.bool value) => .ok (if value then 1 else 0)
  | some (.int value) => .ok value
  | some (.float (.finite printed _)) => .ok (runtime.intOfFloat printed)
  | some (.float (.infinity _)) => .error .overflowError
  | some (.float .nan) =>
      .error (.valueError (PyText.ofString "cannot convert float NaN to integer"))
  | some (.str text) =>
      match runtime.intOfText text with
      | some value => .ok value
      | none =>
          .error (.valueError (PyText.ofString "invalid literal for int() with base 10: " ++
            runtime.reprStr text))
  | some (.list _) => .error .typeError
  | some (.dict _) => .error .typeError

def readFinal (data : Entries) : Except Raised AttemptEnd := do
  let isFinal := PyJson.get? data "isFinal"
  let msgCount ← intOr0 runtime (PyJson.get? data "messageCount")
  if isBool true (PyJson.get? data "isProcessing") then
    return .again inProgress
  else
    match truthy? (PyJson.get? data "text") with
    | some text =>
        if isBool false isFinal then
          return .again inProgress
        else
          return .returned ([("status", plain "completed"), ("text", text),
            ("msg_count", .int msgCount)] ++
              if isBool true isFinal then [("is_final", .bool true)] else [])
    | none =>
        if isBool false isFinal || (truthy? isFinal).isNone then
          return .again inProgress
        else
          return .again (PyText.ofString "No text content")

/-- The body of the `try` of an attempt. -/
def finalAttempt : HttpAnswer → Except Raised AttemptEnd
  | .response code body =>
      if code = 404 then .ok (.again (PyText.ofString "Session not found"))
      else if code = 202 ∨ code = 204 then .ok (.again inProgress)
      else if code ≠ 200 then .ok (.again (PyText.ofString ("HTTP " ++ toString code)))
      else
        match body with
        | some (.dict data) => readFinal runtime data
        | _ => .ok (.again (PyText.ofString "Invalid JSON response"))
  | .readTimeout text => .ok (.returned [("status", plain "pending"), ("error", .str text)])
  | .raised text => .error (.fault (.network text))

/-- What follows the attempts. -/
def givenUp (lastError : Option PyText) (transportError : Bool) : Mapping :=
  let error := (lastError.map PyJson.str).getD .null
  if lastError = some inProgress then pendingResult
  else if transportError then
    [("status", plain "error"),
      ("error", (truthy? (some error)).getD (plain "HTTP transport error")),
      ("retryable", .bool true)]
  else [("status", plain "error"), ("error", error)]

/-- `poll_gateway_final`, with the answers to the attempts that are left. -/
def pollGatewayFinal : List HttpAnswer → Option PyText → Bool → Except Raised Mapping
  | [], lastError, transportError => .ok (givenUp lastError transportError)
  | answer :: answers, _, transportError =>
      match finalAttempt runtime answer with
      | .ok (.returned result) => .ok result
      | .ok (.again lastError) => pollGatewayFinal answers (some lastError) transportError
      | .error (.fault (.network text)) => pollGatewayFinal answers (some text) true
      | .error (.valueError text) => pollGatewayFinal answers (some text) true
      | .error raised => .error raised

end

/-! ## WebSocket polling -/

/-- What one `recv` ends with. -/
inductive Receipt where
  | frame (value : PyJson)
  | unreadable
  | fault (fault : Fault)

/-- A connection: what is raised by connecting and by the two requests, what is received in
order until the gateway closes, and whether the time is over before a read of the history. -/
structure Connection where
  connectFault : Option Fault
  helloFault : Option Fault
  historyFault : Option Fault
  receipts : List Receipt
  isLate : Nat → Bool

structure WsRequest where
  requestId : PyText
  timeoutText : PyText
  maxHistoryFrames : Nat

def closed : Fault :=
  .network (PyText.ofString "no close frame received or sent")

/-- `_loads_dict`, which reads an object or nothing. -/
def loadsDict : PyJson → Option Entries
  | .dict entries => some entries
  | _ => none

/-- `value == text`. -/
def isText (value : Option PyJson) (text : PyText) : Bool :=
  match value with
  | some (.str found) => found = text
  | _ => false

def awaitFrame (wanted : Entries → Bool) (isLate : Nat → Bool) :
    Nat → List Receipt → Except Fault (Option Entries × List Receipt)
  | 0, receipts => .ok (none, receipts)
  | left + 1, receipts =>
      if isLate left then .error .timedOut
      else
        match receipts with
        | [] => .error closed
        | .fault fault :: _ => .error fault
        | .unreadable :: rest => awaitFrame wanted isLate left rest
        | .frame value :: rest =>
            match loadsDict value with
            | none => awaitFrame wanted isLate left rest
            | some frame =>
                if wanted frame then .ok (some frame, rest)
                else awaitFrame wanted isLate left rest

def raiseFault : Option Fault → Except Fault Unit
  | none => .ok ()
  | some fault => .error fault

/-- The response to the connect request; the challenge before it is read first. -/
def awaitHello (connection : Connection) : Except Fault (Option Entries × List Receipt) := do
  raiseFault connection.helloFault
  awaitFrame (fun frame => isText (PyJson.get? frame "type") (PyText.ofString "res"))
    (fun _ => false) 5 connection.receipts.tail

/-- What the handshake finds wrong with the response. -/
def checkHello : Option Entries → Except Raised (Option PyText)
  | none => .ok (some (PyText.ofString "auth_protocol_error"))
  | some response =>
      if (truthy? (PyJson.get? response "ok")).isNone then
        .ok (some (PyText.ofString "auth_failed"))
      else
        match PyJson.get? response "payload" with
        | none => .ok (some (PyText.ofString "auth_protocol_error"))
        | some (.dict payload) =>
            if isText (PyJson.get? payload "type") (PyText.ofString "hello-ok") then .ok none
            else .ok (some (PyText.ofString "auth_protocol_error"))
        | some _ => .error .attributeError

/-- `_handshake`: what is wrong, or what is received after it. -/
def handshake (connection : Connection) : Except Raised (PyText ⊕ List Receipt) :=
  match awaitHello connection with
  | .error .timedOut => .ok (.inl (PyText.ofString "handshake_timeout"))
  | .error (.network _) => .ok (.inl (PyText.ofString "handshake_error"))
  | .ok (response, receipts) =>
      (checkHello response).map fun wrong => wrong.elim (.inr receipts) .inl

def isToolCall (item : Entries) : Bool :=
  ["tool_use", "toolUse", "toolCall", "tool_call"].any fun name =>
    isText (PyJson.get? item "type") (PyText.ofString name)

def textPart (item : Entries) : List PyJson :=
  if isToolCall item then []
  else if isText (PyJson.get? item "type") (PyText.ofString "text") then
    (truthy? (PyJson.get? item "text")).toList
  else []

def contentParts (items : List PyJson) : Bool × List PyJson :=
  ((items.filterMap loadsDict).any isToolCall, (items.filterMap loadsDict).flatMap textPart)

def textOf? : PyJson → Option PyText
  | .str text => some text
  | _ => none

/-- `"\n".join(parts)`. -/
def joinParts (parts : List PyJson) : Except Raised PyText :=
  match parts.mapM textOf? with
  | some texts => .ok ((texts.intersperse [.scalar '\n']).flatten)
  | none => .error .typeError

/-- Whether a content calls a tool, and its texts. -/
def messageParts : Option PyJson → Bool × List PyJson
  | some (.list items) => contentParts items
  | some (.str text) => (false, if text.isEmpty then [] else [.str text])
  | _ => (false, [])

/-- `_parse_history_messages`, on the last message. -/
def parseMessage (message : Entries) : Except Raised Mapping :=
  if !isText (PyJson.get? message "role") (PyText.ofString "assistant") then .ok pendingResult
  else if (messageParts (PyJson.get? message "content")).1 then .ok pendingResult
  else
    (joinParts (messageParts (PyJson.get? message "content")).2).map fun text =>
      if text.isEmpty then pendingResult
      else [("status", plain "completed"), ("text", .str text), ("message", .dict message)]

def parseHistoryMessages (messages : List PyJson) : Except Raised Mapping :=
  match messages.getLast? with
  | none => .ok pendingResult
  | some (.dict entry) =>
      match PyJson.get? entry "message" with
      | none => parseMessage entry
      | some (.dict message) => parseMessage message
      | some _ => .error .attributeError
  | some _ => .error .attributeError

/-- `messages` of a payload: `payload.get("messages", []) or []`, when it is subscripted. -/
def listedMessages (payload : Entries) : Except Raised (List PyJson) :=
  match truthy? (PyJson.get? payload "messages") with
  | none => .ok []
  | some (.list messages) => .ok messages
  | some (.dict _) => .error .keyError
  | some (.str _) => .error .attributeError
  | some _ => .error .typeError

section

variable (runtime : ClientRuntime)

def historyResult (frame : Entries) : Except Raised Mapping :=
  if (truthy? (PyJson.get? frame "ok")).isNone then
    let failed := fun text : PyText => errorResult (PyText.ofString "chat.history failed: " ++ text)
    match PyJson.get? frame "error" with
    | none => .ok (failed (PyText.ofString "Unknown error"))
    | some (.dict error) =>
        .ok (failed (pyStr runtime.toTextRuntime
          ((PyJson.get? error "message").getD (plain "Unknown error"))))
    | some _ => .error .attributeError
  else
    match truthy? (PyJson.get? frame "payload") with
    | none => .ok pendingResult
    | some (.dict payload) => do
        let messages ← listedMessages payload
        let parsed ← parseHistoryMessages messages
        return if isText (parsed.lookup "status") (PyText.ofString "completed") then
            parsed ++ [("msg_count", .int messages.length)]
          else parsed
    | some _ => .error .attributeError

variable (request : WsRequest)

def isHistoryResponse (frame : Entries) : Bool :=
  isText (PyJson.get? frame "type") (PyText.ofString "res") &&
    isText (PyJson.get? frame "id") request.requestId

def awaitHistory (connection : Connection) (receipts : List Receipt) :
    Except Fault (Option Entries × List Receipt) := do
  raiseFault connection.historyFault
  awaitFrame (isHistoryResponse request) connection.isLate request.maxHistoryFrames receipts

/-- The handlers of `poll_session_result`. -/
def faultResult : Fault → Mapping
  | .timedOut => errorResult (PyText.ofString "Timeout (" ++ request.timeoutText ++
      PyText.ofString "s)")
  | .network text => errorResult text

def readHistory (connection : Connection) (receipts : List Receipt) : Except Raised Mapping :=
  match awaitHistory request connection receipts with
  | .error fault => .ok (faultResult request fault)
  | .ok (none, _) =>
      .ok (errorResult (PyText.ofString "No response received for chat.history request"))
  | .ok (some frame, _) => historyResult runtime frame

def pollSessionResult (connection : Connection) : Except Raised Mapping :=
  match connection.connectFault with
  | some fault => .ok (faultResult request fault)
  | none => do
      match ← handshake connection with
      | .inl wrong => return errorResult wrong
      | .inr receipts => readHistory runtime request connection receipts

end

/-! ## Readable answers -/

section

variable (runtime : ClientRuntime)

/-- A count that `int` refuses with an exception which is not caught. -/
def countFails (count : Option PyJson) : Bool :=
  match truthy? count with
  | some (.list _) => true
  | some (.dict _) => true
  | some (.float (.infinity _)) => true
  | _ => false

def finalObject : HttpAnswer → Option Entries
  | .response code (some (.dict data)) => if code = 200 then some data else none
  | _ => none

/-- The attempt ends the loop. -/
def settles : HttpAnswer → Bool
  | .readTimeout _ => true
  | answer => (finalObject answer).any fun data =>
      !isBool true (PyJson.get? data "isProcessing") && (truthy? (PyJson.get? data "text")).isSome &&
        !isBool false (PyJson.get? data "isFinal") &&
        (intOr0 runtime (PyJson.get? data "messageCount")).isOk

/-- No final response that an attempt gets has a count which is refused so. -/
def CountsReadable : List HttpAnswer → Prop
  | [] => True
  | answer :: answers =>
      (∀ data ∈ finalObject answer, countFails (PyJson.get? data "messageCount") = false) ∧
        (settles runtime answer = false → CountsReadable answers)

end

/-- The field is missing or an object. -/
def IsObjectOrMissing (value : Option PyJson) : Prop :=
  ∀ found ∈ value, ∃ entries, found = .dict entries

/-- The texts of a content without tool calls are strings. -/
def ContentReadable (content : Option PyJson) : Prop :=
  ∀ items, content = some (.list items) →
    (∃ item ∈ items.filterMap loadsDict, isToolCall item) ∨
      ∀ item ∈ items.filterMap loadsDict,
        isText (PyJson.get? item "type") (PyText.ofString "text") →
          ∀ text ∈ truthy? (PyJson.get? item "text"), ∃ found, text = .str found

def MessageReadable (message : Entries) : Prop :=
  isText (PyJson.get? message "role") (PyText.ofString "assistant") →
    ContentReadable (PyJson.get? message "content")

/-- The entry, and the message in it, are objects. -/
def EntryReadable (entry : PyJson) : Prop :=
  ∃ entries, entry = .dict entries ∧
    match PyJson.get? entries "message" with
    | none => MessageReadable entries
    | some message => ∃ fields, message = .dict fields ∧ MessageReadable fields

/-- The payload is an object, its messages are a list, and the last of them is readable. -/
def PayloadReadable (payload : PyJson) : Prop :=
  ∃ entries, payload = .dict entries ∧
    ∀ messages ∈ truthy? (PyJson.get? entries "messages"),
      ∃ listed, messages = .list listed ∧ ∀ entry ∈ listed.getLast?, EntryReadable entry

def isTruthy (value : Option PyJson) : Bool :=
  (truthy? value).isSome

/-- A response to the connect request that is not refused has an object for its payload, or
none. -/
def HelloReadable (response : Entries) : Prop :=
  isTruthy (PyJson.get? response "ok") → IsObjectOrMissing (PyJson.get? response "payload")

def HistoryReadable (frame : Entries) : Prop :=
  if isTruthy (PyJson.get? frame "ok") then
    ∀ payload ∈ truthy? (PyJson.get? frame "payload"), PayloadReadable payload
  else IsObjectOrMissing (PyJson.get? frame "error")

def isHelloOk (response : Entries) : Bool :=
  isTruthy (PyJson.get? response "ok") &&
    (PyJson.get? response "payload").any fun payload => (loadsDict payload).any fun payload =>
      isText (PyJson.get? payload "type") (PyText.ofString "hello-ok")

/-- The two responses that the client reads are readable. -/
def ResponsesReadable (request : WsRequest) (connection : Connection) : Prop :=
  connection.connectFault = none →
    ∀ response receipts, awaitHello connection = .ok (some response, receipts) →
      HelloReadable response ∧
        (isHelloOk response → ∀ frame rest,
          awaitHistory request connection receipts = .ok (some frame, rest) →
            HistoryReadable frame)

/-! ## HTTP results -/

variable {answer : HttpAnswer}

section

variable {runtime : ClientRuntime}

theorem isTotal_of_status {result : Mapping} {status : String}
    (member : status ∈ ["completed", "pending", "error"]) :
    IsTotal (.ok (("status", plain status) :: result)) :=
  ⟨status, member, rfl⟩

theorem isTotal_givenUp (lastError : Option PyText) (transportError : Bool) :
    IsTotal (.ok (givenUp lastError transportError)) := by
  unfold givenUp
  dsimp only
  split
  · exact isTotal_of_status (by simp)
  split
  · exact isTotal_of_status (by simp)
  · exact isTotal_of_status (by simp)

theorem intOr0_spec (count : Option PyJson) :
    if countFails count then
      ∃ raised, intOr0 runtime count = .error raised ∧ raised.isTurned = false
    else (∃ value, intOr0 runtime count = .ok value) ∨
      ∃ text, intOr0 runtime count = .error (.valueError text) := by
  unfold countFails intOr0
  cases truthy? count with
  | none => exact Or.inl ⟨_, rfl⟩
  | some value =>
      cases value with
      | null | bool | int => exact Or.inl ⟨_, rfl⟩
      | float value =>
          cases value with
          | finite printed isText => exact Or.inl ⟨_, rfl⟩
          | infinity negative => exact ⟨_, rfl, rfl⟩
          | nan => exact Or.inr ⟨_, rfl⟩
      | str text =>
          dsimp only
          cases runtime.intOfText text with
          | some value => exact Or.inl ⟨_, rfl⟩
          | none => exact Or.inr ⟨_, rfl⟩
      | list | dict => exact ⟨_, rfl, rfl⟩

/-- How an attempt ends which does not raise what is not caught. -/
inductive Ends (runtime : ClientRuntime) (answer : HttpAnswer) : Prop where
  | settled (result : Mapping) (settled : settles runtime answer = true)
      (isAttempt : finalAttempt runtime answer = .ok (.returned result))
      (isTotal : IsTotal (.ok result))
  | again (lastError : PyText) (goesOn : settles runtime answer = false)
      (isAttempt : finalAttempt runtime answer = .ok (.again lastError))
  | caught (raised : Raised) (goesOn : settles runtime answer = false)
      (isAttempt : finalAttempt runtime answer = .error raised)
      (isCaught : (∃ text, raised = .fault (.network text)) ∨ ∃ text, raised = .valueError text)

theorem finalObject_eq_some_iff {data : Entries} :
    finalObject answer = some data ↔ answer = .response 200 (some (.dict data)) := by
  cases answer with
  | response code body =>
      cases body with
      | none => simp [finalObject]
      | some body => cases body <;> simp [finalObject]
  | readTimeout | raised => simp [finalObject]

variable (runtime) in
theorem finalAttempt_of_countFails {data : Entries} (isObject : finalObject answer = some data)
    (fails : countFails (PyJson.get? data "messageCount") = true) :
    ∃ raised, finalAttempt runtime answer = .error raised ∧ raised.isTurned = false := by
  obtain rfl := finalObject_eq_some_iff.1 isObject
  have spec := @intOr0_spec runtime (PyJson.get? data "messageCount")
  rw [if_pos fails] at spec
  obtain ⟨raised, isCount, notTurned⟩ := spec
  refine ⟨raised, ?_, notTurned⟩
  change readFinal runtime data = _
  rw [readFinal, isCount]
  rfl

variable (runtime) in
theorem ends_of_object {data : Entries}
    (readable : countFails (PyJson.get? data "messageCount") = false) :
    Ends runtime (.response 200 (some (.dict data))) := by
  have spec := @intOr0_spec runtime (PyJson.get? data "messageCount")
  rw [readable, if_neg Bool.false_ne_true] at spec
  have isSettled : settles runtime (.response 200 (some (.dict data))) =
      (!isBool true (PyJson.get? data "isProcessing") &&
        (truthy? (PyJson.get? data "text")).isSome && !isBool false (PyJson.get? data "isFinal") &&
          (intOr0 runtime (PyJson.get? data "messageCount")).isOk) :=
    rfl
  have isAttempt : finalAttempt runtime (.response 200 (some (.dict data))) =
      readFinal runtime data :=
    rfl
  rcases spec with ⟨count, isCount⟩ | ⟨text, isCount⟩
  · rw [readFinal, isCount] at isAttempt
    rw [isCount] at isSettled
    by_cases processing : isBool true (PyJson.get? data "isProcessing") = true
    · refine .again _ ?_ (isAttempt.trans (if_pos processing))
      rw [isSettled, processing]
      rfl
    have attempted := isAttempt.trans (if_neg processing)
    rw [Bool.not_eq_true] at processing
    cases isText : truthy? (PyJson.get? data "text") with
    | none =>
        rw [isText] at attempted isSettled
        rw [processing] at isSettled
        by_cases notFinal : (isBool false (PyJson.get? data "isFinal") ||
            (truthy? (PyJson.get? data "isFinal")).isNone) = true
        · exact .again _ isSettled (attempted.trans (if_pos notFinal))
        · exact .again _ isSettled (attempted.trans (if_neg notFinal))
    | some text =>
        rw [isText] at attempted isSettled
        rw [processing] at isSettled
        by_cases notFinal : isBool false (PyJson.get? data "isFinal") = true
        · refine .again _ ?_ (attempted.trans (if_pos notFinal))
          rw [isSettled, notFinal]
          rfl
        · refine .settled _ ?_ (attempted.trans (if_neg notFinal)) (isTotal_of_status (by simp))
          rw [Bool.not_eq_true] at notFinal
          rw [isSettled, notFinal]
          rfl
  · refine .caught _ ?_ ?_ (Or.inr ⟨text, rfl⟩)
    · rw [isSettled, isCount]
      simp [Except.isOk, Except.toBool]
    · rw [isAttempt, readFinal, isCount]
      rfl

variable (runtime) in
theorem ends_of_not_countFails
    (readable : ∀ data ∈ finalObject answer, countFails (PyJson.get? data "messageCount") = false) :
    Ends runtime answer := by
  cases answer with
  | readTimeout text => exact .settled _ rfl rfl (isTotal_of_status (by simp))
  | raised text => exact .caught _ rfl rfl (Or.inl ⟨text, rfl⟩)
  | response code body =>
      cases isObject : finalObject (.response code body) with
      | some data =>
          have isResponse := finalObject_eq_some_iff.1 isObject
          rw [isResponse]
          exact ends_of_object runtime (readable data isObject)
      | none =>
          have goesOn : settles runtime (.response code body) = false := by
            change (finalObject (.response code body)).any _ = false
            rw [isObject]
            rfl
          have notObject : code = 200 → ∀ data, body ≠ some (.dict data) := by
            rintro rfl data rfl
            cases isObject
          have isAgain : ∃ lastError,
              finalAttempt runtime (.response code body) = .ok (.again lastError) := by
            simp only [finalAttempt]
            split
            · exact ⟨_, rfl⟩
            split
            · exact ⟨_, rfl⟩
            split
            · exact ⟨_, rfl⟩
            · rename_i isOk
              split
              · rename_i data
                exact absurd rfl (notObject (not_not.1 isOk) data)
              · exact ⟨_, rfl⟩
          obtain ⟨lastError, isAttempt⟩ := isAgain
          exact .again lastError goesOn isAttempt

theorem isTotal_pollGatewayFinal_iff (answers : List HttpAnswer) (lastError : Option PyText)
    (transportError : Bool) :
    IsTotal (pollGatewayFinal runtime answers lastError transportError) ↔
      CountsReadable runtime answers := by
  induction answers generalizing lastError transportError with
  | nil => exact iff_of_true (isTotal_givenUp lastError transportError) trivial
  | cons answer answers ih =>
      by_cases readable : ∀ data ∈ finalObject answer,
          countFails (PyJson.get? data "messageCount") = false
      · unfold pollGatewayFinal CountsReadable
        rw [and_iff_right readable]
        cases ends_of_not_countFails runtime readable with
        | settled result settled isAttempt isTotal =>
            rw [isAttempt, settled]
            exact iff_of_true isTotal fun impossible => by cases impossible
        | again lastError goesOn isAttempt =>
            rw [isAttempt, imp_iff_right goesOn]
            exact ih _ _
        | caught raised goesOn isAttempt isCaught =>
            rw [isAttempt, imp_iff_right goesOn]
            rcases isCaught with ⟨text, rfl⟩ | ⟨text, rfl⟩
            · exact ih _ _
            · exact ih _ _
      · refine iff_of_false ?_ fun counts => readable counts.1
        push Not at readable
        obtain ⟨data, isObject, fails⟩ := readable
        obtain ⟨raised, isAttempt, notTurned⟩ :=
          finalAttempt_of_countFails runtime isObject (by simpa using fails)
        unfold pollGatewayFinal
        rw [isAttempt]
        cases raised with
        | fault | valueError => cases notTurned
        | _ => exact fun isTotal => Bool.false_ne_true isTotal

end

/-! ## WebSocket results -/

variable (runtime : ClientRuntime) (parts : List PyJson) (request : WsRequest)

theorem isTotal_errorResult (error : PyText) : IsTotal (.ok (errorResult error)) :=
  isTotal_of_status (by simp)

theorem mapM_textOf?_isSome_iff :
    (parts.mapM textOf?).isSome ↔ ∀ part ∈ parts, ∃ found, part = .str found := by
  induction parts with
  | nil => simp
  | cons part parts ih =>
      rw [List.mapM_cons, List.forall_mem_cons, ← ih]
      cases part with
      | str text => cases isRest : parts.mapM textOf? <;> simp [textOf?]
      | _ => simp [textOf?]

theorem joinParts_spec :
    ((∀ part ∈ parts, ∃ found, part = .str found) ∧ ∃ text, joinParts parts = .ok text) ∨
      (¬ (∀ part ∈ parts, ∃ found, part = .str found)) ∧ joinParts parts = .error .typeError := by
  rw [← mapM_textOf?_isSome_iff]
  unfold joinParts
  cases parts.mapM textOf? with
  | some texts => exact Or.inl ⟨rfl, _, rfl⟩
  | none => exact Or.inr ⟨by simp, rfl⟩

theorem isTotal_joinParts_iff (message : Entries) (parts : List PyJson) :
    IsTotal ((joinParts parts).map fun text =>
        if text.isEmpty then pendingResult
        else [("status", plain "completed"), ("text", .str text), ("message", .dict message)]) ↔
      ∀ part ∈ parts, ∃ found, part = .str found := by
  rcases joinParts_spec parts with ⟨areTexts, text, isJoined⟩ | ⟨notTexts, isJoined⟩
  · rw [isJoined]
    refine iff_of_true ?_ areTexts
    dsimp only [Except.map]
    split
    · exact isTotal_of_status (by simp)
    · exact isTotal_of_status (by simp)
  · rw [isJoined]
    exact iff_of_false Bool.false_ne_true notTexts

theorem mem_contentParts_iff {items : List PyJson} (noTools : (contentParts items).1 = false)
    {part : PyJson} :
    part ∈ (contentParts items).2 ↔ ∃ item ∈ items.filterMap loadsDict,
      isText (PyJson.get? item "type") (PyText.ofString "text") = true ∧
        part ∈ truthy? (PyJson.get? item "text") := by
  have notTool : ∀ item ∈ items.filterMap loadsDict, isToolCall item = false := by
    intro item member
    have each := List.any_eq_false.1 noTools item member
    rwa [Bool.not_eq_true] at each
  simp only [contentParts, List.mem_flatMap]
  refine exists_congr fun item => and_congr_right fun member => ?_
  rw [textPart, notTool item member, if_neg Bool.false_ne_true]
  split
  · rename_i isTextItem
    rw [Option.mem_toList, isTextItem]
    exact (and_iff_right rfl).symm
  · rename_i notTextItem
    simp [notTextItem]

theorem contentReadable_of_toolCall {content : Option PyJson}
    (calls : (messageParts content).1 = true) : ContentReadable content := by
  rintro items rfl
  obtain ⟨item, member, isCall⟩ := List.any_eq_true.1 calls
  exact Or.inl ⟨item, member, isCall⟩

theorem contentReadable_iff {content : Option PyJson} (noTools : (messageParts content).1 = false) :
    ContentReadable content ↔ ∀ part ∈ (messageParts content).2, ∃ found, part = .str found := by
  by_cases isList : ∃ items, content = some (.list items)
  · obtain ⟨items, rfl⟩ := isList
    have noCall : ¬ ∃ item ∈ items.filterMap loadsDict, isToolCall item := by
      rintro ⟨item, member, isCall⟩
      exact List.any_eq_false.1 noTools item member isCall
    constructor
    · intro readable part member
      obtain ⟨item, isItem, isTextItem, isPart⟩ := (mem_contentParts_iff noTools).1 member
      exact (readable items rfl).resolve_left noCall item isItem isTextItem part isPart
    · intro areTexts others isContent
      cases isContent
      exact Or.inr fun item isItem isTextItem text isPart =>
        areTexts text ((mem_contentParts_iff noTools).2 ⟨item, isItem, isTextItem, isPart⟩)
  · refine iff_of_true (fun items isContent => absurd ⟨items, isContent⟩ isList) ?_
    intro part member
    unfold messageParts at member
    split at member
    · exact absurd ⟨_, rfl⟩ isList
    · split at member
      · cases member
      · exact ⟨_, List.mem_singleton.1 member⟩
    · cases member

theorem isTotal_parseMessage_iff (message : Entries) :
    IsTotal (parseMessage message) ↔ MessageReadable message := by
  unfold parseMessage MessageReadable
  by_cases assistant : isText (PyJson.get? message "role") (PyText.ofString "assistant") = true
  · rw [if_neg (by simp [assistant]), imp_iff_right assistant]
    by_cases calls : (messageParts (PyJson.get? message "content")).1 = true
    · rw [if_pos calls]
      exact iff_of_true (isTotal_of_status (by simp)) (contentReadable_of_toolCall calls)
    · rw [if_neg calls, isTotal_joinParts_iff, contentReadable_iff (Bool.not_eq_true _ ▸ calls)]
  · rw [if_pos (by simp [assistant])]
    exact iff_of_true (isTotal_of_status (by simp)) fun isAssistant => absurd isAssistant assistant

theorem not_isTotal_error {raised : Raised} (notTurned : raised.isTurned = false) :
    ¬ IsTotal (.error raised) := by
  intro isTotal
  rw [IsTotal, notTurned] at isTotal
  cases isTotal

theorem isTotal_parseHistoryMessages_iff (messages : List PyJson) :
    IsTotal (parseHistoryMessages messages) ↔
      ∀ entry ∈ messages.getLast?, EntryReadable entry := by
  unfold parseHistoryMessages
  cases isLast : messages.getLast? with
  | none => exact iff_of_true (isTotal_of_status (by simp)) fun entry member => by cases member
  | some entry =>
      simp only [Option.mem_some_iff, forall_eq']
      cases entry with
      | dict entries =>
          simp only [EntryReadable, PyJson.dict.injEq, exists_eq_left']
          cases PyJson.get? entries "message" with
          | none => exact isTotal_parseMessage_iff entries
          | some message =>
              cases message with
              | dict fields =>
                  simp only [PyJson.dict.injEq, exists_eq_left']
                  exact isTotal_parseMessage_iff fields
              | _ => exact iff_of_false (not_isTotal_error rfl) (by simp)
      | _ => exact iff_of_false (not_isTotal_error rfl) (by simp [EntryReadable])

theorem isTotal_counted_iff (outcome : Except Raised Mapping) (counted : Mapping → Bool)
    (count : PyJson) :
    IsTotal (outcome >>= fun parsed =>
        pure (if counted parsed then parsed ++ [("msg_count", count)] else parsed)) ↔
      IsTotal outcome := by
  cases outcome with
  | error raised => rfl
  | ok parsed =>
      change IsTotal (.ok (if counted parsed then parsed ++ [("msg_count", count)] else parsed)) ↔ _
      split
      · refine exists_congr fun status => and_congr_right fun _ => ?_
        rw [List.lookup_append]
        cases parsed.lookup "status" <;> simp [List.lookup_cons]
      · rfl

theorem isTotal_messages_iff (payload : Entries) :
    IsTotal (do
        let messages ← listedMessages payload
        let parsed ← parseHistoryMessages messages
        return if isText (parsed.lookup "status") (PyText.ofString "completed") then
            parsed ++ [("msg_count", .int messages.length)]
          else parsed) ↔
      PayloadReadable (.dict payload) := by
  simp only [PayloadReadable, PyJson.dict.injEq, exists_eq_left']
  unfold listedMessages
  cases isMessages : truthy? (PyJson.get? payload "messages") with
  | none =>
      refine iff_of_true ?_ fun messages member => by cases member
      exact (isTotal_counted_iff (parseHistoryMessages [])
        (fun parsed => isText (parsed.lookup "status") (PyText.ofString "completed")) (.int 0)).2
        ((isTotal_parseHistoryMessages_iff []).2 fun entry member => by cases member)
  | some messages =>
      simp only [Option.mem_some_iff, forall_eq']
      cases messages with
      | list listed =>
          simp only [PyJson.list.injEq, exists_eq_left']
          exact (isTotal_counted_iff _ _ _).trans (isTotal_parseHistoryMessages_iff listed)
      | _ => exact iff_of_false (not_isTotal_error rfl) (by simp)

theorem isTotal_historyResult_iff (frame : Entries) :
    IsTotal (historyResult runtime frame) ↔ HistoryReadable frame := by
  unfold historyResult HistoryReadable
  cases isOk : truthy? (PyJson.get? frame "ok") with
  | none =>
      rw [if_pos Option.isNone_none, if_neg (by simp [isTruthy, isOk])]
      dsimp only
      cases isError : PyJson.get? frame "error" with
      | none => exact iff_of_true (isTotal_errorResult _) fun found member => by cases member
      | some error =>
          cases error with
          | dict entries =>
              refine iff_of_true (isTotal_errorResult _) fun found member => ?_
              exact ⟨entries, (Option.some.inj member).symm⟩
          | _ => exact iff_of_false (not_isTotal_error rfl) (by simp [IsObjectOrMissing])
  | some value =>
      rw [if_neg (by simp), if_pos (by simp [isTruthy, isOk])]
      cases isPayload : truthy? (PyJson.get? frame "payload") with
      | none => exact iff_of_true (isTotal_of_status (by simp)) fun found member => by cases member
      | some payload =>
          simp only [Option.mem_some_iff, forall_eq']
          cases payload with
          | dict entries => exact isTotal_messages_iff entries
          | _ => exact iff_of_false (not_isTotal_error rfl) (by simp [PayloadReadable])

theorem checkHello_spec (response : Entries) :
    (HelloReadable response ∧ ∃ wrong, checkHello (some response) = .ok wrong ∧
        (wrong = none ↔ isHelloOk response = true)) ∨
      (¬ HelloReadable response ∧ checkHello (some response) = .error .attributeError) := by
  unfold HelloReadable isHelloOk isTruthy
  simp only [checkHello]
  cases isOk : truthy? (PyJson.get? response "ok") with
  | none =>
      refine Or.inl ⟨fun truthy => ?_, _, rfl, by simp⟩
      cases truthy
  | some value =>
      simp only [Option.isNone_some, Bool.false_eq_true, if_false]
      cases isPayload : PyJson.get? response "payload" with
      | none =>
          refine Or.inl ⟨fun _ found member => ?_, _, rfl, by simp⟩
          cases member
      | some payload =>
          cases payload with
          | dict entries =>
              left
              refine ⟨fun _ found member => ⟨entries, (Option.some.inj member).symm⟩, ?_⟩
              dsimp only
              split
              · rename_i isHello
                exact ⟨_, rfl, by simp [loadsDict, isHello]⟩
              · rename_i notHello
                exact ⟨_, rfl, by simp [loadsDict, notHello]⟩
          | _ => exact Or.inr ⟨by simp [IsObjectOrMissing], rfl⟩

theorem isTotal_faultResult (fault : Fault) : IsTotal (.ok (faultResult request fault)) := by
  cases fault <;> exact isTotal_errorResult _

theorem isTotal_readHistory_iff (connection : Connection) (receipts : List Receipt) :
    IsTotal (readHistory runtime request connection receipts) ↔
      ∀ frame rest, awaitHistory request connection receipts = .ok (some frame, rest) →
        HistoryReadable frame := by
  unfold readHistory
  cases isHistory : awaitHistory request connection receipts with
  | error fault =>
      exact iff_of_true (isTotal_faultResult request fault) fun _ _ impossible => by
        cases impossible
  | ok found =>
      obtain ⟨frame, rest⟩ := found
      cases frame with
      | none =>
          refine iff_of_true (isTotal_errorResult _) ?_
          rintro frame rest impossible
          cases impossible
      | some frame =>
          dsimp only
          rw [isTotal_historyResult_iff]
          constructor
          · rintro readable other rest same
            cases same
            exact readable
          · intro every
            exact every frame rest rfl

/-- The WebSocket client is total just when the responses that it reads are readable. -/
theorem isTotal_pollSessionResult_iff (connection : Connection) :
    IsTotal (pollSessionResult runtime request connection) ↔
      ResponsesReadable request connection := by
  unfold pollSessionResult ResponsesReadable
  cases isConnected : connection.connectFault with
  | some fault =>
      refine iff_of_true (isTotal_faultResult request fault) fun impossible => ?_
      cases impossible
  | none =>
      rw [imp_iff_right rfl]
      dsimp only
      unfold handshake
      cases isHello : awaitHello connection with
      | error fault =>
          refine iff_of_true ?_ fun _ _ impossible => by cases impossible
          cases fault <;> exact isTotal_errorResult _
      | ok found =>
          obtain ⟨response, receipts⟩ := found
          cases response with
          | none =>
              refine iff_of_true (isTotal_errorResult _) ?_
              rintro response receipts impossible
              cases impossible
          | some response =>
              dsimp only
              rcases checkHello_spec response with
                ⟨readable, wrong, isChecked, admitted⟩ | ⟨notReadable, isChecked⟩
              · rw [isChecked]
                cases wrong with
                | some text =>
                    refine iff_of_true (isTotal_errorResult _) ?_
                    rintro other rest same
                    cases same
                    refine ⟨readable, fun isHelloOk => ?_⟩
                    cases admitted.2 isHelloOk
                | none =>
                    refine (isTotal_readHistory_iff runtime request connection receipts).trans ?_
                    constructor
                    · rintro every other rest same
                      cases same
                      exact ⟨readable, fun _ => every⟩
                    · intro every
                      exact (every response receipts rfl).2 (admitted.1 rfl)
              · rw [isChecked]
                exact iff_of_false (not_isTotal_error rfl) fun every =>
                  notReadable (every response receipts rfl).1

def asciiClient : ClientRuntime where
  toTextRuntime := .ascii
  intOfText _ := none
  intOfFloat _ := 0

def sampleRequest : WsRequest where
  requestId := PyText.ofString "r1"
  timeoutText := PyText.ofString "30"
  maxHistoryFrames := 20

def frameOf (entries : List (String × PyJson)) : PyJson :=
  .dict (entries.map fun entry => (PyText.ofString entry.1, entry.2))

def nullError : Connection where
  connectFault := none
  helloFault := none
  historyFault := none
  receipts :=
    [.frame (frameOf [("type", plain "event")]),
      .frame (frameOf [("type", plain "res"), ("ok", .bool true),
        ("payload", frameOf [("type", plain "hello-ok")])]),
      .frame (frameOf [("type", plain "res"), ("id", plain "r1"), ("ok", .bool false),
        ("error", .null)])]
  isLate _ := false

end GatewayClients

end WebhookWise

import WebhookWise.DeepAnalysisGateways
import WebhookWise.Pseudonymizer

/-!
# Polling a gateway for a deep analysis

A poll claims the pending row under a lease, asks the gateway, and decides what becomes of the row.
An answer that is not marked final counts once it has been seen unchanged often enough.  Exceptions
of the gateway clients are caught and end the run as failed.
-/

namespace WebhookWise

open DeepAnalysisGateways

namespace DeepAnalysisPolls

/-! ## Policies -/

/-- The polling settings, with the runtime overrides applied.  The bounded
exponential backoff, which the code computes with floats, is a table here. -/
structure DeepAnalysisPollSettings where
  timeoutSeconds : Int
  pollTimeoutSeconds : Int
  delayForAttempt : Nat → Int
  stabilityRequiredHits : Int
  maxConsecutiveErrors : Int
  enableDegradation : Bool

structure DeepAnalysisPollPolicy where
  timeoutSeconds : Int
  pollTimeoutSeconds : Int
  delayForAttempt : Nat → Int
  httpApiUrl : String
  gatewayUrl : String
  gatewayToken : String
  hooksToken : String
  stabilityRequiredHits : Int
  maxConsecutiveErrors : Int
  enableDegradation : Bool
  gatewayName : String

/-- What a poll depends on besides the row and the gateway. -/
structure PollEnvironment where
  python : PythonRuntime
  tables : Pseudonymizer.CharacterTables
  gateways : DeepAnalysisSettings
  settings : DeepAnalysisPollSettings
  /-- `_parse_gateway_payload`: the mapping that can be recovered from a reply. -/
  parseGatewayPayload : String → Option JsonObject

namespace DeepAnalysisPollPolicy

def forGateway (settings : DeepAnalysisPollSettings) (gateway : GatewayInstance) :
    DeepAnalysisPollPolicy where
  timeoutSeconds := settings.timeoutSeconds
  pollTimeoutSeconds := max 1 settings.pollTimeoutSeconds
  delayForAttempt := settings.delayForAttempt
  httpApiUrl := gateway.httpApiUrl
  gatewayUrl := gateway.gatewayUrl
  gatewayToken := gateway.token
  hooksToken := gateway.token
  stabilityRequiredHits := max 1 settings.stabilityRequiredHits
  maxConsecutiveErrors := settings.maxConsecutiveErrors
  enableDegradation := settings.enableDegradation
  gatewayName := gateway.name

def fromConfig (env : PollEnvironment) (gatewayName : Option String) :
    Except UnknownGatewayError DeepAnalysisPollPolicy :=
  (resolveGateway env.python env.gateways gatewayName).map (forGateway env.settings)

variable (policy : DeepAnalysisPollPolicy)

def hasHttpApi : Bool :=
  strip policy.httpApiUrl ≠ ""

def pollClaimLeaseSeconds : Int :=
  max (max 30 (policy.pollTimeoutSeconds * 3)) 90 + 30

def clampDelayToTimeout (now : DateTime) (delaySeconds : Int) (createdAt : Option DateTime) : Int :=
  match createdAt with
  | none => delaySeconds
  | some createdAt =>
      let remaining := (policy.timeoutSeconds * DateTime.microsecondsPerSecond -
        (now - createdAt)).tdiv DateTime.microsecondsPerSecond
      if remaining ≤ 0 then 1 else max 1 (min delaySeconds remaining)

end DeepAnalysisPollPolicy

/-! ## Asking the gateway -/

variable (policy : DeepAnalysisPollPolicy)

inductive GatewayEndpoint where
  | http (httpApiUrl token : String)
  | websocket (gatewayUrl token : String)
deriving DecidableEq

structure GatewayRequest where
  endpoint : GatewayEndpoint
  sessionKey : String
deriving DecidableEq

structure FinalPayload where
  isFinal : Json
  isProcessing : Json
  text : Json
  messageCount : Int

/-- How one attempt to get the final response ends. -/
inductive FinalResponse where
  | status (code : Nat)
  | invalidJson
  | payload (body : FinalPayload)
  | readTimeout
  | transportError (message : String)

/-- What a gateway client returns, or the exception it ends with. -/
inductive PollReply where
  | completed (text : String) (messageCount : Int) (isFinal : Bool)
  | pending
  | error (message : String) (retryable : Bool)
  | raised (message : String)

/-- What the gateways answer: to each HTTP attempt, and to a request for the history
of a session. -/
structure GatewayAnswers where
  final : GatewayRequest → Nat → FinalResponse
  history : GatewayRequest → PollReply

private def inProgress : String := "analysis in progress"

/-- `value is True` or `value is False`. -/
def isBool (wanted : Bool) : Json → Bool
  | .bool value => value = wanted
  | _ => false

/-- How the loop over the attempts goes on after one of them. -/
inductive AttemptOutcome where
  | returned (reply : PollReply)
  | again (lastError : String) (transportFailed : Bool)

/-- One attempt of `poll_gateway_final`. -/
def finalAttempt (python : PythonRuntime) : FinalResponse → AttemptOutcome
  | .status code =>
      if code = 404 then .again "Session not found" false
      else if code = 202 ∨ code = 204 then .again inProgress false
      else .again ("HTTP " ++ toString code) false
  | .invalidJson => .again "Invalid JSON response" false
  | .payload body =>
      if isBool true body.isProcessing then .again inProgress false
      else if body.text.truthy && !isBool false body.isFinal then
        .returned (.completed (body.text.pyStr python) body.messageCount (isBool true body.isFinal))
      else if isBool false body.isFinal || !body.isFinal.truthy then .again inProgress false
      else .again "No text content" false
  | .readTimeout => .returned .pending
  | .transportError message => .again message true

/-- `poll_gateway_final`, from one attempt on, with the number of attempts left, the
last error and whether the transport has failed.  The second component is the number
of requests sent. -/
def pollGatewayFinal (python : PythonRuntime) (answer : Nat → FinalResponse) :
    Nat → Nat → String → Bool → PollReply × Nat
  | 0, _, lastError, transportFailed =>
      if lastError = inProgress then (.pending, 0)
      else if transportFailed then
        (.error (if lastError = "" then "HTTP transport error" else lastError) true, 0)
      else (.error lastError false, 0)
  | left + 1, attempt, _, transportFailed =>
      match finalAttempt python (answer attempt) with
      | .returned reply => (reply, 1)
      | .again lastError failed =>
          let (reply, sent) := pollGatewayFinal python answer left (attempt + 1) lastError
            (transportFailed || failed)
          (reply, sent + 1)

/-- The endpoint `_fetch_poll_result` asks under a policy. -/
def DeepAnalysisPollPolicy.endpoint : GatewayEndpoint :=
  if policy.hasHttpApi then .http policy.httpApiUrl policy.hooksToken
  else .websocket policy.gatewayUrl policy.gatewayToken

/-- `_fetch_poll_result`, with the requests it sends. -/
def fetchPollResult (env : PollEnvironment) (answers : GatewayAnswers) (sessionKey : String)
    (policy : DeepAnalysisPollPolicy) : PollReply × List GatewayRequest :=
  let request : GatewayRequest := ⟨policy.endpoint, sessionKey⟩
  if policy.hasHttpApi then
    let (reply, sent) := pollGatewayFinal env.python (answers.final request) 3 0 "" false
    (reply, List.replicate sent request)
  else (answers.history request, [request])

/-! ## What becomes of the row -/

/-- The value under the stability key of a record. -/
structure PollStability where
  messageCount : Int
  textLength : Nat
  textHash : String
  hitCount : Int
  firstResult : Option String
  errorCount : Int
deriving DecidableEq

/-- What a poll does to the stability key. -/
inductive StabilityWrite where
  | none
  | cleared
  | stored (stability : PollStability)

def StabilityWrite.apply (current : Option PollStability) : StabilityWrite → Option PollStability
  | none => current
  | cleared => Option.none
  | stored stability => some stability

/-- The columns a poll result sets; the pseudonym map is set to null or left alone. -/
structure PollUpdate where
  status : DeepAnalysisStatus
  analysisResult : JsonObject
  durationSeconds : Option Int
  clearsPseudonymMap : Bool
  needSuccessNotify : Bool

/-- `_poll_skip` or `_poll_update`. -/
inductive PollResult where
  | skip
  | update (fields : PollUpdate)

def failureUpdate (analysisResult : JsonObject) : PollUpdate where
  status := .failed
  analysisResult := analysisResult
  durationSeconds := none
  clearsPseudonymMap := false
  needSuccessNotify := false

variable (env : PollEnvironment)

def buildAnalysisResultFromGatewayText (text runId : String) : JsonObject :=
  match env.parseGatewayPayload text with
  | some parsed =>
      PyDict.set (PyDict.set parsed "_gateway_run_id" (.str runId)) "_gateway_text" (.str text)
  | none => [("root_cause", .str text), ("_gateway_text", .str text)]

/-- The token map of a `pseudonym_map` column, as strings. -/
def pseudonymMapping (pseudonymMap : Option JsonObject) : PyDict String :=
  match pseudonymMap with
  | none => []
  | some entries => entries.map fun entry => (entry.1, entry.2.pyStr env.python)

/-- A text with the tokens of a `pseudonym_map` column replaced. -/
def unmasked (pseudonymMap : Option JsonObject) (text : String) : String :=
  Pseudonymizer.unmaskTextWithMap env.tables text (pseudonymMapping env pseudonymMap)

def pollTimeoutStartedAt (record : DeepAnalysis) : Option DateTime :=
  let manualRetry :=
    match (record.analysisResult.getD []).get? "_manual_retry_started_at" with
    | some (.str text) => parseUtcDatetime env.python (some text)
    | _ => none
  manualRetry.or record.createdAt

/-- `_elapsed_since`, in microseconds. -/
def elapsedSince (now : DateTime) (startedAt : Option DateTime) (default : Int) : Int :=
  match startedAt with
  | none => default
  | some startedAt => now - startedAt

def completedUpdate (record : DeepAnalysis) (text : String) (now : DateTime) : PollUpdate where
  status := .completed
  analysisResult := buildAnalysisResultFromGatewayText env (unmasked env record.pseudonymMap text)
    (record.gatewayRunId.getD "")
  durationSeconds := some (elapsedSince now (pollTimeoutStartedAt env record) 0)
  clearsPseudonymMap := true
  needSuccessNotify := true

def degradedUpdate (record : DeepAnalysis) (text : String) : PollUpdate where
  status := .completed
  analysisResult :=
    buildAnalysisResultFromGatewayText env text (record.gatewayRunId.getD "")
  durationSeconds := none
  clearsPseudonymMap := false
  needSuccessNotify := true

def handlePollTimeout (policy : DeepAnalysisPollPolicy) (now : DateTime) (record : DeepAnalysis) :
    Option PollUpdate :=
  match pollTimeoutStartedAt env record with
  | none => none
  | some startedAt =>
      if now - startedAt ≤ policy.timeoutSeconds * DateTime.microsecondsPerSecond then none
      else some (failureUpdate [("root_cause", .str "Deep analysis timed out")])

/-- `if not rec["gateway_session_key"]`. -/
def lacksSessionKey (record : DeepAnalysis) : Bool :=
  record.gatewaySessionKey.getD "" = ""

def handleMissingSessionKey (policy : DeepAnalysisPollPolicy) (now : DateTime)
    (record : DeepAnalysis) : Option PollResult :=
  if !lacksSessionKey record then none
  else
    let elapsed := elapsedSince now (pollTimeoutStartedAt env record)
      (policy.timeoutSeconds * DateTime.microsecondsPerSecond)
    if elapsed < policy.delayForAttempt 0 * DateTime.microsecondsPerSecond then some .skip
    else
      some (.update (failureUpdate
        [("root_cause", .str "Could not obtain an analysis session; gateway trigger failed"),
          ("error", .str "missing_session_key"),
          ("failure_reason", .str "Could not obtain the analysis session key")]))

def pollSnapshot (text : String) (messageCount hitCount : Int) (firstResult : Option String) :
    PollStability where
  messageCount := messageCount
  textLength := text.length
  textHash := env.python.sha256Hexdigest text
  hitCount := hitCount
  firstResult := firstResult
  errorCount := 0

def isSamePollSnapshot (previous : PollStability) (text : String) (messageCount : Int) : Bool :=
  previous.messageCount = messageCount && previous.textLength = text.length &&
    previous.textHash = env.python.sha256Hexdigest text

def handleCompletedPollResult (policy : DeepAnalysisPollPolicy) (now : DateTime)
    (record : DeepAnalysis) (stability : Option PollStability) (text : String) (messageCount : Int)
    (isFinal : Bool) : PollResult × StabilityWrite :=
  let requiredHits := if isFinal then 1 else policy.stabilityRequiredHits
  if requiredHits ≤ 1 then (.update (completedUpdate env record text now), .cleared)
  else
    match stability with
    | some previous =>
        if isSamePollSnapshot env previous text messageCount then
          let hitCount := previous.hitCount + 1
          if hitCount < requiredHits then
            (.skip, .stored (pollSnapshot env text messageCount hitCount none))
          else (.update (completedUpdate env record text now), .cleared)
        else (.skip, .stored (pollSnapshot env text messageCount 1 (some text)))
    | none => (.skip, .stored (pollSnapshot env text messageCount 1 (some text)))

/-- The errors of a connection that may work the next time. -/
def transientMarkers : List String :=
  ["all connection attempts failed", "connection refused", "connection reset",
    "connect call failed", "network is unreachable", "no route to host",
    "name or service not known", "temporary failure", "timed out", "timeout"]

def isTransientPollError (error : String) : Bool :=
  transientMarkers.any fun marker => occursIn marker.toList (env.python.lower error).toList

/-- The errors in a row, with this one, are too many. -/
def degrades (previous : PollStability) : Bool :=
  policy.maxConsecutiveErrors ≤ previous.errorCount + 1 && policy.enableDegradation

def handleErrorPollResult (policy : DeepAnalysisPollPolicy) (record : DeepAnalysis)
    (stability : Option PollStability) (message : String) (retryable : Bool) :
    PollResult × StabilityWrite :=
  match stability.bind fun previous => previous.firstResult.map fun text => (previous, text) with
  | some (previous, text) =>
      if degrades policy previous then (.update (degradedUpdate env record text), .cleared)
      else (.skip, .stored { previous with errorCount := previous.errorCount + 1 })
  | none =>
      if retryable || isTransientPollError env message then (.skip, .none)
      else
        (.update (failureUpdate [("root_cause", .str message), ("error", .str message),
          ("failure_reason", .str message)]), .cleared)

def crashedUpdate (message : String) : PollUpdate :=
  failureUpdate [("root_cause", .str ("Analysis task crashed: " ++ message)),
    ("error", .str message), ("failure_reason", .str ("Polling error: " ++ message))]

/-- `_handle_poll_result`, and the handler of exceptions. -/
def handlePollResult (policy : DeepAnalysisPollPolicy) (now : DateTime) (record : DeepAnalysis)
    (stability : Option PollStability) : PollReply → PollResult × StabilityWrite
  | .completed text messageCount isFinal =>
      handleCompletedPollResult env policy now record stability text messageCount isFinal
  | .error message retryable => handleErrorPollResult env policy record stability message retryable
  | .pending => (.skip, .none)
  | .raised message => (.update (crashedUpdate message), .none)

def handleBeforeFetch (policy : DeepAnalysisPollPolicy) (now : DateTime) (record : DeepAnalysis) :
    Option (PollResult × StabilityWrite) :=
  match handlePollTimeout env policy now record with
  | some update => some (.update update, .cleared)
  | none =>
      (handleMissingSessionKey env policy now record).map fun result =>
        (result, match result with
          | .skip => .none
          | .update _ => .cleared)

/-! ## One call -/

/-- The instants at which a call reads the clock: when it claims the row, before and
after it asks the gateway, and when it schedules the next poll. -/
structure PollClock where
  claimed : DateTime
  started : DateTime
  answered : DateTime
  scheduled : DateTime

structure PollOutcome where
  result : PollResult
  write : StabilityWrite
  requests : List GatewayRequest

def unknownGatewayUpdate (error : UnknownGatewayError) : PollUpdate :=
  failureUpdate
    [("root_cause", .str ("The gateway this run was submitted to is no longer configured: " ++
      error.message)),
      ("failure_reason", .str "unknown_gateway")]

/-- `_poll_single_record`.  Without a policy the gateway is that of the record. -/
def pollSingleRecord (answers : GatewayAnswers) (clock : PollClock) (record : DeepAnalysis)
    (stability : Option PollStability) (policy : Option DeepAnalysisPollPolicy) : PollOutcome :=
  match policy.elim (DeepAnalysisPollPolicy.fromConfig env (some record.gatewayName)) .ok with
  | .error error => ⟨.update (unknownGatewayUpdate error), .none, []⟩
  | .ok policy =>
      match handleBeforeFetch env policy clock.started record with
      | some (result, write) => ⟨result, write, []⟩
      | none =>
          let (reply, requests) :=
            fetchPollResult env answers (record.gatewaySessionKey.getD "") policy
          let (result, write) :=
            handlePollResult env policy clock.answered record stability reply
          ⟨result, write, requests⟩

/-- The `WHERE` of `_claim_deep_analysis_poll`. -/
def isPollable (now : DateTime) (record : DeepAnalysis) : Bool :=
  record.status = .pending && record.nextPollAt.all (· ≤ now)

def pollClaimed (now : DateTime) (record : DeepAnalysis) : DeepAnalysis :=
  { record with
    pollAttempts := record.pollAttempts + 1
    lastPolledAt := some now
    nextPollAt := some (now.addSeconds policy.pollClaimLeaseSeconds) }

/-- `_schedule_next_deep_analysis_poll`, on the row as it is by then. -/
def scheduleNextPoll (policy : DeepAnalysisPollPolicy) (now : DateTime) (claimed : DeepAnalysis)
    (record : DeepAnalysis) : DeepAnalysis :=
  if record.status = .pending then
    let delay := policy.clampDelayToTimeout now (policy.delayForAttempt claimed.pollAttempts)
      (pollTimeoutStartedAt env claimed)
    { record with nextPollAt := some (now.addSeconds delay) }
  else record

/-- The last transaction of `poll_deep_analysis_once`, on the row as it is by then. -/
def storePollUpdate (fields : PollUpdate) (record : DeepAnalysis) : DeepAnalysis :=
  if record.status = .pending then
    { record with
      status := fields.status
      analysisResult := some fields.analysisResult
      durationSeconds := fields.durationSeconds.getD record.durationSeconds
      pseudonymMap := if fields.clearsPseudonymMap then none else record.pseudonymMap
      nextPollAt := none }
  else record

/-- What a call of `poll_deep_analysis_once` leaves, and the requests it sends. -/
structure PolledRecord where
  record : DeepAnalysis
  stability : Option PollStability
  requests : List GatewayRequest

/-- `poll_deep_analysis_once`, when nothing else writes the row meanwhile. -/
def pollDeepAnalysisOnce (answers : GatewayAnswers) (clock : PollClock) (record : DeepAnalysis)
    (stability : Option PollStability) (policy : Option DeepAnalysisPollPolicy) : PolledRecord :=
  match policy.elim (DeepAnalysisPollPolicy.fromConfig env none) .ok with
  | .error _ => ⟨record, stability, []⟩
  | .ok policy =>
      if isPollable clock.claimed record then
        let claimed := pollClaimed policy clock.claimed record
        let outcome := pollSingleRecord env answers clock claimed stability (some policy)
        { record :=
            match outcome.result with
            | .skip => scheduleNextPoll env policy clock.scheduled claimed claimed
            | .update fields => storePollUpdate fields claimed
          stability := outcome.write.apply stability
          requests := outcome.requests }
      else ⟨record, stability, []⟩

end DeepAnalysisPolls

end WebhookWise

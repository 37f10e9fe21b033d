import WebhookWise.SensitiveKeys
import WebhookWise.SqlTable
import Mathlib.Data.List.Sort

/-!
# Saving a webhook, and recording that it failed

A request is delivered to the workers at least once.  An attempt that succeeds saves the
event of the request as COMPLETED; one that fails leaves a row to be retried, or a dead
letter.  All of them write the row of the request id, which is unique.

The clock reading of a transaction is passed to it.
-/

namespace WebhookWise

open SqlTable SensitiveKeys

namespace WebhookIngest

/-- `WebhookProcessingStatus`. -/
inductive ProcessingStatus where
  | received
  | analyzing
  | retry
  | failed
  | completed
  | deadLetter
deriving DecidableEq

/-- A row of `webhook_events`, without the columns of the operators' workflow. -/
structure WebhookEvent where
  id : Nat
  source : String
  sourceConnectionId : Option Nat
  requestId : Option String
  clientIp : Option String
  timestamp : DateTime
  rawPayload : Option String
  headers : PyDict String
  parsedData : Option JsonObject
  alertHash : Option String
  dedupKey : Option String
  aiAnalysis : Option JsonObject
  importance : Option String
  processingStatus : ProcessingStatus
  retryCount : Nat
  nextRetryAt : Option DateTime
  failureReason : Option String
  errorMessage : Option String
  forwardStatus : Option String
  prevAlertId : Option Nat
  isDuplicate : Bool
  duplicateOf : Option Nat
  duplicateCount : Nat
  lastNotifiedAt : Option DateTime
  updatedAt : Option DateTime

abbrev EventTable := Table WebhookEvent.id

/-- `WebhookEventInput`, with its defaults. -/
structure WebhookEventInput where
  source : String
  sourceConnectionId : Option Nat := none
  requestId : Option String := none
  clientIp : Option String := none
  timestamp : Option DateTime := none
  rawPayload : Option String := none
  headers : PyDict String := []
  parsedData : Option JsonObject := none
  alertHash : Option String := none
  dedupKey : Option String := none
  aiAnalysis : Option JsonObject := none
  importance : Option String := none
  processingStatus : ProcessingStatus := .received
  retryCount : Nat := 0
  nextRetryAt : Option DateTime := none
  failureReason : Option String := none
  errorMessage : Option String := none
  forwardStatus : Option String := none
  prevAlertId : Option Nat := none
  isDuplicate : Bool := false
  duplicateOf : Option Nat := none
  duplicateCount : Nat := 1
  lastNotifiedAt : Option DateTime := none

/-- A row that `fill_fields` has filled, of an event with this id and timestamp. -/
def filled (id : Nat) (timestamp : DateTime) (updatedAt : Option DateTime)
    (data : WebhookEventInput) : WebhookEvent where
  id := id
  source := data.source
  sourceConnectionId := data.sourceConnectionId
  requestId := data.requestId
  clientIp := data.clientIp
  timestamp := data.timestamp.getD timestamp
  rawPayload := data.rawPayload
  headers := data.headers
  parsedData := data.parsedData
  alertHash := data.alertHash
  dedupKey := data.dedupKey
  aiAnalysis := data.aiAnalysis
  importance := data.importance
  processingStatus := data.processingStatus
  retryCount := data.retryCount
  nextRetryAt := data.nextRetryAt
  failureReason := data.failureReason
  errorMessage := data.errorMessage
  forwardStatus := data.forwardStatus
  prevAlertId := data.prevAlertId
  isDuplicate := data.isDuplicate
  duplicateOf := data.duplicateOf
  duplicateCount := data.duplicateCount
  lastNotifiedAt := data.lastNotifiedAt
  updatedAt := updatedAt

def requestIdTaken (events : EventTable) (requestId : Option String) : Bool :=
  requestId.isSome && events.rows.any fun row => row.requestId = requestId

variable (now : DateTime)

/-- The `INSERT` of a new event; `none` for `IntegrityError`. -/
def insertEvent (data : WebhookEventInput) (events : EventTable) : Option EventTable :=
  if requestIdTaken events data.requestId then none
  else some (events.insert (fun fresh => filled fresh now (some now) data) fun _ => rfl)

/-- The flush of a row that was loaded earlier.  The columns that other transactions
write too are written where the session has changed them. -/
def flushed (data : WebhookEventInput) (loaded current : WebhookEvent) : WebhookEvent :=
  let written := filled current.id loaded.timestamp (some now) data
  { written with
    processingStatus :=
      flushColumn loaded.processingStatus written.processingStatus current.processingStatus
    retryCount := flushColumn loaded.retryCount written.retryCount current.retryCount
    nextRetryAt := flushColumn loaded.nextRetryAt written.nextRetryAt current.nextRetryAt
    failureReason := flushColumn loaded.failureReason written.failureReason current.failureReason
    errorMessage := flushColumn loaded.errorMessage written.errorMessage current.errorMessage }

/-! ## Raw deliveries -/

/-- What a delivery of a request carries. -/
structure Delivery where
  source : String
  sourceConnectionId : Option Nat
  rawHeaders : PyDict String
  rawBody : String
  clientIp : String
  requestId : Option String
  receivedAt : Option String
  ingestRetryCount : Int

/-- `if request_id:`. -/
def Delivery.hasRequestId (delivery : Delivery) : Bool :=
  delivery.requestId.getD "" ≠ ""

/-- An exception of an attempt, and whether `retry_policy.should_retry` accepts it. -/
structure Failure where
  message : String
  retryable : Bool

variable (python : PythonRuntime)

def parseRawBody (rawBody : String) : Option JsonObject :=
  match python.jsonLoads rawBody with
  | some (.dict entries) => some entries
  | _ => none

def rawInput (delivery : Delivery) (failure : Failure) : WebhookEventInput where
  source := if delivery.source = "" then "unknown" else delivery.source
  sourceConnectionId := delivery.sourceConnectionId
  requestId := delivery.requestId
  clientIp := some delivery.clientIp
  rawPayload := some delivery.rawBody
  headers := redactHeaders python "[REDACTED]" delivery.rawHeaders
  parsedData := parseRawBody python delivery.rawBody
  errorMessage := some (truncated failure.message 2000)
  timestamp := parseUtcDatetime python delivery.receivedAt

def failureReason (failure : Failure) : String :=
  if failure.retryable then "retry_exhausted" else "fat_err"

/-- The event of `record_raw_ingest_dead_letter`. -/
def deadLetterInput (delivery : Delivery) (failure : Failure) : WebhookEventInput :=
  { rawInput python delivery failure with
    processingStatus := .deadLetter
    retryCount := delivery.ingestRetryCount.toNat
    failureReason := some (failureReason failure) }

/-- The event of `record_raw_ingest_retry`, whose retry is one more. -/
def retryInput (delivery : Delivery) (failure : Failure) (nextRetryAt : DateTime) :
    WebhookEventInput :=
  { rawInput python delivery failure with
    processingStatus := .retry
    retryCount := delivery.ingestRetryCount.toNat + 1
    nextRetryAt := some nextRetryAt }

/-- What `_update_existing_dead_letter` sets. -/
def deadLettered (delivery : Delivery) (failure : Failure) (row : WebhookEvent) : WebhookEvent :=
  { row with
    processingStatus := .deadLetter
    retryCount := delivery.ingestRetryCount.toNat
    failureReason := some (failureReason failure)
    errorMessage := some (truncated failure.message 2000)
    nextRetryAt := none
    updatedAt := some now }

theorem deadLettered_id (delivery : Delivery) (failure : Failure) (row : WebhookEvent) :
    (deadLettered now delivery failure row).id = row.id :=
  rfl

def updateExistingDeadLetter (delivery : Delivery) (failure : Failure) (events : EventTable) :
    EventTable :=
  events.update (fun row => row.requestId = delivery.requestId) (deadLettered now delivery failure)
    (deadLettered_id now delivery failure)

/-- What the `UPDATE` of `record_raw_ingest_retry` sets. -/
def retried (delivery : Delivery) (failure : Failure) (nextRetryAt : DateTime)
    (row : WebhookEvent) : WebhookEvent :=
  { row with
    processingStatus := .retry
    retryCount := delivery.ingestRetryCount.toNat + 1
    nextRetryAt := some nextRetryAt
    errorMessage := some (truncated failure.message 2000)
    updatedAt := some now }

/-- The `UPDATE` of `record_raw_ingest_retry`, which leaves a completed row alone. -/
def updateExistingRetry (delivery : Delivery) (failure : Failure) (nextRetryAt : DateTime)
    (events : EventTable) : EventTable :=
  events.update
    (fun row => row.requestId = delivery.requestId && row.processingStatus ≠ .completed)
    (retried now delivery failure nextRetryAt) fun _ => rfl

/-! ## Saves -/

/-- `SaveWebhookInput`, with the payload as it is stored. -/
structure SaveWebhookInput where
  data : JsonObject
  source : String
  sourceConnectionId : Option Nat
  rawPayload : Option String
  headers : PyDict String
  clientIp : Option String
  aiAnalysis : Option JsonObject
  forwardStatus : String
  alertHash : Option String
  dedupKey : Option String
  reanalyzed : Bool
  prevAlertId : Option Nat

/-- What the duplicate checks of a save have found. -/
structure DuplicateStatus where
  isDuplicate : Bool
  originalEventId : Option Nat

/-- `analysis.get("importance")`, which is a string where it is present. -/
def importanceOf (analysis : JsonObject) : Option String :=
  match analysis.get? "importance" with
  | some (.str importance) => some importance
  | _ => none

/-- `_fill_completed_event`. -/
def completedInput (requestId : Option String) (payload : SaveWebhookInput) : WebhookEventInput where
  source := payload.source
  sourceConnectionId := payload.sourceConnectionId
  requestId := requestId
  clientIp := payload.clientIp
  rawPayload := payload.rawPayload
  headers := redactHeaders python "[REDACTED]" payload.headers
  parsedData := some payload.data
  alertHash := payload.alertHash
  dedupKey := payload.dedupKey
  aiAnalysis := payload.aiAnalysis
  importance := payload.aiAnalysis.bind importanceOf
  forwardStatus := some payload.forwardStatus
  processingStatus := .completed
  prevAlertId := payload.prevAlertId

def unknownAnalysisResult : JsonObject :=
  [("importance", .str "unknown"), ("summary", .str "")]

def presentAnalysis (analysis : Option JsonObject) : Option JsonObject :=
  analysis.filter fun entries => !entries.isEmpty

/-- The analysis and importance of `_resolve_analysis_for_duplicate`. -/
def analysisForDuplicate (payload : SaveWebhookInput) (original : WebhookEvent) :
    JsonObject × Option String :=
  match presentAnalysis payload.aiAnalysis, presentAnalysis original.aiAnalysis with
  | some analysis, _ => (analysis, importanceOf analysis)
  | none, some analysis => (analysis, original.importance)
  | none, none => (unknownAnalysisResult, none)

def withDuplicate (payload : SaveWebhookInput) (original : WebhookEvent) : WebhookEvent :=
  let counted : WebhookEvent :=
    { original with
      duplicateCount := (if original.duplicateCount = 0 then 1 else original.duplicateCount) + 1
      updatedAt := some now }
  match presentAnalysis payload.aiAnalysis with
  | some analysis =>
      if payload.reanalyzed &&
          !((presentAnalysis original.aiAnalysis).getD []).truthyAt "summary" then
        { counted with aiAnalysis := some analysis, importance := importanceOf analysis }
      else counted
  | none => counted

/-- `_fill_duplicate_event`. -/
def duplicateInput (requestId : Option String) (payload : SaveWebhookInput)
    (original : WebhookEvent) : WebhookEventInput :=
  let (analysis, importance) := analysisForDuplicate payload original
  { completedInput python requestId payload with
    aiAnalysis := some analysis
    importance := importance
    isDuplicate := true
    duplicateOf := some original.id
    duplicateCount := (if original.duplicateCount = 0 then 1 else original.duplicateCount) + 1
    prevAlertId := none }

@[simp]
theorem withDuplicate_id (payload : SaveWebhookInput) (original : WebhookEvent) :
    (withDuplicate now payload original).id = original.id := by
  unfold withDuplicate
  simp only
  repeat' split
  all_goals rfl

def writeEvent (data : WebhookEventInput) (loaded : Option WebhookEvent) (events : EventTable) :
    Option EventTable :=
  match loaded with
  | some loaded =>
      some (events.update (fun row => row.id = loaded.id) (flushed now data loaded) fun _ => rfl)
  | none => insertEvent now data events

/-- `save_webhook_data_in_session`, after the row of the request id has been loaded and
the duplicate checks are made. -/
def saveEvent (now : DateTime) (requestId : Option String) (payload : SaveWebhookInput)
    (duplicate : DuplicateStatus) (loaded : Option WebhookEvent) (events : EventTable) :
    Option EventTable :=
  match (if duplicate.isDuplicate then duplicate.originalEventId else none).bind events.lookup with
  | some original =>
      writeEvent now (duplicateInput python requestId payload original) loaded
        (events.update (fun row => row.id = original.id) (withDuplicate now payload)
          (withDuplicate_id now payload))
  | none => writeEvent now (completedInput python requestId payload) loaded events

/-! ## Attempts -/

/-- How far an attempt has come: before and after its save has committed or raised, or
in the recorders after it failed. -/
inductive AttemptPhase where
  | processing
  | saving (loaded : Option WebhookEvent)
  | afterSave
  | retryInsert (failure : Failure) (nextRetryAt : DateTime)
  | retryUpdate (failure : Failure) (nextRetryAt : DateTime)
  | scheduling (failure : Failure)
  | deadLetterUpdate (failure : Failure)
  | deadLetterInsert (failure : Failure)
  | deadLetterReupdate (failure : Failure)

structure Attempt where
  delivery : Delivery
  phase : AttemptPhase

/-- A scan that has selected overdue rows and goes on to lease them. -/
structure RetryScan where
  now : DateTime
  leaseUntil : DateTime
  ids : List Nat

structure IngestState where
  events : EventTable
  attempts : List Attempt
  scans : List RetryScan

def IngestState.initial : IngestState :=
  ⟨.empty, [], []⟩

/-- `record_raw_ingest_dead_letter` updates the row of a request id before it inserts
one. -/
def deadLetterPhase (delivery : Delivery) (failure : Failure) : AttemptPhase :=
  if delivery.hasRequestId then .deadLetterUpdate failure else .deadLetterInsert failure

/-- How `_handle_raw_webhook_failure` starts. -/
def failurePhase (delivery : Delivery) (failure : Failure) (maxRetries : Int)
    (nextRetryAt : DateTime) : AttemptPhase :=
  if failure.retryable ∧ delivery.ingestRetryCount < maxRetries then .retryInsert failure nextRetryAt
  else deadLetterPhase delivery failure

def scheduleFailure (failure : Failure) (error : String) : Failure :=
  { failure with
    message := "raw ingest retry schedule failed: " ++ error ++ "; process_error=" ++ failure.message }

def recordNext (now : DateTime) (attempt : Attempt) (events : EventTable) :
    EventTable × Option AttemptPhase :=
  let delivery := attempt.delivery
  match attempt.phase with
  | .retryInsert failure nextRetryAt =>
      match insertEvent now (retryInput python delivery failure nextRetryAt) events with
      | some inserted => (inserted, some (.scheduling failure))
      | none =>
          -- Without a request id the error is raised, and logged by the caller.
          (events, some (if delivery.hasRequestId then .retryUpdate failure nextRetryAt
            else .scheduling failure))
  | .retryUpdate failure nextRetryAt =>
      (updateExistingRetry now delivery failure nextRetryAt events, some (.scheduling failure))
  | .deadLetterUpdate failure =>
      (updateExistingDeadLetter now delivery failure events,
        if requestIdTaken events delivery.requestId then none else some (.deadLetterInsert failure))
  | .deadLetterInsert failure =>
      match insertEvent now (deadLetterInput python delivery failure) events with
      | some inserted => (inserted, none)
      | none =>
          (events, if delivery.hasRequestId then some (.deadLetterReupdate failure) else none)
  | .deadLetterReupdate failure => (updateExistingDeadLetter now delivery failure events, none)
  | phase => (events, some phase)

/-- The phase after a transaction of the recorders has raised instead: a retry is
scheduled all the same. -/
def phaseAfterError : AttemptPhase → Option AttemptPhase
  | .retryInsert failure _ | .retryUpdate failure _ => some (.scheduling failure)
  | .deadLetterUpdate _ | .deadLetterInsert _ | .deadLetterReupdate _ => none
  | phase => some phase

/-! ## Steps -/

inductive IngestEvent where
  /-- A task for the request is delivered, for the first time or again. -/
  | deliver (delivery : Delivery)
  /-- `_resolve_request_id`. -/
  | read (index : Nat)
  /-- The rest of the save, and its commit. -/
  | save (index : Nat) (now : DateTime) (payload : SaveWebhookInput) (duplicate : DuplicateStatus)
  /-- The attempt ends with an exception. -/
  | fail (index : Nat) (failure : Failure) (maxRetries : Int) (nextRetryAt : DateTime)
  | record (index : Nat) (now : DateTime)
  | recordError (index : Nat)
  /-- `schedule_webhook_ingest_retry`, which may raise. -/
  | schedule (index : Nat) (error : Option String)
  /-- The `SELECT` of `run_raw_ingest_retry_scan`. -/
  | scan (now leaseUntil : DateTime) (limit : Nat)
  /-- The next `UPDATE` of the scan at this index. -/
  | lease (index : Nat)

/-- `ORDER BY next_retry_at`. -/
def EarlierRetry (first second : WebhookEvent) : Prop :=
  first.nextRetryAt.getD 0 ≤ second.nextRetryAt.getD 0

instance : DecidableRel EarlierRetry :=
  fun _ _ => inferInstanceAs (Decidable (_ ≤ _))

def overdueRetries (limit : Nat) (events : EventTable) : List Nat :=
  (((events.rows.filter fun row =>
      row.processingStatus = .retry && row.nextRetryAt.any (· ≤ now)).insertionSort
    EarlierRetry).take (max 1 limit)).map WebhookEvent.id

/-- One `UPDATE` of the scan. -/
def leaseRetry (scan : RetryScan) (id : Nat) (events : EventTable) : EventTable :=
  events.update (fun row => row.id = id && row.nextRetryAt.any (· ≤ scan.now))
    (fun row => { row with nextRetryAt := some scan.leaseUntil, updatedAt := some scan.now })
    fun _ => rfl

def advance (attempts : List Attempt) (index : Nat) (attempt : Attempt)
    (phase : Option AttemptPhase) : List Attempt :=
  match phase with
  | some phase => attempts.set index { attempt with phase := phase }
  | none => attempts.eraseIdx index

def step (state : IngestState) (event : IngestEvent) : IngestState :=
  match event with
  | .deliver delivery => { state with attempts := state.attempts ++ [⟨delivery, .processing⟩] }
  | .read index =>
      match state.attempts[index]? with
      | some ⟨delivery, .processing⟩ =>
          let existing := if delivery.hasRequestId then
              state.events.rows.find? fun row => row.requestId = delivery.requestId
            else none
          -- A completed row is the result of the save.
          let phase := if existing.any fun row => row.processingStatus = .completed then .afterSave
            else .saving existing
          { state with
            attempts := advance state.attempts index ⟨delivery, .processing⟩ (some phase) }
      | _ => state
  | .save index now payload duplicate =>
      match state.attempts[index]? with
      | some ⟨delivery, .saving loaded⟩ =>
          { state with
            events := (saveEvent python now delivery.requestId payload duplicate loaded
              state.events).getD state.events
            attempts := advance state.attempts index ⟨delivery, .saving loaded⟩ (some .afterSave) }
      | _ => state
  | .fail index failure maxRetries nextRetryAt =>
      match state.attempts[index]? with
      | some ⟨delivery, .processing⟩ | some ⟨delivery, .saving _⟩ | some ⟨delivery, .afterSave⟩ =>
          { state with
            attempts := advance state.attempts index ⟨delivery, .processing⟩
              (some (failurePhase delivery failure maxRetries nextRetryAt)) }
      | _ => state
  | .record index now =>
      match state.attempts[index]? with
      | some attempt =>
          let (events, phase) := recordNext python now attempt state.events
          { state with
            events := events
            attempts := advance state.attempts index attempt phase }
      | none => state
  | .recordError index =>
      match state.attempts[index]? with
      | some attempt =>
          { state with
            attempts := advance state.attempts index attempt (phaseAfterError attempt.phase) }
      | none => state
  | .schedule index error =>
      match state.attempts[index]? with
      | some ⟨delivery, .scheduling failure⟩ =>
          { state with
            attempts := advance state.attempts index ⟨delivery, .scheduling failure⟩
              (error.map fun message =>
                deadLetterPhase delivery (scheduleFailure failure message)) }
      | _ => state
  | .scan now leaseUntil limit =>
      { state with
        scans := state.scans ++ [⟨now, leaseUntil, overdueRetries now limit state.events⟩] }
  | .lease index =>
      match state.scans[index]? with
      | some ⟨now, leaseUntil, id :: ids⟩ =>
          { state with
            events := leaseRetry ⟨now, leaseUntil, ids⟩ id state.events
            scans := state.scans.set index ⟨now, leaseUntil, ids⟩ }
      | _ => state

/-! ## A small deployment -/

/-- A delivery of the request `req-1`. -/
def sampleDelivery : Delivery where
  source := "grafana"
  sourceConnectionId := none
  rawHeaders := []
  rawBody := ""
  clientIp := "10.0.0.1"
  requestId := some "req-1"
  receivedAt := none
  ingestRetryCount := 0

def sampleSave : SaveWebhookInput where
  data := []
  source := "grafana"
  sourceConnectionId := none
  rawPayload := none
  headers := []
  clientIp := none
  aiAnalysis := none
  forwardStatus := "pending"
  alertHash := none
  dedupKey := none
  reanalyzed := false
  prevAlertId := none

end WebhookIngest

end WebhookWise

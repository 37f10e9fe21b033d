import WebhookWise.PythonExceptions
import WebhookWise.WebhookSaves

/-!
# The task of a webhook

A task runs the pipeline for a raw webhook.  An exception that escapes from the pipeline
is handled if `process_webhook_task` catches its class: the webhook is recorded to be
retried and its retry is scheduled, or it becomes a dead letter.  Any other exception ends
the task, which the broker acknowledges all the same.
-/

namespace WebhookWise

open SqlTable

namespace WebhookTasks

open WebhookIngest PythonExceptions

def taskProcessingErrors : List KnownClass :=
  [.osError, .runtimeError, .sqlAlchemyError, .valueError]

def ingestRecordErrors : List KnownClass :=
  [.osError, .runtimeError, .sqlAlchemyError, .timeoutError, .valueError]

def schedulingErrors : List KnownClass :=
  [.osError, .redisError, .runtimeError, .timeoutError]

def integrityErrorClass : ExceptionClass where
  name := "IntegrityError"
  bases := [.integrityError, .sqlAlchemyError]
  inherits := by decide

def requestIdConflict : PyException :=
  .plain integrityErrorClass "duplicate key value violates unique constraint"

/-- A task for a raw webhook.  The endpoint gives every request an id; rows from before
have none. -/
structure WebhookTask where
  delivery : Delivery
  named : delivery.requestId ≠ some ""

/-- How the pipeline of a task ends, if it does not suppress the webhook. -/
inductive PipelineEnd where
  | completes
  | raisesBeforeCommit (exception : PyException)
  | raisesAfterCommit (exception : PyException)

/-- The save that the pipeline of a task comes to, and how the pipeline ends. -/
structure PipelineRun where
  payload : SaveWebhookInput
  verdict : DuplicateVerdict
  times : SaveTimes
  ending : PipelineEnd

/-- The exceptions of the transactions of `record_raw_ingest_retry` and of the schedule. -/
structure RetryFaults where
  insert : Option PyException
  update : Option PyException
  schedule : Option PyException

/-- The clock reading, the settings and the delay of a failure's handling. -/
structure FailureContext where
  now : DateTime
  maxRetries : Int
  nextRetryAt : DateTime

structure TaskEnd where
  events : EventTable
  scheduled : Bool
  exception : Option PyException

variable (env : SaveEnvironment) (context : FailureContext) (faults : RetryFaults)
  (task : WebhookTask)

def handleWebhookIngest (run : PipelineRun) (events : EventTable) :
    EventTable × Option PyException :=
  match run.ending with
  | .raisesBeforeCommit exception => (events, some exception)
  | ending =>
      match saveWebhookDataInSession env run.times
        ⟨task.delivery.requestId, run.payload, run.verdict⟩ events with
      | none => (events, some requestIdConflict)
      | some (saved, _) =>
          match ending with
          | .raisesAfterCommit exception => (saved, some exception)
          | _ => (saved, none)

/-- The `INSERT` of `record_raw_ingest_retry`. -/
def insertRawIngestRetry (failure : Failure) (events : EventTable) :
    Except PyException EventTable :=
  match faults.insert with
  | some exception => .error exception
  | none =>
      match insertEvent context.now
        (retryInput env.python task.delivery failure context.nextRetryAt) events with
      | some inserted => .ok inserted
      | none => .error requestIdConflict

def recordRawIngestRetry (failure : Failure) (events : EventTable) :
    Except PyException EventTable :=
  match insertRawIngestRetry env context faults task failure events with
  | .ok inserted => .ok inserted
  | .error exception =>
      if exception.isCaughtBy [.integrityError] && task.delivery.hasRequestId then
        match faults.update with
        | some exception => .error exception
        | none =>
            .ok (updateExistingRetry context.now task.delivery failure context.nextRetryAt events)
      else .error exception

/-- `record_raw_ingest_dead_letter`, which the database accepts. -/
def recordRawIngestDeadLetter (failure : Failure) (events : EventTable) :
    Except PyException EventTable :=
  if task.delivery.hasRequestId && requestIdTaken events task.delivery.requestId then
    .ok (updateExistingDeadLetter context.now task.delivery failure events)
  else
    match insertEvent context.now (deadLetterInput env.python task.delivery failure) events with
    | some inserted => .ok inserted
    | none =>
        if task.delivery.hasRequestId then
          .ok (updateExistingDeadLetter context.now task.delivery failure events)
        else .error requestIdConflict

def deadLetterEnd (failure : Failure) (events : EventTable) : TaskEnd :=
  match recordRawIngestDeadLetter env context task failure events with
  | .ok recorded => ⟨recorded, false, none⟩
  | .error exception => ⟨events, false, some exception⟩

def failureOf (exception : PyException) : Failure :=
  ⟨exception.error.message, shouldRetry exception⟩

/-- `_handle_raw_webhook_failure` retries the webhook. -/
def retries (exception : PyException) : Bool :=
  shouldRetry exception && task.delivery.ingestRetryCount < context.maxRetries

def scheduleRetry (failure : Failure) (events : EventTable) : TaskEnd :=
  match faults.schedule with
  | none => ⟨events, true, none⟩
  | some exception =>
      if exception.isCaughtBy schedulingErrors then
        deadLetterEnd env context task (scheduleFailure failure exception.error.message) events
      else ⟨events, false, some exception⟩

def handleRawWebhookFailure (exception : PyException) (events : EventTable) : TaskEnd :=
  let failure := failureOf exception
  if retries context task exception then
    match recordRawIngestRetry env context faults task failure events with
    | .ok recorded => scheduleRetry env context faults task failure recorded
    | .error recordException =>
        -- Losing the record is not a reason to lose the retry as well.
        if recordException.isCaughtBy ingestRecordErrors then
          scheduleRetry env context faults task failure events
        else ⟨events, false, some recordException⟩
  else deadLetterEnd env context task failure events

def processWebhookTask (run : PipelineRun) (events : EventTable) : TaskEnd :=
  match handleWebhookIngest env task run events with
  | (saved, none) => ⟨saved, false, none⟩
  | (saved, some exception) =>
      if exception.isCaughtBy taskProcessingErrors then
        handleRawWebhookFailure env context faults task exception saved
      else ⟨saved, false, some exception⟩

/-! ## Webhooks that are kept -/

def isRowOf (before : EventTable) (row : WebhookEvent) : Bool :=
  if task.delivery.hasRequestId then row.requestId = task.delivery.requestId
  else before.nextKey ≤ row.id

/-- The webhook is processed, or waits for its retry, or is a dead letter. -/
def isSettled (row : WebhookEvent) : Bool :=
  row.processingStatus = .completed ||
    (row.processingStatus = .retry && row.nextRetryAt.isSome) ||
      row.processingStatus = .deadLetter

/-- The webhook of a task is settled in a row. -/
def HasSettledRow (before after : EventTable) : Prop :=
  ∃ row ∈ after.rows, isRowOf task before row = true ∧ isSettled row = true

/-- The webhook of a task is not lost. -/
def IsKept (before : EventTable) (result : TaskEnd) : Prop :=
  result.scheduled = true ∨ HasSettledRow task before result.events

/-! ## When a webhook is kept -/

def recordingException (exception : PyException) (events : EventTable) : Option PyException :=
  match recordRawIngestRetry env context faults task (failureOf exception) events with
  | .ok _ => none
  | .error recordException => some recordException

/-- A retry leaves a row unless the recorder raises, or meets a conflict that is not one of
the request id. -/
def recordsRetry (exception : PyException) (events : EventTable) : Bool :=
  (recordingException env context faults task exception events).isNone &&
    (faults.insert.isNone || requestIdTaken events task.delivery.requestId)

/-- The lists of caught classes cover what is raised before the save has committed. -/
def CoversFailure (exception : PyException) (events : EventTable) : Prop :=
  exception.isCaughtBy taskProcessingErrors = true ∧
    (retries context task exception = true →
      (∀ recordException ∈ recordingException env context faults task exception events,
        recordException.isCaughtBy ingestRecordErrors = true) ∧
      (recordsRetry env context faults task exception events = true ∨
        ∀ scheduleException ∈ faults.schedule,
          scheduleException.isCaughtBy schedulingErrors = true))

/-- The webhook is settled before, or its save commits, or all that is raised is caught. -/
def CoversErrors (run : PipelineRun) (events : EventTable) : Prop :=
  HasSettledRow task events events ∨
    ∀ exception, run.ending = .raisesBeforeCommit exception →
      CoversFailure env context faults task exception events

/-! ## Rows -/

section Rows

variable {env context faults task} {before events after : EventTable}

theorem hasRequestId_iff : task.delivery.hasRequestId = true ↔ task.delivery.requestId ≠ none := by
  unfold Delivery.hasRequestId
  cases isId : task.delivery.requestId with
  | none => simp
  | some requestId =>
      have nonempty : requestId ≠ "" := by
        intro empty
        exact task.named (by rw [isId, empty])
      simp [nonempty]

theorem requestIdTaken_iff : requestIdTaken events task.delivery.requestId = true ↔
    task.delivery.hasRequestId = true ∧
      ∃ row ∈ events.rows, row.requestId = task.delivery.requestId := by
  rw [hasRequestId_iff, ← Option.isSome_iff_ne_none]
  simp [requestIdTaken]

theorem HasSettledRow.update (settled : HasSettledRow task before events)
    {guard : WebhookEvent → Bool} {change : WebhookEvent → WebhookEvent}
    {keeps : ∀ row, (change row).id = row.id}
    (sameRequest : ∀ row, (change row).requestId = row.requestId)
    (settles : ∀ row, isSettled (change row) = true) :
    HasSettledRow task before (events.update guard change keeps) := by
  obtain ⟨row, member, isRow, isDone⟩ := settled
  refine ⟨_, Table.mem_update.2 ⟨row, member, rfl⟩, ?_⟩
  split
  · refine ⟨?_, settles row⟩
    unfold isRowOf at isRow ⊢
    rw [keeps, sameRequest]
    exact isRow
  · exact ⟨isRow, isDone⟩

theorem hasSettledRow_update {guard : WebhookEvent → Bool} {change : WebhookEvent → WebhookEvent}
    {keeps : ∀ row, (change row).id = row.id} {row : WebhookEvent} (member : row ∈ events.rows)
    (hasId : task.delivery.hasRequestId = true)
    (ofRequest : row.requestId = task.delivery.requestId)
    (sameRequest : ∀ row, (change row).requestId = row.requestId)
    (settles : guard row = true → isSettled (change row) = true)
    (settled : guard row = false → isSettled row = true) :
    HasSettledRow task before (events.update guard change keeps) := by
  refine ⟨_, Table.mem_update.2 ⟨row, member, rfl⟩, ?_⟩
  cases guarded : guard row with
  | true => exact ⟨by simp [isRowOf, hasId, sameRequest, ofRequest], settles guarded⟩
  | false => exact ⟨by simp [isRowOf, hasId, ofRequest], settled guarded⟩

theorem HasSettledRow.insert (settled : HasSettledRow task before events) {now : DateTime}
    {data : WebhookEventInput} (inserted : insertEvent now data events = some after) :
    HasSettledRow task before after := by
  obtain ⟨row, member, isDone⟩ := settled
  unfold insertEvent at inserted
  split at inserted
  · contradiction
  · obtain rfl := Option.some.inj inserted
    exact ⟨row, Table.mem_insert.2 (Or.inl member), isDone⟩

theorem hasSettledRow_insert (grown : before.nextKey ≤ events.nextKey) {now : DateTime}
    {data : WebhookEventInput} (inserted : insertEvent now data events = some after)
    (ofRequest : data.requestId = task.delivery.requestId)
    (settled : ∀ id timestamp updatedAt, isSettled (filled id timestamp updatedAt data) = true) :
    HasSettledRow task before after := by
  unfold insertEvent at inserted
  split at inserted
  · contradiction
  · obtain rfl := Option.some.inj inserted
    refine ⟨_, Table.mem_insert.2 (Or.inr rfl), ?_, settled _ _ _⟩
    unfold isRowOf
    split
    · exact decide_eq_true ofRequest
    · exact decide_eq_true grown

theorem HasSettledRow.updateExistingRetry (settled : HasSettledRow task before events)
    (now nextRetryAt : DateTime) (failure : Failure) :
    HasSettledRow task before
      (updateExistingRetry now task.delivery failure nextRetryAt events) :=
  settled.update (fun _ => rfl) fun _ => rfl

theorem HasSettledRow.updateExistingDeadLetter (settled : HasSettledRow task before events)
    (now : DateTime) (failure : Failure) :
    HasSettledRow task before (updateExistingDeadLetter now task.delivery failure events) :=
  settled.update (fun _ => rfl) fun _ => rfl

end Rows

/-! ## Saves -/

theorem hasSettledRow_save {times : SaveTimes} {payload : SaveWebhookInput}
    {verdict : DuplicateVerdict} {events after : EventTable} {result : SaveWebhookResult}
    (saved : saveWebhookDataInSession env times ⟨task.delivery.requestId, payload, verdict⟩
      events = some (after, result)) :
    HasSettledRow task events after := by
  rcases saveWebhookDataInSession_spec saved with ⟨rfl, row, isExisting, completed, _⟩ | ⟨written, _⟩
  · obtain ⟨member, ofRequest⟩ := existingEvent_spec isExisting
    have hasId : task.delivery.hasRequestId = true := by
      rw [hasRequestId_iff]
      intro noId
      simp [existingEvent, findByRequestId, noId, presentText] at isExisting
    exact ⟨row, member, by simp [isRowOf, hasId, ofRequest], by simp [isSettled, completed]⟩
  · refine ⟨_, written.stored, ?_, by simp [isSettled, savedEvent_processingStatus]⟩
    unfold isRowOf
    split
    · exact decide_eq_true savedEvent_requestId
    · rename_i noId
      rw [hasRequestId_iff, not_not] at noId
      rw [savedEvent_id]
      simp [existingEvent, findByRequestId, noId, presentText]

/-! ## Failures -/

section Failures

variable {env context faults task} {before events : EventTable}

theorem hasSettledRow_deadLetterEnd (grown : before.nextKey ≤ events.nextKey)
    (failure : Failure) :
    HasSettledRow task before (deadLetterEnd env context task failure events).events := by
  unfold deadLetterEnd recordRawIngestDeadLetter
  cases taken : requestIdTaken events task.delivery.requestId with
  | true =>
      obtain ⟨hasId, row, member, ofRequest⟩ := requestIdTaken_iff.1 taken
      simp only [hasId, Bool.and_self, if_true]
      exact hasSettledRow_update member hasId ofRequest (fun _ => rfl) (fun _ => rfl)
        fun unguarded => absurd ofRequest (of_decide_eq_false unguarded)
  | false =>
      have inserted : insertEvent context.now (deadLetterInput env.python task.delivery failure)
          events ≠ none := by
        unfold insertEvent
        rw [if_neg]
        · simp
        · change ¬ requestIdTaken events task.delivery.requestId = true
          simp [taken]
      obtain ⟨after, isAfter⟩ := Option.ne_none_iff_exists'.1 inserted
      simp only [Bool.and_false, Bool.false_eq_true, if_false, isAfter]
      exact hasSettledRow_insert grown isAfter rfl fun _ _ _ => rfl

theorem HasSettledRow.deadLetterEnd (settled : HasSettledRow task before events)
    (failure : Failure) :
    HasSettledRow task before (deadLetterEnd env context task failure events).events := by
  unfold WebhookTasks.deadLetterEnd recordRawIngestDeadLetter
  split
  · rename_i recorded isRecorded
    split at isRecorded
    · obtain rfl := Except.ok.inj isRecorded
      exact settled.updateExistingDeadLetter _ _
    · split at isRecorded
      · rename_i inserted isInserted
        obtain rfl := Except.ok.inj isRecorded
        exact settled.insert isInserted
      · split at isRecorded
        · obtain rfl := Except.ok.inj isRecorded
          exact settled.updateExistingDeadLetter _ _
        · contradiction
  · exact settled

theorem isKept_scheduleRetry_iff (grown : before.nextKey ≤ events.nextKey) {failure : Failure} :
    IsKept task before (scheduleRetry env context faults task failure events) ↔
      (∀ exception ∈ faults.schedule, exception.isCaughtBy schedulingErrors = true) ∨
        HasSettledRow task before events := by
  unfold scheduleRetry
  cases isFault : faults.schedule with
  | none => simp [IsKept]
  | some exception =>
      cases caught : exception.isCaughtBy schedulingErrors with
      | true => simp [IsKept, caught, hasSettledRow_deadLetterEnd grown]
      | false => simp [IsKept, caught]

theorem insertRawIngestRetry_spec (env : SaveEnvironment) (context : FailureContext)
    (faults : RetryFaults) (task : WebhookTask) (events : EventTable) (failure : Failure) :
    (∃ inserted, insertRawIngestRetry env context faults task failure events = .ok inserted ∧
        faults.insert = none ∧ insertEvent context.now
          (retryInput env.python task.delivery failure context.nextRetryAt) events =
            some inserted) ∨
      (∃ exception, insertRawIngestRetry env context faults task failure events =
          .error exception) ∧
        (faults.insert.isNone || requestIdTaken events task.delivery.requestId) =
          requestIdTaken events task.delivery.requestId := by
  unfold insertRawIngestRetry
  cases faults.insert with
  | some exception => exact Or.inr ⟨⟨exception, rfl⟩, rfl⟩
  | none =>
      cases inserted : insertEvent context.now
          (retryInput env.python task.delivery failure context.nextRetryAt) events with
      | some after => exact Or.inl ⟨after, rfl, rfl, rfl⟩
      | none =>
          have taken : requestIdTaken events task.delivery.requestId = true := by
            unfold insertEvent at inserted
            split at inserted
            · assumption
            · contradiction
          exact Or.inr ⟨⟨requestIdConflict, rfl⟩, by simp [taken]⟩

theorem hasSettledRow_updateExistingRetry_iff (hasId : task.delivery.hasRequestId = true)
    {failure : Failure} {now nextRetryAt : DateTime} :
    HasSettledRow task events (updateExistingRetry now task.delivery failure nextRetryAt events) ↔
      requestIdTaken events task.delivery.requestId = true ∨ HasSettledRow task events events := by
  constructor
  · intro settled
    by_contra unsettled
    rw [not_or, requestIdTaken_iff] at unsettled
    obtain ⟨row, member, isRow, _⟩ := settled
    obtain ⟨old, oldMember, rfl⟩ := Table.mem_update.1 member
    refine unsettled.1 ⟨hasId, old, oldMember, ?_⟩
    simp only [isRowOf, hasId, if_true, decide_eq_true_eq] at isRow
    split at isRow
    · exact isRow
    · exact isRow
  · rintro (taken | settled)
    · obtain ⟨_, row, member, ofRequest⟩ := requestIdTaken_iff.1 taken
      refine hasSettledRow_update member hasId ofRequest (fun _ => rfl) (fun _ => rfl) ?_
      intro unguarded
      simp only [ofRequest, decide_true, Bool.true_and, decide_eq_false_iff_not, not_not]
        at unguarded
      simp [isSettled, unguarded]
    · exact settled.updateExistingRetry _ _ _

theorem recordRawIngestRetry_spec (before : EventTable) {exception : PyException}
    {recorded : EventTable}
    (isRecorded : recordRawIngestRetry env context faults task (failureOf exception) events =
      .ok recorded) :
    events.nextKey ≤ recorded.nextKey ∧
      (HasSettledRow task events recorded ↔
        recordsRetry env context faults task exception events = true ∨
          HasSettledRow task events events) ∧
      (HasSettledRow task before events → HasSettledRow task before recorded) := by
  have records : recordsRetry env context faults task exception events =
      (faults.insert.isNone || requestIdTaken events task.delivery.requestId) := by
    simp [recordsRetry, recordingException, isRecorded]
  rw [records]
  unfold recordRawIngestRetry at isRecorded
  rcases insertRawIngestRetry_spec env context faults task events (failureOf exception) with
    ⟨inserted, isInserted, noFault, inserts⟩ | ⟨⟨conflict, isConflict⟩, onlyTaken⟩
  · rw [isInserted] at isRecorded
    obtain rfl := Except.ok.inj isRecorded
    have settled : HasSettledRow task events inserted :=
      hasSettledRow_insert (le_refl _) inserts rfl fun _ _ _ => rfl
    refine ⟨?_, by simp [settled, noFault], fun earlier => earlier.insert inserts⟩
    unfold insertEvent at inserts
    split at inserts
    · contradiction
    · obtain rfl := Option.some.inj inserts
      exact Nat.le_succ _
  · rw [isConflict] at isRecorded
    simp only at isRecorded
    split at isRecorded
    · rename_i updates
      rw [Bool.and_eq_true] at updates
      split at isRecorded
      · contradiction
      · obtain rfl := Except.ok.inj isRecorded
        rw [onlyTaken]
        exact ⟨le_refl _, hasSettledRow_updateExistingRetry_iff updates.2,
          fun settled => settled.updateExistingRetry _ _ _⟩
    · contradiction

theorem isKept_handleRawWebhookFailure_iff {exception : PyException} :
    IsKept task events (handleRawWebhookFailure env context faults task exception events) ↔
      HasSettledRow task events events ∨
        (retries context task exception = true →
          (∀ recordException ∈ recordingException env context faults task exception events,
            recordException.isCaughtBy ingestRecordErrors = true) ∧
          (recordsRetry env context faults task exception events = true ∨
            ∀ scheduleException ∈ faults.schedule,
              scheduleException.isCaughtBy schedulingErrors = true)) := by
  unfold handleRawWebhookFailure
  cases retried : retries context task exception with
  | false => simp [IsKept, hasSettledRow_deadLetterEnd]
  | true =>
      simp only [if_true, forall_const]
      cases isRecorded : recordRawIngestRetry env context faults task (failureOf exception)
          events with
      | ok recorded =>
          obtain ⟨grown, recordedIff, _⟩ := recordRawIngestRetry_spec events isRecorded
          have silent : recordingException env context faults task exception events = none := by
            simp [recordingException, isRecorded]
          simp only [silent, isKept_scheduleRetry_iff grown, recordedIff]
          simp only [Option.not_mem_none, false_implies, implies_true, true_and]
          tauto
      | error recordException =>
          have raised : recordingException env context faults task exception events =
              some recordException := by
            simp [recordingException, isRecorded]
          have unrecorded : recordsRetry env context faults task exception events = false := by
            simp [recordsRetry, raised]
          simp only [raised, unrecorded, Option.mem_some_iff, forall_eq']
          cases caught : recordException.isCaughtBy ingestRecordErrors with
          | true =>
              simp only [if_true, isKept_scheduleRetry_iff (le_refl _)]
              simp only [Bool.false_eq_true, false_or, true_and]
              tauto
          | false => simp [IsKept]

theorem HasSettledRow.handleRawWebhookFailure (settled : HasSettledRow task before events)
    {exception : PyException} :
    HasSettledRow task before
      (handleRawWebhookFailure env context faults task exception events).events := by
  have scheduled {failure : Failure} {recorded : EventTable}
      (kept : HasSettledRow task before recorded) :
      HasSettledRow task before
        (scheduleRetry env context faults task failure recorded).events := by
    unfold scheduleRetry
    split
    · exact kept
    · split
      · exact kept.deadLetterEnd _
      · exact kept
  unfold WebhookTasks.handleRawWebhookFailure
  simp only
  split
  · split
    · rename_i recorded isRecorded
      exact scheduled ((recordRawIngestRetry_spec _ isRecorded).2.2 settled)
    · split
      · exact scheduled settled
      · exact settled
  · exact settled.deadLetterEnd _

end Failures

/-- No error loses a webhook just when it is settled before, its save commits, or all that
is raised is of a class that is caught. -/
theorem isKept_processWebhookTask_iff (env : SaveEnvironment) (context : FailureContext)
    (faults : RetryFaults) (task : WebhookTask) (run : PipelineRun) (events : EventTable) :
    IsKept task events (processWebhookTask env context faults task run events) ↔
      CoversErrors env context faults task run events := by
  unfold CoversErrors processWebhookTask handleWebhookIngest
  obtain ⟨⟨saved, result⟩, isSaved⟩ : ∃ saved, saveWebhookDataInSession env run.times
      ⟨task.delivery.requestId, run.payload, run.verdict⟩ events = some saved :=
    exists_saveWebhookDataInSession env run.times events task.named
  have settled := hasSettledRow_save env task isSaved
  cases ending : run.ending with
  | completes => simp [isSaved, IsKept, settled]
  | raisesAfterCommit exception =>
      simp only [isSaved]
      have kept : IsKept task events (if exception.isCaughtBy taskProcessingErrors = true then
          handleRawWebhookFailure env context faults task exception saved
          else ⟨saved, false, some exception⟩) := by
        split
        · exact Or.inr settled.handleRawWebhookFailure
        · exact Or.inr settled
      simp [kept]
  | raisesBeforeCommit exception =>
      simp only [PipelineEnd.raisesBeforeCommit.injEq, forall_eq', CoversFailure]
      cases caught : exception.isCaughtBy taskProcessingErrors with
      | true => simp only [if_true, isKept_handleRawWebhookFailure_iff, true_and]
      | false => simp [IsKept]

instance (before : EventTable) (result : TaskEnd) : Decidable (IsKept task before result) :=
  inferInstanceAs (Decidable (_ ∨ ∃ row ∈ result.events.rows, _))

def attributeErrorClass : ExceptionClass where
  name := "AttributeError"
  bases := [.attributeError]
  inherits := by decide

/-- A payload whose incident names its service by a string breaks its adapter. -/
theorem attribute_error_loses_webhook :
    ¬ ∀ (env : SaveEnvironment) (context : FailureContext) (faults : RetryFaults)
      (task : WebhookTask) (run : PipelineRun) (events : EventTable),
      IsKept task events (processWebhookTask env context faults task run events) := by
  intro everKept
  have kept := everKept ⟨.plain, 60, fun _ _ _ => "hash"⟩ ⟨0, 3, 30000000⟩ ⟨none, none, none⟩
    ⟨sampleDelivery, by decide⟩
    ⟨sampleSave, ⟨none, none, false⟩, ⟨0, 0, 0⟩,
      .raisesBeforeCommit (.plain attributeErrorClass "'str' object has no attribute 'get'")⟩
    .empty
  revert kept
  decide

end WebhookTasks

end WebhookWise

import WebhookWise.GuardedRuns
import WebhookWise.WebhookIngest

/-!
# Completed events

A save that finds its event completed writes nothing, the retry recorder and the lease
leave a completed row alone, and a save that comes late completes the row again.  The
dead-letter recorder is the only one that does not look at the status: completed events
stay completed just when it never meets one.
-/

namespace WebhookWise

open SqlTable

namespace WebhookIngest

variable (python : PythonRuntime)

def statusOf (events : EventTable) (id : Nat) : Option ProcessingStatus :=
  (events.lookup id).map WebhookEvent.processingStatus

/-- Every event that is completed before is completed after. -/
def CompletedStays (before after : IngestState) : Prop :=
  ∀ id, statusOf before.events id = some .completed → statusOf after.events id = some .completed

/-- Whatever is completed at some moment of the run is completed at every later one. -/
def CompletionsStay (events : List IngestEvent) : Prop :=
  ∀ earlier middle later, events = earlier ++ middle ++ later →
    CompletedStays (GuardedRuns.run (step python) .initial earlier)
      (GuardedRuns.run (step python) .initial (earlier ++ middle))

/-- `_update_existing_dead_letter` is what the attempt does next. -/
def updatesDeadLetter : AttemptPhase → Bool
  | .deadLetterUpdate _ | .deadLetterReupdate _ => true
  | _ => false

/-- The step does not update a completed event to a dead letter. -/
def SparesCompleted (state : IngestState) : IngestEvent → Prop
  | .record index _ =>
      ∀ attempt ∈ state.attempts[index]?, updatesDeadLetter attempt.phase = true →
        ∀ row ∈ state.events.rows, row.requestId = attempt.delivery.requestId →
          row.processingStatus ≠ .completed
  | _ => True

/-! ## Single writes -/

variable {now : DateTime} {data : WebhookEventInput}

/-- A row that was completed stays so. -/
def KeepsCompletion (row moved : WebhookEvent) : Prop :=
  row.processingStatus = .completed → moved.processingStatus = .completed

/-- All rows are still there, and the completed ones completed. -/
def KeepsCompletions (before after : EventTable) : Prop :=
  Table.Evolves KeepsCompletion (fun _ => True) before after

section Writes

variable {python} {events : EventTable}

theorem keepsCompletions_refl (events : EventTable) : KeepsCompletions events events :=
  Table.Evolves.refl (fun _ => id) events

theorem keepsCompletions_update {guard : WebhookEvent → Bool} {change : WebhookEvent → WebhookEvent}
    (keeps : ∀ row, (change row).id = row.id)
    (changes : ∀ row ∈ events.rows, guard row = true → KeepsCompletion row (change row)) :
    KeepsCompletions events (events.update guard change keeps) :=
  Table.Evolves.of_update keeps (fun _ => id) changes

theorem keepsCompletions_insertEvent {inserted : EventTable}
    (insertedEq : insertEvent now data events = some inserted) :
    KeepsCompletions events inserted := by
  unfold insertEvent at insertedEq
  split at insertedEq
  · contradiction
  · obtain rfl := Option.some.inj insertedEq
    exact Table.Evolves.of_insert _ (fun _ => id) trivial

theorem keepsCompletion_flushed {loaded current : WebhookEvent}
    (completes : data.processingStatus = .completed) :
    KeepsCompletion current (flushed now data loaded current) := by
  intro completed
  simp only [flushed, filled, flushColumn, completes]
  split
  · exact completed
  · rfl

theorem keepsCompletions_writeEvent {loaded : Option WebhookEvent} {written : EventTable}
    (completes : data.processingStatus = .completed)
    (writtenEq : writeEvent now data loaded events = some written) :
    KeepsCompletions events written := by
  cases loaded with
  | none => exact keepsCompletions_insertEvent writtenEq
  | some loaded =>
      obtain rfl := Option.some.inj writtenEq
      exact keepsCompletions_update _ fun _ _ _ => keepsCompletion_flushed completes

theorem withDuplicate_processingStatus (now : DateTime) (payload : SaveWebhookInput)
    (original : WebhookEvent) :
    (withDuplicate now payload original).processingStatus = original.processingStatus := by
  unfold withDuplicate
  simp only
  repeat' split
  all_goals rfl

theorem keepsCompletions_saveEvent {requestId : Option String} {payload : SaveWebhookInput}
    {duplicate : DuplicateStatus} {loaded : Option WebhookEvent} {saved : EventTable}
    (savedEq : saveEvent python now requestId payload duplicate loaded events = some saved) :
    KeepsCompletions events saved := by
  unfold saveEvent at savedEq
  split at savedEq
  · rename_i original found
    have counted : KeepsCompletions events
        (events.update (fun row => row.id = original.id) (withDuplicate now payload)
          (withDuplicate_id now payload)) := by
      apply keepsCompletions_update
      intro row _ _ completed
      rw [withDuplicate_processingStatus]
      exact completed
    exact counted.trans (fun _ _ _ first second completed => second (first completed))
      (fun _ _ _ _ => trivial) (keepsCompletions_writeEvent rfl savedEq)
  · exact keepsCompletions_writeEvent rfl savedEq

theorem keepsCompletions_updateExistingRetry (now : DateTime) (delivery : Delivery)
    (failure : Failure) (nextRetryAt : DateTime) :
    KeepsCompletions events (updateExistingRetry now delivery failure nextRetryAt events) := by
  apply keepsCompletions_update
  intro row _ selected completed
  simp [completed] at selected

theorem keepsCompletions_leaseRetry (scan : RetryScan) (id : Nat) :
    KeepsCompletions events (leaseRetry scan id events) := by
  apply keepsCompletions_update
  intro row _ _ completed
  exact completed

theorem keepsCompletions_updateExistingDeadLetter {delivery : Delivery} {failure : Failure}
    (spares : ∀ row ∈ events.rows, row.requestId = delivery.requestId →
      row.processingStatus ≠ .completed) :
    KeepsCompletions events (updateExistingDeadLetter now delivery failure events) := by
  apply keepsCompletions_update
  intro row member selected completed
  exact absurd completed (spares row member (of_decide_eq_true selected))

theorem statusOf_updateExistingDeadLetter {delivery : Delivery} {failure : Failure}
    {row : WebhookEvent} (member : row ∈ events.rows)
    (sameRequest : row.requestId = delivery.requestId) :
    statusOf (updateExistingDeadLetter now delivery failure events) row.id = some .deadLetter := by
  unfold statusOf updateExistingDeadLetter
  rw [Table.lookup_update, Table.mem_rows_iff_lookup.1 member]
  simp [sameRequest, deadLettered]

end Writes

/-! ## Steps -/

section Steps

variable {python} {state : IngestState}

theorem keepsCompletions_recordNext {attempt : Attempt} {events : EventTable}
    (spares : updatesDeadLetter attempt.phase = true → ∀ row ∈ events.rows,
      row.requestId = attempt.delivery.requestId → row.processingStatus ≠ .completed) :
    KeepsCompletions events (recordNext python now attempt events).1 := by
  obtain ⟨delivery, phase⟩ := attempt
  cases phase with
  | retryInsert | deadLetterInsert =>
      simp only [recordNext]
      split
      · exact keepsCompletions_insertEvent ‹_›
      · exact keepsCompletions_refl events
  | retryUpdate failure nextRetryAt =>
      exact keepsCompletions_updateExistingRetry now delivery failure nextRetryAt
  | deadLetterUpdate | deadLetterReupdate =>
      exact keepsCompletions_updateExistingDeadLetter (spares rfl)
  | processing | saving | afterSave | scheduling => exact keepsCompletions_refl events

theorem keepsCompletions_step {event : IngestEvent} (spares : SparesCompleted state event) :
    KeepsCompletions state.events (step python state event).events := by
  cases event with
  | deliver delivery => exact keepsCompletions_refl state.events
  | read | fail =>
      simp only [step]
      split <;> exact keepsCompletions_refl state.events
  | save index now payload duplicate =>
      simp only [step]
      split
      · rename_i delivery loaded found
        cases saved : saveEvent python now delivery.requestId payload duplicate loaded
          state.events with
        | some events => exact keepsCompletions_saveEvent saved
        | none => exact keepsCompletions_refl state.events
      · exact keepsCompletions_refl state.events
  | record index now =>
      simp only [step]
      split
      · rename_i attempt found
        exact keepsCompletions_recordNext (spares attempt found)
      · exact keepsCompletions_refl state.events
  | recordError | schedule =>
      simp only [step]
      split <;> exact keepsCompletions_refl state.events
  | scan now leaseUntil limit => exact keepsCompletions_refl state.events
  | lease index =>
      simp only [step]
      split
      · exact keepsCompletions_leaseRetry _ _
      · exact keepsCompletions_refl state.events

theorem completedStays_of_keepsCompletions {before after : IngestState}
    (keeps : KeepsCompletions before.events after.events) : CompletedStays before after := by
  intro id completed
  obtain ⟨row, found, status⟩ := Option.map_eq_some_iff.1 completed
  obtain ⟨moved, movedFound, move⟩ := keeps.lookup found
  rw [statusOf, movedFound]
  exact congrArg some (move status)

theorem completedStays_step_iff (event : IngestEvent) :
    CompletedStays state (step python state event) ↔ SparesCompleted state event := by
  constructor
  · intro stays
    cases event with
    | record index now =>
        intro attempt found updates row member sameRequest completed
        have before : statusOf state.events row.id = some .completed := by
          rw [statusOf, Table.mem_rows_iff_lookup.1 member]
          exact congrArg some completed
        have overwritten : (step python state (.record index now)).events =
            (recordNext python now attempt state.events).1 := by
          simp only [step, Option.mem_def.1 found]
        have after := stays row.id before
        rw [overwritten] at after
        obtain ⟨delivery, phase⟩ := attempt
        cases phase with
        | deadLetterUpdate | deadLetterReupdate =>
            simp only [recordNext] at after
            rw [statusOf_updateExistingDeadLetter member sameRequest] at after
            simp at after
        | _ => simp [updatesDeadLetter] at updates
    | _ => trivial
  · intro spares
    exact completedStays_of_keepsCompletions (keepsCompletions_step spares)

end Steps

/-! ## Runs -/

/-- In any interleaving of deliveries, saves, recorders and scans, completed events stay
completed just when no event is completed when the dead-letter recorder updates it. -/
theorem completionsStay_iff (events : List IngestEvent) :
    CompletionsStay python events ↔
      GuardedRuns.Along (step python) SparesCompleted .initial events := by
  have segments : GuardedRuns.Along (step python)
      (fun state event => CompletedStays state (step python state event)) .initial events ↔
        CompletionsStay python events :=
    GuardedRuns.along_relates_iff (fun _ _ completed => completed)
      fun _ _ _ first second id completed => second id (first id completed)
  rw [← segments]
  constructor
  · intro along
    exact along.mono fun _ event => (completedStays_step_iff event).1
  · intro along
    exact along.mono fun _ event => (completedStays_step_iff event).2

def overtakenSave : List IngestEvent :=
  [.deliver sampleDelivery, .deliver sampleDelivery, .read 1, .save 1 0 sampleSave ⟨false, none⟩]

def lateFailure : List IngestEvent :=
  [.fail 0 ⟨"bad payload", false⟩ 3 0, .record 0 1]

/-- The failure of an overtaken attempt makes a dead letter of the completed event. -/
theorem late_failure_overwrites_completed :
    ¬ ∀ (python : PythonRuntime) (events : List IngestEvent), CompletionsStay python events := by
  intro stays
  have stayed := stays .plain (overtakenSave ++ lateFailure) overtakenSave lateFailure []
    (List.append_nil _).symm 1 (by decide)
  exact absurd stayed (by decide)

end WebhookIngest

end WebhookWise

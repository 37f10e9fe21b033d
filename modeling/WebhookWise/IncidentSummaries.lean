import WebhookWise.GuardedRuns
import WebhookWise.PagedBacklogs
import WebhookWise.SqlTable
import WebhookWise.WorkflowUpdates
import Mathlib.Algebra.Order.Ring.Int
import Mathlib.Data.Int.ConditionallyCompleteOrder
import Mathlib.Data.Prod.Lex
import Mathlib.Order.ConditionallyCompleteLattice.Basic
import Mathlib.Order.WithBot

/-!
# Summaries of incidents as durable work

An incident that becomes quiet or closed is queued for a summary.  `run_pending_incident_summaries`
claims a batch under a lease and asks the model for each of them in turn.  Every transaction on the
rows is one step, and any number of calls may be under way, also on one incident.
-/

namespace WebhookWise

namespace IncidentSummaries

open GuardedRuns PagedBacklogs SqlTable Workflow

/-! ## The work of one incident -/

variable (now : DateTime)

def summaryBatchSize : Nat := 5

def summaryMaxAttempts : Nat := 5

def summaryLeaseSeconds : Int := 180

/-- The states in which the work of an incident has not ended. -/
def unfinished : List (Option String) := [some "pending", some "retrying", some "processing"]

/-- What `_claim_pending_summaries` asks of an incident, but for the clock and the attempts. -/
def isWaiting (incident : IncidentState) : Bool :=
  incident.status ∈ ["quiet", "closed"] && 2 ≤ incident.alertCount &&
    incident.summaryAnalysis.isNone && unfinished.contains incident.summary.status

def isDue (incident : IncidentState) : Bool :=
  match incident.summary.nextAttemptAt with
  | none => true
  | some dueAt => dueAt ≤ now

/-- The `WHERE` clause of `_claim_pending_summaries`. -/
def isClaimable (incident : IncidentState) : Bool :=
  isWaiting incident && isDue now incident && incident.summary.attempts < summaryMaxAttempts

/-- What `_claim_pending_summaries` writes. -/
def claimed (incident : IncidentState) : IncidentState :=
  { incident with
    summary :=
      { incident.summary with
        status := some "processing"
        attempts := incident.summary.attempts + 1
        nextAttemptAt := some (now.addSeconds summaryLeaseSeconds) } }

/-- What `summarize_incident` writes. -/
def completed (summaryData : JsonObject) (incident : IncidentState) : IncidentState :=
  { incident with
    summaryAnalysis := some summaryData
    summary :=
      { incident.summary with
        status := some "completed"
        nextAttemptAt := none
        lastError := none } }

/-- The error of `_mark_summary_retry`: a text, or an exception with what `ai_errors` says of it. -/
inductive SummaryError where
  | text (message : String)
  | raised (message : String) (isProviderRuntimeError isProviderRetryableError : Bool)

namespace SummaryError

def message : SummaryError → String
  | text message => message
  | raised message _ _ => message

/-- An error of the provider that another attempt would meet again. -/
def isTerminal : SummaryError → Bool
  | text _ => false
  | raised _ isProviderRuntimeError isProviderRetryableError =>
      isProviderRuntimeError && !isProviderRetryableError

end SummaryError

def retryDelaySeconds (attempts : Nat) : Int :=
  min 3600 (30 * 2 ^ (attempts - 1))

/-- `_mark_summary_retry`. -/
def retried (error : SummaryError) (incident : IncidentState) : IncidentState :=
  if incident.summaryAnalysis.isSome then incident
  else
    let message := some (truncated error.message 1000)
    if error.isTerminal ∨ summaryMaxAttempts ≤ incident.summary.attempts then
      { incident with
        summary :=
          { incident.summary with
            status := some "failed"
            nextAttemptAt := none
            lastError := message } }
    else
      { incident with
        summary :=
          { incident.summary with
            status := some "retrying"
            nextAttemptAt := some (now.addSeconds (retryDelaySeconds incident.summary.attempts))
            lastError := message } }

/-- The `WHERE` clause of `_skip_ineligible_summaries`. -/
def isIneligible (incident : IncidentState) : Bool :=
  incident.alertCount < 2 && incident.summaryAnalysis.isNone &&
    unfinished.contains incident.summary.status

/-- What `_skip_ineligible_summaries` writes. -/
def skipped (incident : IncidentState) : IncidentState :=
  { incident with
    summary :=
      { incident.summary with
        status := some "skipped"
        nextAttemptAt := none
        lastError := some "singleton incidents are not summarized" } }

inductive SettledStatus where
  | quiet
  | closed

def SettledStatus.text : SettledStatus → String
  | .quiet => "quiet"
  | .closed => "closed"

/-- An incident settles, and the same transaction calls `queue_summary_if_needed`. -/
def settled (python : PythonRuntime) (minImportance : String) (now : DateTime)
    (status : SettledStatus) (incident : IncidentState) : IncidentState :=
  let entering := { incident with status := status.text }
  { entering with summary := queueSummaryIfNeeded python minImportance now entering }

/-- `reopen_incident_endpoint`. -/
def reopened (incident : IncidentState) : IncidentState :=
  { incident with
    status := "active"
    endedAt := none
    summary := if incident.summaryAnalysis.isNone then ⟨none, 0, none, none⟩ else incident.summary }

/-- What `_retry_incident_summaries` selects. -/
def isRetriable (incident : IncidentState) : Bool :=
  [some "retrying", some "failed"].contains incident.summary.status

/-- What `_retry_incident_summaries` writes. -/
def requeued (now : DateTime) (incident : IncidentState) : IncidentState :=
  { incident with summary := ⟨some "pending", 0, some now, none⟩ }

/-- What scans, merges, splits and undos write of an incident, beside the summary. -/
def edited (status : String) (endedAt : Option DateTime) (alertCount : Nat)
    (topImportance : Option String) (incident : IncidentState) : IncidentState :=
  { incident with
    status := status
    endedAt := endedAt
    alertCount := alertCount
    topImportance := topImportance }

def opened (alertCount : Nat) (topImportance : Option String) : IncidentState where
  status := "active"
  endedAt := none
  alertCount := alertCount
  topImportance := topImportance
  summaryAnalysis := none
  summary := ⟨none, 0, none, none⟩

/-! ## Steps -/

/-- A row of `incidents`. -/
structure IncidentRow where
  id : Nat
  state : IncidentState

abbrev IncidentTable := Table IncidentRow.id

/-- `summary_next_attempt_at.asc(), id.asc()`, nulls last. -/
def IncidentRow.place (row : IncidentRow) : WithTop Int ×ₗ Nat :=
  toLex (match row.state.summary.nextAttemptAt with | some dueAt => ↑dueAt | none => ⊤, row.id)

/-- One `UPDATE`, or the flush of the rows which a session has changed. -/
def touched (incidents : IncidentTable) (guard : IncidentRow → Bool)
    (change : IncidentState → IncidentState) : IncidentTable :=
  incidents.update guard (fun row => { row with state := change row.state }) fun _ => rfl

/-- The rows, and for every call of `run_pending_incident_summaries` the incidents of its batch
which it has not finished, the current one first. -/
structure SummaryStore where
  incidents : IncidentTable
  calls : List (List Nat)

/-- What can happen.  `finish` and `fail` are the two outcomes of the current incident of a call;
`crash` is the end of a call at any point. -/
inductive Event where
  | create (alertCount : Nat) (topImportance : Option String)
  | edit (id : Nat) (status : String) (endedAt : Option DateTime) (alertCount : Nat)
      (topImportance : Option String)
  | settle (id : Nat) (status : SettledStatus) (minImportance : String) (now : DateTime)
  | reopen (id : Nat)
  | requeue (ids : List Nat) (now : DateTime)
  | summarize (id : Nat) (summaryData : JsonObject)
  | sweep
  | runPending (now : DateTime) (available : Bool)
  | finish (call : Nat) (summaryData : JsonObject)
  | fail (call : Nat) (error : SummaryError) (now : DateTime)
  | crash (call : Nat)

/-- `_skip_ineligible_summaries`. -/
def swept (incidents : IncidentTable) : IncidentTable :=
  touched incidents (fun row => isIneligible row.state) skipped

/-- The rows `_claim_pending_summaries` selects. -/
def pendingBatch (incidents : IncidentTable) : List IncidentRow :=
  page IncidentRow.place summaryBatchSize
    (incidents.rows.filter fun row => isClaimable now row.state)

/-- `_claim_pending_summaries`, which returns the ids. -/
def claimPendingSummaries (incidents : IncidentTable) : IncidentTable × List Nat :=
  let ids := (pendingBatch now incidents).map IncidentRow.id
  (touched incidents (fun row => row.id ∈ ids) (claimed now), ids)

def SummaryStore.current? (store : SummaryStore) (call : Nat) : Option Nat :=
  store.calls[call]?.bind List.head?

def SummaryStore.outcome (store : SummaryStore) (call : Nat)
    (change : IncidentState → IncidentState) : SummaryStore where
  incidents := touched store.incidents (fun row => some row.id = store.current? call) change
  calls := store.calls.modify call List.tail

variable (python : PythonRuntime)

def step (store : SummaryStore) : Event → SummaryStore
  | .create alertCount topImportance =>
      { store with
        incidents := store.incidents.insert (fun id => ⟨id, opened alertCount topImportance⟩)
          fun _ => rfl }
  | .edit id status endedAt alertCount topImportance =>
      { store with
        incidents := touched store.incidents (fun row => row.id = id)
          (edited status endedAt alertCount topImportance) }
  | .settle id status minImportance now =>
      { store with
        incidents := touched store.incidents (fun row => row.id = id)
          (settled python minImportance now status) }
  | .reopen id =>
      { store with incidents := touched store.incidents (fun row => row.id = id) reopened }
  | .requeue ids now =>
      { store with
        incidents := touched store.incidents (fun row => row.id ∈ ids && isRetriable row.state)
          (requeued now) }
  | .summarize id summaryData =>
      { store with
        incidents := touched store.incidents (fun row => row.id = id) (completed summaryData) }
  | .sweep => { store with incidents := swept store.incidents }
  | .runPending now available =>
      if available then
        let claim := claimPendingSummaries now (swept store.incidents)
        { incidents := claim.1, calls := store.calls ++ [claim.2] }
      else { store with incidents := swept store.incidents }
  | .finish call summaryData => store.outcome call (completed summaryData)
  | .fail call error now => store.outcome call (retried now error)
  | .crash call => { store with calls := store.calls.modify call fun _ => [] }

def emptyStore : SummaryStore where
  incidents := Table.empty
  calls := []

end IncidentSummaries

end WebhookWise

import WebhookWise.IncidentAlerts

/-!
# Workflow updates and their undo

`update_workflow` patches the workflow state of an alert or an incident and keeps a
transition with the JSON-safe state before and after; `undo_workflow` puts the state of
the latest transition back.  The database is that of one resource and its transitions.
-/

namespace WebhookWise

namespace Workflow

/-! ## Resources -/

/-- The durable summary-work state of an incident. -/
structure SummaryWork where
  status : Option String
  attempts : Nat
  nextAttemptAt : Option DateTime
  lastError : Option String
deriving DecidableEq

/-- What only an incident has. -/
structure IncidentState where
  status : String
  endedAt : Option DateTime
  alertCount : Nat
  topImportance : Option String
  summaryAnalysis : Option JsonObject
  summary : SummaryWork

/-- A row of `webhook_events`, or of `incidents` when it has an incident state.  The ORM
stamps `updated_at` at every flush that writes the row. -/
structure Resource where
  id : Nat
  workflowStatus : String
  assignee : Option String
  team : Option String
  acknowledgedAt : Option DateTime
  resolvedAt : Option DateTime
  slaDueAt : Option DateTime
  incident : Option IncidentState
  updatedAt : Option DateTime

/-- The fields of `_SNAPSHOT_FIELDS`, and for an incident those of
`_INCIDENT_SNAPSHOT_FIELDS`, the status and `ended_at`. -/
structure Tracked where
  workflowStatus : String
  assignee : Option String
  team : Option String
  acknowledgedAt : Option DateTime
  resolvedAt : Option DateTime
  slaDueAt : Option DateTime
  incident : Option (String × Option DateTime)
deriving DecidableEq

def Resource.tracked (resource : Resource) : Tracked where
  workflowStatus := resource.workflowStatus
  assignee := resource.assignee
  team := resource.team
  acknowledgedAt := resource.acknowledgedAt
  resolvedAt := resource.resolvedAt
  slaDueAt := resource.slaDueAt
  incident := resource.incident.map fun incident => (incident.status, incident.endedAt)

def Resource.summary (resource : Resource) : Option SummaryWork :=
  resource.incident.map IncidentState.summary

/-- The tracked fields as JSON-safe values. -/
structure Snapshot where
  workflowStatus : String
  assignee : Option String
  team : Option String
  acknowledgedAt : Option String
  resolvedAt : Option String
  slaDueAt : Option String
  incident : Option (String × Option String)
deriving DecidableEq

def snapshot (resource : Resource) : Snapshot where
  workflowStatus := resource.workflowStatus
  assignee := resource.assignee
  team := resource.team
  acknowledgedAt := resource.acknowledgedAt.map DateTime.utcIsoformat
  resolvedAt := resource.resolvedAt.map DateTime.utcIsoformat
  slaDueAt := resource.slaDueAt.map DateTime.utcIsoformat
  incident := resource.incident.map fun incident =>
    (incident.status, incident.endedAt.map DateTime.utcIsoformat)

variable (python : PythonRuntime)

/-- `datetime.fromisoformat(value.replace("Z", "+00:00")).replace(tzinfo=None)`, of a value
that may be `None`; the outer `none` is `ValueError`. -/
def restoredInstant (value : Option String) : Option (Option DateTime) :=
  match value with
  | none => some none
  | some text => (python.fromIsoformat (replaceZulu text)).map fun read => some read.wallClock

/-- `_restore`, with `updated_at` as the flush stamps it; `none` is `ValueError`. -/
def restore (resource : Resource) (state : Snapshot) (now : DateTime) : Option Resource := do
  let acknowledgedAt ← restoredInstant python state.acknowledgedAt
  let resolvedAt ← restoredInstant python state.resolvedAt
  let slaDueAt ← restoredInstant python state.slaDueAt
  let incident ←
    match state.incident, resource.incident with
    | some (status, endedAt), some incident =>
        (restoredInstant python endedAt).map fun endedAt =>
          some { incident with status := status, endedAt := endedAt }
    -- A row of `webhook_events` has no such attribute.
    | _, incident => some incident
  return { resource with
    workflowStatus := state.workflowStatus
    assignee := state.assignee
    team := state.team
    acknowledgedAt := acknowledgedAt
    resolvedAt := resolvedAt
    slaDueAt := slaDueAt
    incident := incident
    updatedAt := some now }

/-! ## The summary of an incident -/

/-- `_importance_earns_summary`, where `minImportance` is the setting. -/
def importanceEarnsSummary (minImportance : String) (importance : Option String) : Bool :=
  IncidentGrouping.importanceOpensIncident python importance
    (IncidentGrouping.incidentMinImportance python minImportance)

def queueSummaryIfNeeded (minImportance : String) (now : DateTime) (incident : IncidentState) :
    SummaryWork :=
  if incident.summaryAnalysis.isSome then incident.summary
  else if 2 ≤ incident.alertCount ∧
      importanceEarnsSummary python minImportance incident.topImportance = false then
    { incident.summary with
      status := some "skipped"
      nextAttemptAt := none
      lastError := some "incident importance below INCIDENT_SUMMARY_MIN_IMPORTANCE" }
  else if 2 ≤ incident.alertCount then
    { status := some "pending", attempts := 0, nextAttemptAt := some now, lastError := none }
  else
    { incident.summary with
      status := some "skipped"
      nextAttemptAt := none
      lastError := some "singleton incidents are not summarized" }

/-! ## Updates -/

/-- The patch of `update_workflow`; `assignee` and `team` are `some` when the key is present. -/
structure WorkflowChanges where
  workflowStatus : Option String
  assignee : Option (Option String)
  team : Option (Option String)
  clearSla : Bool
  slaMinutes : Option Int

/-- One call of `update_workflow`, with the clock it reads, the instant of its flush and the
setting `INCIDENT_SUMMARY_MIN_IMPORTANCE`. -/
structure WorkflowUpdate where
  changes : WorkflowChanges
  actor : String
  now : DateTime
  flushedAt : DateTime
  minImportance : String

def terminalWorkflowStatuses : List String :=
  ["resolved", "ignored"]

def incidentWithStatus (minImportance : String) (now : DateTime) (newStatus : String)
    (incident : IncidentState) : IncidentState :=
  if newStatus ∈ terminalWorkflowStatuses then
    { incident with
      status := "closed"
      endedAt := some (incident.endedAt.getD now)
      summary := queueSummaryIfNeeded python minImportance now incident }
  else if newStatus = "open" ∧ incident.status = "closed" then
    { incident with status := "active", endedAt := none }
  else incident

def withStatus (minImportance : String) (now : DateTime) (newStatus : String)
    (resource : Resource) : Resource :=
  { resource with
    workflowStatus := newStatus
    acknowledgedAt :=
      if newStatus ∈ ["acknowledged", "in_progress"] ∧ resource.acknowledgedAt = none then some now
      else resource.acknowledgedAt
    resolvedAt :=
      if newStatus ∈ terminalWorkflowStatuses then some now
      else if newStatus = "open" then none
      else resource.resolvedAt
    incident := resource.incident.map (incidentWithStatus python minImportance now newStatus) }

/-- `str(value or "").strip() or None`. -/
def strippedOrNone (value : Option String) : Option String :=
  let name := strip (value.getD "")
  if name = "" then none else some name

/-- The assignments of `update_workflow` to the resource.  The recap card which a resolution
queues is a row of its own. -/
def patched (update : WorkflowUpdate) (resource : Resource) : Resource :=
  let resource :=
    match update.changes.workflowStatus with
    | none => resource
    | some newStatus =>
        if newStatus = "" then resource
        else withStatus python update.minImportance update.now newStatus resource
  { resource with
    assignee := update.changes.assignee.elim resource.assignee strippedOrNone
    team := update.changes.team.elim resource.team strippedOrNone
    slaDueAt :=
      if update.changes.clearSla then none
      else update.changes.slaMinutes.elim resource.slaDueAt fun minutes =>
        some (update.now.addMinutes minutes) }

/-- A row of `workflow_transitions` of the resource. -/
structure WorkflowTransition where
  beforeState : Snapshot
  afterState : Snapshot
  applied : Bool
  actor : String
  undoneAt : Option DateTime
deriving DecidableEq

/-- A resource and its transitions, the latest first. -/
structure WorkflowDatabase where
  resource : Resource
  transitions : List WorkflowTransition

def updateWorkflow (database : WorkflowDatabase) (update : WorkflowUpdate) : WorkflowDatabase :=
  let before := snapshot database.resource
  let resource := patched python update database.resource
  let after := snapshot resource
  { resource := { resource with
      updatedAt :=
        if resource.tracked = database.resource.tracked ∧
            resource.summary = database.resource.summary then
          database.resource.updatedAt
        else some update.flushedAt }
    transitions :=
      if after ≠ before then
        { beforeState := before
          afterState := after
          applied := true
          actor := update.actor
          undoneAt := none } :: database.transitions
      else database.transitions }

/-! ## Undo -/

inductive UndoResult where
  | nothingToUndo
  | changedSince
  | undone
  | valueError
deriving DecidableEq

/-- The transition `undo_workflow` selects. -/
def latestApplied (transitions : List WorkflowTransition) : Option WorkflowTransition :=
  transitions.find? (·.applied)

def markUndone (now : DateTime) : List WorkflowTransition → List WorkflowTransition
  | [] => []
  | transition :: transitions =>
      if transition.applied then
        { transition with applied := false, undoneAt := some now } :: transitions
      else transition :: markUndone now transitions

def undoWorkflow (database : WorkflowDatabase) (now : DateTime) : UndoResult × WorkflowDatabase :=
  match latestApplied database.transitions with
  | none => (.nothingToUndo, database)
  | some transition =>
      if snapshot database.resource ≠ transition.afterState then (.changedSince, database)
      else
        match restore python database.resource transition.beforeState now with
        | none => (.valueError, database)
        | some resource =>
            (.undone,
              { resource := resource, transitions := markUndone now database.transitions })

end Workflow

end WebhookWise

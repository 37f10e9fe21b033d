import WebhookWise.RemediationProposals
import WebhookWise.WorkflowUpdates
import WebhookWise.IdempotencyReceipts

/-!
# Actions from Feishu cards

A verified card callback acts on an incident or decides a remediation proposal, under a
receipt for its event id.  An action on an incident and its receipt are one transaction.  A
decision commits on its own: its first commit publishes the receipt while its status is
still `processing` and its result empty.
-/

namespace WebhookWise

open Remediation

namespace CardActions

/-! ## Callbacks and receipts -/

/-- `_ALLOWED_ACTIONS`; a note comes with the text of the form. -/
inductive IncidentAction where
  | acknowledge
  | resolve
  | addNote (text : String)
  | silence

def IncidentAction.text : IncidentAction → String
  | acknowledge => "acknowledge"
  | resolve => "resolve"
  | addNote _ => "add_note"
  | silence => "silence_2h"

inductive CardTarget where
  | incident (action : IncidentAction) (id : Nat)
  | proposal (approve : Bool) (id : Nat)

/-- A callback whose signature, freshness, tenant and operator have been verified. -/
structure Callback where
  eventId : String
  payloadSha256 : String
  operator : String
  target : CardTarget

/-- A row of `integration_action_receipts` of Feishu. -/
structure ActionReceipt where
  eventId : String
  payloadSha256 : String
  action : String
  resourceType : String
  resourceId : Nat
  actor : String
  status : String
  result : JsonObject

def receiptOf (callback : Callback) (status : String) (result : JsonObject) : ActionReceipt :=
  let (action, resourceType, resourceId) :=
    match callback.target with
    | .incident action id => (action.text, "incident", id)
    | .proposal approve id => (if approve then "approve" else "reject", "remediation_proposal", id)
  { eventId := callback.eventId
    payloadSha256 := callback.payloadSha256
    action := action
    resourceType := resourceType
    resourceId := resourceId
    actor := callback.operator
    status := status
    result := result }

private def toast (kind content : String) : Json :=
  .dict [("type", .str kind), ("content", .str content)]

/-! ## Incidents -/

structure CardIncident where
  id : Nat
  workflowStatus : String
  assignee : Option String
  acknowledgedAt : Option DateTime
  resolvedAt : Option DateTime
  source : Option String
  correlationDimensions : JsonObject
  state : Workflow.IncidentState

/-- What an action leaves besides the incident. -/
inductive CardEffect where
  | recap (incidentId : Nat) (resolver : String)
  | silence (id : Nat) (source project environment comment createdBy : String)
      (expiresAt : DateTime)
  | note (incidentId : Nat) (body actor : String) (createdAt : DateTime)

/-- What a transaction meets: the clock, the id of a silence it inserts, whether a resolution
queues a recap, and what a command meets. -/
structure Moment where
  now : DateTime
  silenceId : Nat
  queuesRecap : Bool
  surroundings : Surroundings

structure CardSettings where
  python : PythonRuntime
  minImportance : String
  verifyDelaySeconds : Int

structure IncidentOutcome where
  incident : CardIncident
  effects : List CardEffect
  message : String
  changed : Bool

variable (settings : CardSettings)

/-- `str(value).strip()` of the dimensions that are strings with some text. -/
def silenceDimension (incident : CardIncident) (key : String) : String :=
  match incident.correlationDimensions.get? key with
  | some (.str text) => strip text
  | _ => ""

private def acknowledged (moment : Moment) (operator : String) (incident : CardIncident) :
    IncidentOutcome :=
  let name := "Incident #" ++ toString incident.id
  if incident.workflowStatus = "resolved" ∨ incident.workflowStatus = "ignored" then
    ⟨incident, [], name ++ " is already " ++ incident.workflowStatus, false⟩
  else if incident.workflowStatus = "acknowledged" ∨ incident.workflowStatus = "in_progress" then
    ⟨incident, [], name ++ " is already acknowledged", false⟩
  else
    ⟨{ incident with
        workflowStatus := "acknowledged"
        acknowledgedAt := some (incident.acknowledgedAt.getD moment.now)
        assignee := some ((incident.assignee.filter (· ≠ "")).getD operator) },
      [], name ++ " acknowledged and assigned to you", true⟩

private def resolved (moment : Moment) (operator : String) (incident : CardIncident) :
    IncidentOutcome :=
  let name := "Incident #" ++ toString incident.id
  if incident.workflowStatus = "resolved" then
    ⟨incident, [], name ++ " is already resolved", false⟩
  else
    let closed :=
      { incident.state with
        status := "closed"
        endedAt := some (incident.state.endedAt.getD moment.now) }
    ⟨{ incident with
        workflowStatus := "resolved"
        resolvedAt := some (incident.resolvedAt.getD moment.now)
        state :=
          { closed with
            summary := Workflow.queueSummaryIfNeeded settings.python settings.minImportance
              moment.now closed } },
      if moment.queuesRecap then [.recap incident.id operator] else [], name ++ " resolved", true⟩

private def silenced (moment : Moment) (operator : String) (incident : CardIncident) :
    IncidentOutcome :=
  let name := "Incident #" ++ toString incident.id
  let source := strip (incident.source.getD "")
  let project := silenceDimension incident "project"
  let environment := silenceDimension incident "environment"
  if source = "" ∧ project = "" ∧ environment = "" then
    ⟨incident, [], name ++ " has no match dimensions; create the silence from the dashboard", false⟩
  else
    let scope := " ".intercalate ([source, project, environment].filter (· ≠ ""))
    ⟨incident,
      [.silence moment.silenceId source project environment
        ("Quick silence (2h) from Feishu card, incident #" ++ toString incident.id) operator
        (moment.now.addMinutes 120)],
      "Silence #" ++ toString moment.silenceId ++ " created for " ++ scope ++ ", expires in 2h",
      true⟩

private def noted (moment : Moment) (operator text : String) (incident : CardIncident) :
    Except String IncidentOutcome :=
  let body := strip text
  if body = "" then .error "A note is required"
  else if 2000 < body.length then .error "Note exceeds 2000 characters"
  else
    .ok ⟨incident, [.note incident.id body operator moment.now],
      "Note added to incident #" ++ toString incident.id, true⟩

/-- The body of `process_incident_card_action`, for an incident that exists; a
`FeishuActionError` is an error. -/
def applyIncidentAction (moment : Moment) (operator : String) (incident : CardIncident) :
    IncidentAction → Except String IncidentOutcome
  | .acknowledge => .ok (acknowledged moment operator incident)
  | .resolve => .ok (resolved settings moment operator incident)
  | .silence => .ok (silenced moment operator incident)
  | .addNote text => noted moment operator text incident

def resultPayload (outcome : IncidentOutcome) : JsonObject :=
  [("toast", toast "success" outcome.message), ("incident_id", .int outcome.incident.id),
    ("workflow_status", .str outcome.incident.workflowStatus), ("changed", .bool outcome.changed)]

def missingIncident (id : Nat) : JsonObject :=
  [("toast", toast "error" ("Incident #" ++ toString id ++ " was not found")),
    ("incident_id", .int id), ("changed", .bool false)]

/-! ## Proposals -/

def proposalToast (row : Proposal) : Json :=
  let name := "Proposal #" ++ toString row.id
  match row.status with
  | .rejected => toast "success" (name ++ " rejected")
  | .failed => toast "error" (name ++ " was approved but execution failed")
  | .approved =>
      if JsonObject.truthyAt row.result "changed" then
        toast "success" (name ++ " approved and executed")
      else toast "warning" (name ++ " approved; the command changed nothing")
  | _ => toast "success" (name ++ " approved and executed")

def decisionResult (id : Nat) (row : Proposal) : JsonObject :=
  [("toast", proposalToast row), ("proposal_id", .int id), ("status", .str row.status.text),
    ("changed", .bool (JsonObject.truthyAt row.result "changed"))]

/-- The command acts before it commits: it requeues in a session of its own, gives tasks to the
broker, or sends a test. -/
def actsUncommitted : RemediationAction → Bool
  | .retryOutbox | .retryDeadLetters | .retryStuckEvents | .testEnableRule => true
  | .retryIncidentSummaries | .disableRule | .acknowledge => false

def staleResult (id : Nat) (message : String) : JsonObject :=
  [("toast", toast "error" message), ("proposal_id", .int id), ("changed", .bool false)]

/-! ## Deliveries -/

inductive CardAnswer where
  | result (result : JsonObject)
  /-- `FeishuActionConflict`. -/
  | conflict
  /-- `FeishuActionError`, whose transaction is rolled back. -/
  | refused (message : String)

inductive CardPhase where
  | fresh
  /-- No receipt was found. -/
  | looked
  /-- The receipt is flushed, and not committed. -/
  | inserted
  | executing (approval : Approval)
  /-- The decision is committed; the receipt gets this status and result next. -/
  | concluding (status : String) (result : JsonObject)
  | answered (answer : CardAnswer)
  | crashed

/-- The committed rows, the event ids of receipts that are flushed and not committed, the row
locks on proposals, the deliveries, and those of them whose action was applied. -/
structure CardState where
  receipts : List ActionReceipt
  incidents : Nat → Option CardIncident
  proposals : Nat → Option Proposal
  effects : List CardEffect
  inserting : PyDict Nat
  locks : Nat → Option Nat
  phases : Nat → CardPhase
  applied : List Nat

inductive CardEvent where
  /-- `_existing_receipt`. -/
  | lookup (delivery : Nat)
  /-- The flush of the receipt. -/
  | insert (delivery : Nat)
  /-- The transaction goes on to its next commit, or to the command. -/
  | proceed (delivery : Nat) (moment : Moment)
  | crash (delivery : Nat)

def answerFrom (callback : Callback) (receipt : ActionReceipt) : CardAnswer :=
  if receipt.payloadSha256 = callback.payloadSha256 then .result receipt.result else .conflict

namespace CardState

variable (state : CardState)

def existingReceipt (callback : Callback) : Option ActionReceipt :=
  state.receipts.find? fun receipt => receipt.eventId = callback.eventId

def setPhase (delivery : Nat) (phase : CardPhase) : CardState :=
  { state with phases := Function.update state.phases delivery phase }

def commitReceipt (callback : Callback) (status : String) (result : JsonObject) : CardState :=
  { state with
    receipts := state.receipts ++ [receiptOf callback status result]
    inserting := state.inserting.without callback.eventId }

def completeReceipt (callback : Callback) (status : String) (result : JsonObject) : CardState :=
  { state with
    receipts := state.receipts.map fun receipt =>
      if receipt.eventId = callback.eventId then { receipt with status := status, result := result }
      else receipt }

def rollback (callback : Callback) : CardState :=
  { state with inserting := state.inserting.without callback.eventId }

def apply (delivery : Nat) : CardState :=
  { state with applied := delivery :: state.applied }

def setProposal (id : Nat) (row : Proposal) : CardState :=
  { state with proposals := Function.update state.proposals id (some row) }

def setLock (id : Nat) (holder : Option Nat) : CardState :=
  { state with locks := Function.update state.locks id holder }

def unlock (id delivery : Nat) : CardState :=
  state.setLock id ((state.locks id).filter (· ≠ delivery))

/-- The first commit of an approval: with the receipt goes what its command has done in the
session. -/
def publish (delivery : Nat) (callback : Callback) (approval : Approval) : CardState :=
  if approval.committed then state
  else
    let published := state.commitReceipt callback "processing" []
    if actsUncommitted approval.row.action then published else published.apply delivery

/-- A receipt and an answer in one transaction. -/
def decline (delivery : Nat) (callback : Callback) (result : JsonObject) : CardState :=
  (state.commitReceipt callback "rejected" result).setPhase delivery (.answered (.result result))

end CardState

def actOnIncident (state : CardState) (delivery : Nat) (callback : Callback) (moment : Moment)
    (action : IncidentAction) (id : Nat) : CardState :=
  match state.incidents id with
  | none => state.decline delivery callback (missingIncident id)
  | some incident =>
      match applyIncidentAction settings moment callback.operator incident action with
      | .error message =>
          (state.rollback callback).setPhase delivery (.answered (.refused message))
      | .ok outcome =>
          let result := resultPayload outcome
          let committed := state.commitReceipt callback "completed" result
          ({ committed with
              incidents := Function.update state.incidents id (some outcome.incident)
              effects := state.effects ++ outcome.effects }.setPhase delivery
            (.answered (.result result))).apply delivery

/-- The decision up to its first commit, or up to the command. -/
def openProposal (state : CardState) (delivery : Nat) (callback : Callback) (moment : Moment)
    (approve : Bool) (id : Nat) : CardState :=
  match state.proposals id, state.locks id with
  | none, _ =>
      state.decline delivery callback
        (staleResult id ("Proposal #" ++ toString id ++ " was not found"))
  | some row, none =>
      let actor := truncated ("feishu:" ++ callback.operator) 100
      match openDecision row approve actor moment.now with
      | .conflict message => state.decline delivery callback (staleResult id message)
      | .expired row message =>
          ((state.commitReceipt callback "processing" []).setProposal id row).setPhase delivery
            (.concluding "rejected" (staleResult id message))
      | .rejected row =>
          (((state.commitReceipt callback "processing" []).setProposal id row).setPhase delivery
            (.concluding "completed" (decisionResult id row))).apply delivery
      | .approved row =>
          let begun := (state.setLock id (some delivery)).setPhase delivery
            (.executing ⟨row, runRemediation row moment.surroundings, false⟩)
          if actsUncommitted row.action then begun.apply delivery else begun
  | some _, some _ => state

/-- The command commits, or ends and the decision is committed. -/
def executeProposal (state : CardState) (delivery : Nat) (callback : Callback)
    (approval : Approval) (id : Nat) : CardState :=
  if state.locks id = none ∨ state.locks id = some delivery then
    match state.proposals id with
    | none => state
    | some current =>
        let row :=
          if approval.committed then current
          else
            { current with
              decidedBy := approval.row.decidedBy
              decidedAt := approval.row.decidedAt }
        let published := state.publish delivery callback approval
        if approval.execution.commits ∧ ¬ approval.committed then
          ((published.setProposal id row).setLock id none).setPhase delivery
            (.executing { approval with committed := true })
        else
          let conclude := concluded settings.verifyDelaySeconds approval.execution.outcome
          ((published.setProposal id (conclude row)).setLock id none).setPhase delivery
            (.concluding "completed" (decisionResult id (conclude approval.row)))
  else state

variable (callbacks : Nat → Callback)

def answered (state : CardState) (delivery : Nat) (receipt : ActionReceipt) : CardState :=
  state.setPhase delivery (.answered (answerFrom (callbacks delivery) receipt))

def step (state : CardState) : CardEvent → CardState
  | .lookup delivery =>
      match state.phases delivery, state.existingReceipt (callbacks delivery) with
      | .fresh, some receipt => answered callbacks state delivery receipt
      | .fresh, none => state.setPhase delivery .looked
      | _, _ => state
  | .insert delivery =>
      let callback := callbacks delivery
      match state.phases delivery, state.inserting.get? callback.eventId,
        state.existingReceipt callback with
      -- The unique constraint fails; the transaction is rolled back and looks again.
      | .looked, none, some receipt => answered callbacks state delivery receipt
      | .looked, none, none =>
          { state.setPhase delivery .inserted with
            inserting := state.inserting.set callback.eventId delivery }
      | _, _, _ => state
  | .proceed delivery moment =>
      let callback := callbacks delivery
      match state.phases delivery, callback.target with
      | .inserted, .incident action id =>
          actOnIncident settings state delivery callback moment action id
      | .inserted, .proposal approve id =>
          openProposal state delivery callback moment approve id
      | .executing approval, .proposal _ id =>
          executeProposal settings state delivery callback approval id
      | .concluding status result, _ =>
          (state.completeReceipt callback status result).setPhase delivery
            (.answered (.result result))
      | _, _ => state
  | .crash delivery =>
      let callback := callbacks delivery
      match state.phases delivery, callback.target with
      | .inserted, _ => (state.rollback callback).setPhase delivery .crashed
      | .executing approval, .proposal _ id =>
          let unlocked := state.unlock id delivery
          (if approval.committed then unlocked else unlocked.rollback callback).setPhase delivery
            .crashed
      | .answered _, _ => state
      | _, _ => state.setPhase delivery .crashed

/-- The database before the first delivery. -/
def CardState.initial (incidents : Nat → Option CardIncident)
    (proposals : Nat → Option Proposal) : CardState :=
  ⟨[], incidents, proposals, [], [], fun _ => none, fun _ => .fresh, []⟩

end CardActions

end WebhookWise

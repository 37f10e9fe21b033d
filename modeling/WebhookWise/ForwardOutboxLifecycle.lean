import WebhookWise.DeepAnalysisGateways
import WebhookWise.ForwardOutboxStatements

/-!
# The outbox lifecycle

Any number of workers claim rows, deliver them alone or as a digest group, and settle them; scans
expire old rows and return stale ones; an operator may requeue a row.  Every transaction is atomic,
and events come in any order, with any outcome, clock reading and policy.
-/

namespace WebhookWise

open SqlTable ForwardChannels ForwardOutboxRecords ForwardOutboxStatements DeepAnalysisGateways

/-- What the outbox services read of their surroundings. -/
structure OutboxEnvironment where
  python : PythonRuntime
  gateways : DeepAnalysisSettings
  promptVersion : String
  /-- `compute_deep_analysis_poll_delay(0)`. -/
  initialPollDelay : Int

/-- The columns of `webhook_events` which the outbox writes. -/
structure WebhookEventNotice where
  id : Nat
  forwardStatus : Option String
  lastNotifiedAt : Option DateTime

/-- The columns of `forward_rules` which the outbox reads or writes. -/
structure ForwardRule where
  id : Nat
  name : String
  enabled : Bool
  updatedAt : DateTime

/-- An activity row: resource id, resource name and summary. -/
structure AuditRecord where
  resourceId : Nat
  resourceName : String
  summary : String

/-- A row of `deep_analyses` which the success finalizer inserts.  The outbox row
it belongs to is not a column. -/
structure FollowUp extends DeepAnalysis where
  outboxId : Nat

variable (env : OutboxEnvironment) (policy : ForwardDeliveryPolicy) (now : DateTime)

structure Database where
  outboxes : OutboxTable
  followUps : Table fun followUp : FollowUp => followUp.id
  webhookEvents : Table WebhookEventNotice.id
  forwardRules : Table ForwardRule.id
  audits : List AuditRecord

namespace ForwardOutboxLifecycle

/-! ## Transactions -/

/-- `_claim_outbox`: a row over age is expired and not claimed. -/
def claimOutbox (outboxId : Nat) (table : OutboxTable) : OutboxTable × Option ForwardOutbox :=
  match (table.returning (expiresIfOld policy now outboxId) (expired policy now)).head? with
  | some _ => (expireIfOld table policy now outboxId, none)
  | none =>
      (claimOne table now outboxId, (table.returning (isClaimable now outboxId) (claimed now)).head?)

def claimDigestSiblings (leader : ForwardOutbox) (table : OutboxTable) :
    OutboxTable × List ForwardOutbox :=
  let ids := dueSiblings now leader table
  (claimListed table now ids,
    (table.returning (fun row => ids.contains row.id) (claimed now)).insertionSort
      fun first second => first.id ≤ second.id)

/-- `UPDATE webhook_events … WHERE id IN eventIds`. -/
def updateEvents (events : Table WebhookEventNotice.id) (eventIds : List Nat)
    (change : WebhookEventNotice → WebhookEventNotice)
    (keeps : ∀ event, (change event).id = event.id) : Table WebhookEventNotice.id :=
  events.update (fun event => eventIds.contains event.id) change keeps

/-- `_resolved_gateway`: platform and gateway name for the row of a run. -/
def resolvedGateway (gatewayName : String) : String × String :=
  match resolveGateway env.python env.gateways (some gatewayName) with
  | .ok gateway => (gateway.platform, gateway.name)
  | .error _ => (configuredDeepAnalysisPlatform env.python env.gateways, gatewayName)

def followUpRow (current : ForwardOutbox) (webhookEventId : Nat) (result : JsonObject) (id : Nat) :
    FollowUp where
  id := id
  outboxId := current.id
  webhookEventId := webhookEventId
  engine := (resolvedGateway env current.targetGateway).1
  gatewayName := (resolvedGateway env current.targetGateway).2
  gatewayRunId := some (JsonObject.strAt env.python result "_gateway_run_id" "")
  gatewaySessionKey := some (JsonObject.strAt env.python result "_gateway_session_key" "")
  promptVersion := env.promptVersion
  pseudonymMap :=
    match PyDict.get? result "pseudonym_map" with
    | some (.dict tokens) => some tokens
    | _ => none
  status := .pending
  analysisResult := none
  durationSeconds := 0
  pollAttempts := 0
  nextPollAt := some (now.addSeconds env.initialPollDelay)
  lastPolledAt := none
  createdAt := some now

inductive SuccessEnd where
  /-- Another finalizer settled the row before. -/
  | alreadySettled
  /-- The follow-up row violates a constraint, and the transaction is rolled back. -/
  | rolledBack
  | settled (database : Database) (current : ForwardOutbox)

def finalizeOutboxSuccess (record : ForwardOutbox) (result : JsonObject) (database : Database) :
    SuccessEnd :=
  match (database.outboxes.returning (isUnsettled record.id) (sent now)).head? with
  | none => .alreadySettled
  | some current =>
      let notified : Database :=
        { database with
          outboxes := storeResponse (markSent database.outboxes now record.id) now current.id
            (result.without "pseudonym_map")
          webhookEvents := updateEvents database.webhookEvents current.relatedWebhookEventIds
            (fun event => { event with lastNotifiedAt := some now, forwardStatus := some "sent" })
            fun _ => rfl }
      if (resolveChannel env.python current).needsFollowupOnSuccess result then
        match current.webhookEventId with
        -- `deep_analyses.webhook_event_id` is NOT NULL.
        | none => .rolledBack
        | some webhookEventId =>
            .settled
              { notified with
                followUps := database.followUps.insert
                  (followUpRow env now current webhookEventId result) fun _ => rfl }
              current
      else .settled notified current

/-- Disabling the rule whose target is permanently broken, when it still exists
and is enabled. -/
def quarantine (now : DateTime) (failure : DeliveryFailure) (record : ForwardOutbox)
    (database : Database) : Database :=
  match record.forwardRuleId with
  | none => database
  | some ruleId =>
      match failure.quarantineRule, database.forwardRules.lookup ruleId with
      | true, some rule =>
          if rule.enabled then
            { database with
              forwardRules := database.forwardRules.update (fun row => row.id = ruleId)
                (fun row => { row with enabled := false, updatedAt := now }) fun _ => rfl
              audits := database.audits ++ [⟨rule.id, truncated rule.name 200,
                truncated ("Forward rule auto-disabled after permanent delivery failure: " ++
                  truncated failure.errorMessage 300) 500⟩] }
          else database
      | _, _ => database

def finalizeOutboxFailure (outboxId : Nat) (failure : DeliveryFailure) (database : Database) :
    Database :=
  match database.outboxes.lookup outboxId with
  | none => database
  | some record =>
      if record.status.isTerminal then database
      else
        let written : Database :=
          { database with
            outboxes := database.outboxes.update (fun row => row.id = outboxId)
              (failed policy now failure) (failed_id policy now failure) }
        if exhausts failure record then
          quarantine now failure record
            { written with
              webhookEvents := updateEvents database.webhookEvents record.relatedWebhookEventIds
                (fun event => { event with forwardStatus := some "failed" }) fun _ => rfl }
        else written

def leaderRetryAt (leaderId : Nat) (table : OutboxTable) : Option DateTime :=
  match table.lookup leaderId with
  | none => none
  | some leader => if leader.status = .retrying then leader.nextAttemptAt else none

def parkDigestSiblings (leaderId : Nat) (siblings : List ForwardOutbox) (error : String)
    (database : Database) : Database :=
  let ids := siblings.map ForwardOutbox.id
  if ids.isEmpty then database
  else
    match leaderRetryAt leaderId database.outboxes with
    | some retryAt => { database with outboxes := parkListed database.outboxes now retryAt error ids }
    | none =>
        { database with
          outboxes := exhaustListed database.outboxes now error ids
          webhookEvents := updateEvents database.webhookEvents
            (siblings.flatMap ForwardOutbox.relatedWebhookEventIds)
            (fun event => { event with forwardStatus := some "failed" }) fun _ => rfl }

/-- The statements of `run_forward_outbox_scan` which write. -/
def runForwardOutboxScan (limit : Nat) (table : OutboxTable) : OutboxTable :=
  recoverStale (expireListed table policy now (dueForExpiry policy now limit table)) policy now

/-! ## Workers -/

/-- The two callers which deliver a claimed row: `process_forward_outbox_by_id`
and `_deliver_one`.  They differ in the text of an error. -/
inductive DeliveryEntry where
  | scheduled
  | synchronous
deriving DecidableEq

/-- What a digest delivery puts on the wire, as far as routing goes. -/
structure DigestMessage where
  targetUrl : String
  recordIds : List Nat
  windowStart : DateTime
  windowEnd : DateTime
deriving DecidableEq

inductive DeliveryOutcome where
  | raised (message : String)
  | returned (result : JsonObject)

/-- A transaction which a worker still has to run. -/
inductive FinalizeTask where
  /-- The digest message which the success is about is not an argument of the
  finalizer. -/
  | success (record : ForwardOutbox) (result : JsonObject) (message : Option DigestMessage)
  | failure (outboxId : Nat) (failure : DeliveryFailure)
  | park (leaderId : Nat) (siblings : List ForwardOutbox) (error : String)

/-- Where a worker stands.  The rows it holds are the snapshots its claims
returned. -/
inductive Worker where
  | holding (entry : DeliveryEntry) (record : ForwardOutbox)
  | grouped (claimedAt : DateTime) (leader : ForwardOutbox) (siblings : List ForwardOutbox)
  | finishing (tasks : List FinalizeTask)

/-- Whether `_deliver_digest_group` claims the siblings of this row. -/
def gathersSiblings (record : ForwardOutbox) : Bool :=
  record.groupKey.isSome && (resolveChannel env.python record).canDigest

def digestMessage (leader : ForwardOutbox) (siblings : List ForwardOutbox) : DigestMessage :=
  let windowEnd := leader.digestWindowEnd.getD now
  { targetUrl := leader.targetUrl
    recordIds := (leader :: siblings).map ForwardOutbox.id
    windowStart := (digestWindowStartFromKey env.python leader.digestKey).getD windowEnd
    windowEnd := windowEnd }

def isForwardSuccess (result : JsonObject) : Bool :=
  (match result.get? "status" with
    | some (.str status) => decide (status = "success")
    | _ => false) || isPendingResult result

def failureOfResult (python : PythonRuntime) (label : String) (result : JsonObject) :
    DeliveryFailure where
  errorMessage := label ++ JsonObject.strAt python result "status" "None" ++ ": " ++
    JsonObject.strAt python result "message" ""
  permanent :=
    match result.get? "retryable" with
    | some (.bool false) => true
    | _ => false
  quarantineRule :=
    match result.get? "disable_rule" with
    | some (.bool true) => true
    | _ => false
  failureData := some result

def failureOfError (message : String) : DeliveryFailure where
  errorMessage := message
  permanent := false
  quarantineRule := false
  failureData := none

/-- The finalizers of a delivery that had no siblings to settle. -/
def tasksAfterSingle (label : String) (message : Option DigestMessage) (record : ForwardOutbox) :
    DeliveryOutcome → List FinalizeTask
  | .raised error => [.failure record.id (failureOfError error)]
  | .returned result =>
      if isForwardSuccess result then [.success record result message]
      else [.failure record.id (failureOfResult env.python label result)]

def tasksAfterDigest (leader : ForwardOutbox) (siblings : List ForwardOutbox) :
    DeliveryOutcome → List FinalizeTask
  | .raised error =>
      [.failure leader.id (failureOfError error), .park leader.id siblings error]
  | .returned result =>
      if isForwardSuccess result then
        (leader :: siblings).map fun record =>
          .success record result (some (digestMessage env now leader siblings))
      else
        let failure := failureOfResult env.python "forward status=" result
        [.failure leader.id failure, .park leader.id siblings failure.errorMessage]

/-- What a worker has to run once its delivery has ended; `none` while the worker
is not at its delivery. -/
def tasksAfterDelivery (worker : Worker) (outcome : DeliveryOutcome) : Option (List FinalizeTask) :=
  match worker with
  | .holding entry record =>
      if record.groupKey.isNone then
        let label :=
          match entry with
          | .scheduled => "forward status="
          | .synchronous => "status="
        some (tasksAfterSingle env label none record outcome)
      else if gathersSiblings env record then none
      -- A digest row whose channel cannot batch is delivered alone.
      else some (tasksAfterDigest env now record [] outcome)
  | .grouped claimedAt leader siblings =>
      some (tasksAfterDigest env claimedAt leader siblings outcome)
  | .finishing _ => none

/-! ## The system -/

/-- A row which a digest delivery has marked SENT: the row, the target it was
filed with, and where the message went. -/
structure DigestMark where
  outboxId : Nat
  targetUrl : String
  sentTo : String
deriving DecidableEq

structure OutboxState where
  database : Database
  workers : List Worker
  digestMarks : List DigestMark

inductive OutboxEvent where
  /-- `create_outbox_records` for an alert or a notification. -/
  | create (now : DateTime) (policy : ForwardDeliveryPolicy) (request : OutboxRequest)
      (matchedRules : List ForwardRuleSnapshot)
  /-- A worker is kicked for a row and tries to claim it. -/
  | claim (now : DateTime) (policy : ForwardDeliveryPolicy) (entry : DeliveryEntry)
      (outboxId : Nat)
  | claimSiblings (now : DateTime) (worker : Nat)
  | deliver (now : DateTime) (worker : Nat) (outcome : DeliveryOutcome)
  /-- The worker runs the next of its finalizers. -/
  | finalize (now : DateTime) (policy : ForwardDeliveryPolicy) (worker : Nat)
  | scan (now : DateTime) (policy : ForwardDeliveryPolicy) (limit : Nat)
  | requeue (now : DateTime) (outboxId : Nat)

def OutboxEvent.requeuedId : OutboxEvent → Option Nat
  | .requeue _ outboxId => some outboxId
  | _ => none

def OutboxEvent.isCreate : OutboxEvent → Bool
  | .create _ _ _ _ => true
  | _ => false

structure TaskEnd where
  database : Database
  /-- The row which the success finalizer marked SENT. -/
  settled : Option ForwardOutbox
  /-- The finalizer raised, and the worker stops. -/
  raised : Bool

def runTask (task : FinalizeTask) (database : Database) : TaskEnd :=
  match task with
  | .success record result _ =>
      match finalizeOutboxSuccess env now record result database with
      | .alreadySettled => ⟨database, none, false⟩
      | .rolledBack => ⟨database, none, true⟩
      | .settled settledDatabase current => ⟨settledDatabase, some current, false⟩
  | .failure outboxId failure =>
      ⟨finalizeOutboxFailure policy now outboxId failure database, none, false⟩
  | .park leaderId siblings error =>
      ⟨parkDigestSiblings now leaderId siblings error database, none, false⟩

def marksOfTask (task : FinalizeTask) (settled : Option ForwardOutbox) : List DigestMark :=
  match task, settled with
  | .success _ _ (some message), some current =>
      [⟨current.id, current.targetUrl, message.targetUrl⟩]
  | _, _ => []

variable (env : OutboxEnvironment)

def afterTask (policy : ForwardDeliveryPolicy) (now : DateTime) (state : OutboxState)
    (worker : Nat) (task : FinalizeTask) (tasks : List FinalizeTask) : OutboxState :=
  let ended := runTask env policy now task state.database
  { database := ended.database
    workers := state.workers.set worker (.finishing (if ended.raised then [] else tasks))
    digestMarks := state.digestMarks ++ marksOfTask task ended.settled }

def step (state : OutboxState) : OutboxEvent → OutboxState
  | .create now policy request matchedRules =>
      { state with
        database := { state.database with
          outboxes := (createOutboxRecords env.python now policy request matchedRules
            state.database.outboxes).1 } }
  | .claim now policy entry outboxId =>
      let claim := claimOutbox policy now outboxId state.database.outboxes
      { state with
        database := { state.database with outboxes := claim.1 }
        workers := state.workers ++ claim.2.toList.map (Worker.holding entry) }
  | .claimSiblings now worker =>
      match state.workers[worker]? with
      | some (.holding _ leader) =>
          if gathersSiblings env leader then
            let claim := claimDigestSiblings now leader state.database.outboxes
            { state with
              database := { state.database with outboxes := claim.1 }
              workers := state.workers.set worker (.grouped now leader claim.2) }
          else state
      | _ => state
  | .deliver now worker outcome =>
      match state.workers[worker]? with
      | some current =>
          match tasksAfterDelivery env now current outcome with
          | some tasks => { state with workers := state.workers.set worker (.finishing tasks) }
          | none => state
      | none => state
  | .finalize now policy worker =>
      match state.workers[worker]? with
      | some (.finishing (task :: tasks)) => afterTask env policy now state worker task tasks
      | _ => state
  | .scan now policy limit =>
      { state with
        database := { state.database with
          outboxes := runForwardOutboxScan policy now limit state.database.outboxes } }
  | .requeue now outboxId =>
      { state with
        database := { state.database with
          outboxes := requeueOne state.database.outboxes now outboxId } }

def initial (webhookEvents : Table WebhookEventNotice.id) (forwardRules : Table ForwardRule.id) :
    OutboxState where
  database :=
    { outboxes := Table.empty
      followUps := Table.empty
      webhookEvents := webhookEvents
      forwardRules := forwardRules
      audits := [] }
  workers := []
  digestMarks := []

/-! ## A small deployment -/

def sampleTexts : KnownTexts where
  instants := [("2023-11-14T22:00", ⟨1699999200000000, none⟩)]
  digests :=
    [("1|1|webhook|https://hooks.example/alerts|0|",
        "73796e03a7343cbd36cb031ab73a16ed25a813b6634555f311b70a19d17abfa8"),
      ("1|1|feishu_app|feishu-app://oc_team_a|0|",
        "5a664c9f18246a40a0e0993682787f64ac6ab5d9abb5e7208e685aea668d9023"),
      ("2|1|feishu_app|feishu-app://oc_team_a|0|",
        "d1525c2fecd6b98cecd35d4249d8e0c315c3ed584b077e95b91259ddb85a2aa7"),
      ("2|1|feishu_app|feishu-app://oc_team_b|0|",
        "8331475c84de7d41a74e1b8df47afe05befdb9d58c17f60ca7b06eb48851eba7")]
  documents := []
  urls := []

def sampleEnvironment : OutboxEnvironment where
  python := PythonRuntime.ascii sampleTexts
  gateways :=
    { platform := ""
      gatewayUrl := "http://gateway:8080"
      httpApiUrl := "http://gateway:8080"
      hooksToken := "token"
      gatewayToken := ""
      gateways := "" }
  promptVersion := "v1"
  initialPollDelay := 30

def samplePolicy : ForwardDeliveryPolicy where
  maxAttempts := 4
  maxAttempts_pos := by decide
  delayForAttempt _ := 30
  staleProcessingThresholdSeconds := 300
  maxDeliveryAgeSeconds := 1800

def sampleTime : DateTime := 1700000000000000

def sampleRequest : OutboxRequest where
  webhookId := some 1
  origId := none
  forwardData := none
  analysisResult := none
  formattedPayload := none
  eventType := "webhook_forward"
  isPeriodicReminder := false
  idempotencyExtra := ""
  inboundActions := []

def sampleWebhookRule : ForwardRuleSnapshot where
  id := some 1
  name := "all alerts"
  targetType := "webhook"
  targetUrl := "https://hooks.example/alerts"
  targetName := ""
  targetGateway := ""

end ForwardOutboxLifecycle

end WebhookWise

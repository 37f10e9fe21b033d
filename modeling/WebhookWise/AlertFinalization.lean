import WebhookWise.ForwardDecisions
import WebhookWise.ImportanceCeilings

/-!
# The transaction that finalizes an alert

One transaction saves the event, decides whether it is forwarded, writes the status and the trace of
the decision, and files the outbox records.  The trace has a savepoint of its own.  The transaction
is modelled for any analysis, findings and rules.
-/

namespace WebhookWise

open SqlTable

/-- `NoiseReductionContext`. -/
structure NoiseFindings extends NoiseReductionContext where
  relation : String
  rootCauseEventId : Option Nat
  confidence : String
  relatedAlertCount : Nat
  relatedAlertIds : List Nat

structure DecisionTrace where
  id : Nat
  webhookEventId : Nat
  createdAt : DateTime
  outcome : String
  skipCode : String
  source : Option String
  alertName : Option String
  importance : Option String
  isPeriodicReminder : Bool
  route : String
  importanceOverride : Bool
  importanceCappedFrom : Option String
  degradedReason : Option String
  silenceId : Option Nat
  matchedRules : List String
  steps : List JsonObject

abbrev TraceTable := Table DecisionTrace.id

namespace AlertFinalization

open WebhookIngest WebhookDedup IdentityKeys ForwardDecisions

/-- What the transaction is configured with.  The keys and the matchers run on one Python. -/
structure FinalizeSettings where
  keys : KeySettings String
  runtime : MatchRuntime
  samePython : keys.python = runtime.toPythonRuntime
  /-- `DEDUP_WINDOW_SECONDS`. -/
  windowSeconds : Int

def FinalizeSettings.python (settings : FinalizeSettings) : PythonRuntime :=
  settings.runtime.toPythonRuntime

def FinalizeSettings.saveEnvironment (settings : FinalizeSettings) : SaveEnvironment where
  python := settings.python
  windowSeconds := settings.windowSeconds
  generateAlertHash data source sourceConnectionId :=
    generateAlertHash settings.keys data source (identityNamespace sourceConnectionId)

/-- `WebhookProcessContext`, as `parse_request` and the key generation leave it. -/
structure ProcessContext where
  requestId : Option String
  source : String
  sourceConnectionId : Option Nat
  clientIp : Option String
  rawPayload : Option String
  headers : PyDict String
  body : JsonObject
  parsedData : JsonObject
  timestamp : String
  alertHash : String
  dedupKey : String
  forwardMatchIdentity : Option MatchIdentity

/-- The alert as the inbound rules and the outbox records see it. -/
def ProcessContext.inboundAlert (context : ProcessContext) : InboundAlert where
  source := context.source
  parsedData := context.parsedData
  body := context.body
  headers := context.headers.map fun header => (header.1, .str header.2)
  timestamp := context.timestamp

/-- What the stages before have found out about an alert. -/
structure AlertFindings where
  dedup : DedupResult
  analysis : JsonObject
  noise : NoiseFindings

/-- What the transaction reads from elsewhere.  The rules and the silences are those of
their caches, and none where these fail to load. -/
structure FinalizeReadings where
  times : SaveTimes
  now : DateTime
  rules : List ForwardRoute
  silences : List SilenceSnapshot
  inboundRules : List InboundRuleSnapshot
  forwardingPolicy : ForwardingPolicy
  deliveryPolicy : ForwardDeliveryPolicy
  /-- The identity flaps, and flapping identities are muted. -/
  flapping : Bool
  /-- The savepoint of the trace is released. -/
  traceWritten : Bool

structure FinalizedTables where
  events : EventTable
  traces : TraceTable
  outbox : OutboxTable

/-! ## The final analysis -/

/-- `asdict` of the noise findings. -/
def NoiseFindings.asDict (noise : NoiseFindings) : Json :=
  .dict [("relation", .str noise.relation),
    ("root_cause_event_id", (noise.rootCauseEventId.map fun id => Json.int id).getD .null),
    ("confidence", .float noise.confidence), ("suppress_forward", .bool noise.suppressForward),
    ("reason", .str noise.reason), ("related_alert_count", .int noise.relatedAlertCount),
    ("related_alert_ids", .list (noise.relatedAlertIds.map fun id => Json.int id))]

def buildFinalAnalysis (findings : AlertFindings) : JsonObject :=
  PyDict.set findings.analysis "noise_reduction" (NoiseFindings.asDict findings.noise)

section Transaction

variable (settings : FinalizeSettings)

/-- `normalize_importance(final_analysis.get("importance", ""))`. -/
def decidedImportance (analysis : JsonObject) : String :=
  AnalysisPipeline.normalizeImportance settings.python
    (AnalysisPipeline.importanceText settings.python analysis)

/-! ## The trace of a decision -/

/-- `text or None`. -/
def orNone (text : String) : Option String :=
  if text = "" then none else some text

def importanceCappedFrom (analysis : JsonObject) : Option String :=
  match PyDict.get? analysis "_importance_cap" with
  | some (.dict cap) =>
      orNone (truncated (strip (JsonObject.strOr settings.python cap "judged" "")) 20)
  | _ => none

def analysisDegradedReason (analysis : JsonObject) : String :=
  JsonObject.strAt settings.python analysis "_degraded_reason" ""

def outcomeText (decision : ForwardDecision) : String :=
  if decision.shouldForward then "forwarded" else "skipped"

def textOrNull (text : Option String) : Json :=
  (text.map Json.str).getD .null

def dedupActionText : DedupAction → String
  | .new => "new"
  | .reuse => "reuse"
  | .rechain => "rechain"

/-- `final_analysis.get(key) or None`. -/
def presentValue (analysis : JsonObject) (key : String) : Json :=
  ((PyDict.get? analysis key).filter Json.truthy).getD .null

def buildTraceSteps (findings : AlertFindings) (decision : ForwardDecision) : List JsonObject :=
  let analysis := buildFinalAnalysis findings
  [[("step", .str "dedup"), ("action", .str (dedupActionText findings.dedup.action)),
      ("is_duplicate", .bool (findings.dedup.action = .reuse)),
      ("original_event_id",
        (findings.dedup.originalEventId.map fun id => Json.int id).getD .null)],
    [("step", .str "analysis"),
      ("route", .str (ForwardOutboxRecords.analysisRoute settings.python (some analysis) "ai")),
      ("importance", .str (decidedImportance settings analysis)),
      ("degraded", .bool (JsonObject.truthyAt analysis "_degraded")),
      ("degraded_reason", textOrNull (orNone (analysisDegradedReason settings analysis))),
      ("importance_override", .bool (JsonObject.truthyAt analysis "_importance_override")),
      ("importance_override_reason", presentValue analysis "_importance_override_reason"),
      ("importance_capped_from", textOrNull (importanceCappedFrom settings analysis))],
    [("step", .str "noise"), ("relation", .str findings.noise.relation),
      ("suppress_forward", .bool findings.noise.suppressForward),
      ("reason", .str findings.noise.reason),
      ("related_alert_count", .int findings.noise.relatedAlertCount)]] ++
  (if decision.skipCode = "silenced" then
    [[("step", .str "silence"), ("matched", .bool true),
      ("silence_id", (decision.silenceId.map fun id => Json.int id).getD .null)]]
  else []) ++
  [[("step", .str "rule_match"),
      ("matched", .list (decision.matchedRules.map fun rule => Json.str rule.name))],
    [("step", .str "forward"), ("outcome", .str (outcomeText decision)),
      ("skip_code", .str decision.skipCode), ("skip_reason", textOrNull decision.skipReason),
      ("is_periodic_reminder", .bool decision.isPeriodicReminder)]]

/-- `(extract_alert_identity(parsed_data) or {}).get("name")`. -/
def alertName (parsedData : JsonObject) : Option String :=
  (extractAlertIdentity settings.keys parsedData).bind fun identity => identity.get? "name"

def buildDecisionTrace (context : ProcessContext) (findings : AlertFindings) (now : DateTime)
    (webhookEventId : Nat) (decision : ForwardDecision) (id : Nat) : DecisionTrace :=
  let analysis := buildFinalAnalysis findings
  { id
    webhookEventId
    createdAt := now
    outcome := outcomeText decision
    skipCode := decision.skipCode
    source := orNone context.source
    alertName := ((alertName settings context.parsedData).bind orNone).map (truncated · 200)
    importance := orNone (decidedImportance settings analysis)
    isPeriodicReminder := decision.isPeriodicReminder
    route := ForwardOutboxRecords.analysisRoute settings.python (some analysis) "ai"
    importanceOverride := JsonObject.truthyAt analysis "_importance_override"
    importanceCappedFrom := importanceCappedFrom settings analysis
    degradedReason := (orNone (analysisDegradedReason settings analysis)).map (truncated · 200)
    silenceId := if decision.skipCode = "silenced" then decision.silenceId else none
    matchedRules := decision.matchedRules.map fun rule => rule.name
    steps := buildTraceSteps settings findings decision }

/-! ## The transaction -/

/-- The call of `save_webhook_data_in_session`. -/
def saveRequest (context : ProcessContext) (findings : AlertFindings) : SaveRequest :=
  let rechains := findings.dedup.action = .rechain
  { requestId := context.requestId
    payload :=
      { data := context.parsedData
        source := context.source
        sourceConnectionId := context.sourceConnectionId
        rawPayload := context.rawPayload
        headers := context.headers
        clientIp := context.clientIp
        aiAnalysis := some (buildFinalAnalysis findings)
        forwardStatus := "pending"
        alertHash := some context.alertHash
        dedupKey := some context.dedupKey
        reanalyzed := false
        prevAlertId := if rechains then findings.dedup.originalEventId else none }
    verdict :=
      { isDuplicate := some (!rechains && findings.dedup.action = .reuse)
        originalEventId := if rechains then none else findings.dedup.originalEventId
        skipDuplicateLookup := true } }

variable (context : ProcessContext) (findings : AlertFindings) (readings : FinalizeReadings)

/-- The call of `decide_forwarding` for an event that is saved. -/
def forwardingRequest (isDuplicate : Bool) (original : Option WebhookEvent) :
    ForwardingRequest where
  eventType := "webhook_forward"
  importance := decidedImportance settings (buildFinalAnalysis findings)
  isDuplicate
  noise := some findings.noise.toNoiseReductionContext
  lastNotifiedAt := original.bind WebhookEvent.lastNotifiedAt
  source := context.source
  rules := readings.rules
  policy := readings.forwardingPolicy
  parsedData := some context.parsedData
  now := readings.now
  silences := some readings.silences
  identity :=
    some (context.forwardMatchIdentity.getD
      (RuleMatching.extractForwardMatchFields settings.runtime (some context.parsedData)))
  flapping := readings.flapping

/-- `resolve_forward_decision` for an event that is saved. -/
def resolveForwardDecision (events : EventTable) (isDuplicate : Bool) (originalId : Option Nat) :
    ForwardDecision :=
  decideForwarding settings.runtime
    (forwardingRequest settings context findings readings isDuplicate
      (originalId.bind events.lookup))

/-- `"queued" if fwd_dec.should_forward else "skipped"`. -/
def forwardStatusOf (decision : ForwardDecision) : String :=
  if decision.shouldForward then "queued" else "skipped"

/-- `evt.forward_status = …`: the row is written where its status changes. -/
def withForwardStatus (now : DateTime) (status : String) (event : WebhookEvent) : WebhookEvent :=
  if event.forwardStatus = some status then event
  else { event with forwardStatus := some status, updatedAt := some now }

theorem withForwardStatus_id (now : DateTime) (status : String) (event : WebhookEvent) :
    (withForwardStatus now status event).id = event.id := by
  unfold withForwardStatus
  split <;> rfl

/-- The call of `create_outbox_records` in `resolve_and_forward`. -/
def deliveryOf (webhookId : Nat) (originalId : Option Nat) (decision : ForwardDecision) :
    InboundRules.Delivery where
  now := readings.now
  policy := readings.deliveryPolicy
  webhookId := some webhookId
  origId := originalId
  isPeriodicReminder := decision.isPeriodicReminder
  matchedRules := decision.matchedRules.map ForwardRoute.toForwardRuleSnapshot

/-- `resolve_and_forward`, where the decision is to forward. -/
def resolveAndForward (webhookId : Nat) (originalId : Option Nat) (decision : ForwardDecision)
    (outbox : OutboxTable) : OutboxTable × List Nat :=
  if decision.shouldForward then
    let delivery := deliveryOf readings webhookId originalId decision
    ForwardOutboxRecords.createOutboxRecords settings.python delivery.now delivery.policy
      (InboundRules.outboxRequest settings.runtime readings.inboundRules context.inboundAlert
        (some (buildFinalAnalysis findings)) delivery)
      delivery.matchedRules outbox
  else (outbox, [])

structure FinalizeAnalysisResult where
  saveResult : SaveWebhookResult
  forwardDecision : ForwardDecision
  outboxIds : List Nat

def afterSave (tables : FinalizedTables) (saved : SaveWebhookResult) :
    FinalizedTables × FinalizeAnalysisResult :=
  let decision := resolveForwardDecision settings context findings readings tables.events
    saved.isDuplicate saved.originalId
  let filed := resolveAndForward settings context findings readings saved.webhookId
    saved.originalId decision tables.outbox
  let finalized : FinalizedTables :=
    { events := tables.events.update (fun event => event.id = saved.webhookId)
        (withForwardStatus readings.now (forwardStatusOf decision))
        (withForwardStatus_id readings.now (forwardStatusOf decision))
      traces := if readings.traceWritten then
          tables.traces.insert
            (buildDecisionTrace settings context findings readings.now saved.webhookId decision)
            fun _ => rfl
        else tables.traces
      outbox := filed.1 }
  (finalized, ⟨saved, decision, filed.2⟩)

/-- `finalize_analysis_transaction`; `none` where the database refuses the event. -/
def finalizeAnalysisTransaction (tables : FinalizedTables) :
    Option (FinalizedTables × FinalizeAnalysisResult) :=
  (saveWebhookDataInSession settings.saveEnvironment readings.times
    (saveRequest context findings) tables.events).map fun saved =>
      afterSave settings context findings readings { tables with events := saved.1 } saved.2

/-! ## The gate before it -/

/-- What `alert_processing_gate` yields, and whether the lock is still held when the
analysis is done. -/
inductive GateResult where
  | suppressed (reason : String)
  | admitted (lockLost : Bool)

inductive ProcessingOutcome where
  | suppressed
  /-- `ProcessingLockLost`: the broker delivers the request again. -/
  | requeued
  /-- The transaction raises and is rolled back. -/
  | rolledBack
  | finalized (result : FinalizeAnalysisResult)

/-- `run_processing_pipeline`, from what its analysis stage finds: `validate_backpressure`,
then `persist_and_schedule`. -/
def runProcessingPipeline (gate : GateResult) (tables : FinalizedTables) :
    FinalizedTables × ProcessingOutcome :=
  match gate with
  | .suppressed reason =>
      (tables, if reason = "redis_unavailable" then .requeued else .suppressed)
  | .admitted true => (tables, .requeued)
  | .admitted false =>
      match finalizeAnalysisTransaction settings context findings readings tables with
      | some (finalized, result) => (finalized, .finalized result)
      | none => (tables, .rolledBack)

end Transaction

/-! ## A small deployment -/

def sampleSettings : FinalizeSettings where
  keys :=
    { python := (MatchRuntime.ascii ⟨[], [], [], []⟩).toPythonRuntime
      digest := fun _ => ""
      resourceDedupBucket := fun _ => none
      fingerprintMode := .off
      fingerprintFields := fun _ => []
      excludedLabels := fun _ => [] }
  runtime := .ascii ⟨[], [], [], []⟩
  samePython := rfl
  windowSeconds := 3600

def sampleContext (requestId : String) : ProcessContext where
  requestId := some requestId
  source := "grafana"
  sourceConnectionId := none
  clientIp := none
  rawPayload := none
  headers := []
  body := [("alertname", .str "disk full")]
  parsedData := [("alertname", .str "disk full")]
  timestamp := ""
  alertHash := "disk"
  dedupKey := "disk"
  forwardMatchIdentity := none

def sampleFindings : AlertFindings where
  dedup := ⟨.new, none, none, "", false⟩
  analysis := [("importance", .str "high"), ("summary", .str "The disk is full.")]
  noise :=
    { suppressForward := false
      reason := "No related alerts"
      relation := "standalone"
      rootCauseEventId := none
      confidence := "0.0"
      relatedAlertCount := 0
      relatedAlertIds := [] }

def sampleRoute : ForwardRoute where
  id := some 1
  name := "all"
  targetType := "webhook"
  targetUrl := "https://example.org"
  targetName := ""
  targetGateway := ""
  stopOnMatch := false

theorem one_attempt : 1 ≤ 1 :=
  Nat.le_refl 1

def sampleReadings (rules : List ForwardRoute) (now : DateTime) : FinalizeReadings where
  times := ⟨now, now, now⟩
  now
  rules
  silences := []
  inboundRules := []
  forwardingPolicy := ⟨60, true, 6⟩
  deliveryPolicy := ⟨1, one_attempt, fun _ => 0, 0, 0⟩
  flapping := false
  traceWritten := true

end AlertFinalization

end WebhookWise

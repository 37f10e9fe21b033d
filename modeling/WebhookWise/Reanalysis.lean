import WebhookWise.AlertFinalization
import WebhookWise.RuleMarks

/-!
# Analysing an event again

An operator may have a stored event analysed again.  The new analysis is stored, with the
importance that it names, in the event and in its duplicates; the forward rules decide, and the
outbox rows are filed.  A row that the first processing has filed under the same idempotency key
is adopted, whatever has become of it.
-/

namespace WebhookWise

open SqlTable

namespace Reanalysis

open RuleMarks WebhookIngest WebhookBoundary WebhookNormalization ForwardDecisions
open ForwardOutboxRecords AlertFinalization
open ImportanceCeilings (CapRule capEverything)
open AnalysisPipeline (ImportanceOverride)

/-! ## The alert of an event -/

/-- What `build_webhook_context` returns. -/
structure WebhookEventContext where
  source : String
  parsedData : Option JsonObject
  timestamp : String
  clientIp : Option String

def WebhookEventContext.asDict (context : WebhookEventContext) : JsonObject :=
  [("source", .str context.source), ("parsed_data", (context.parsedData.map Json.dict).getD .null),
    ("timestamp", .str context.timestamp), ("client_ip", textOrNull context.clientIp)]

section Events

variable (runtime : JudgeRuntime)

/-- `load_event_payload`, without the raw text. -/
def loadEventPayload (event : WebhookEvent) : Option JsonObject :=
  event.parsedData.or
    ((event.rawPayload.filter (· ≠ "")).bind (parseRawBody runtime.toPythonRuntime))

def buildWebhookContext (event : WebhookEvent) : Except Raised WebhookEventContext :=
  let context (source : String) (parsedData : Option JsonObject) : WebhookEventContext :=
    ⟨source, parsedData, event.timestamp.utcIsoformat, event.clientIp⟩
  match loadEventPayload runtime event with
  | some data =>
      if event.source = "" || event.source = "unknown" then do
        let normalized ← normalizeWebhookEvent runtime.toAdapterRuntime (.dict data) none none
        return context (EcosystemAdapters.textOr normalized.source event.source)
          (some normalized.data)
      else return context event.source (some data)
  | none => return context event.source none

/-! ## The reanalysis -/

/-- What `reanalyze_webhook_event` reads besides the event.  The rules and the silences are
those of their caches. -/
structure ReanalysisReadings where
  now : DateTime
  rules : List ForwardRoute
  silences : List SilenceSnapshot
  inboundRules : List CapRule
  forwardingPolicy : ForwardingPolicy
  deliveryPolicy : ForwardDeliveryPolicy

structure ReanalysisTables where
  events : EventTable
  outbox : OutboxTable

structure ReanalysisResult where
  analysis : JsonObject
  originalImportance : Option String
  newImportance : Option String
  updatedDuplicates : Nat
  shouldForward : Bool
  outboxIds : List Nat

def ReanalysisResult.forwardStatus (result : ReanalysisResult) : String :=
  if result.outboxIds ≠ [] then "queued"
  else if result.shouldForward then "no_target" else "skipped"

inductive ReanalysisError where
  | webhookEventNotFound (webhookId : Nat)
  | raised (error : Raised)

variable (readings : ReanalysisReadings) (analysis : JsonObject)

/-- What the reanalysis sets of the event and of its duplicates.  Where none of it is new, the
flush of the event writes nothing, and the clock reading is not stored either. -/
def withAnalysis (now : DateTime) (event : WebhookEvent) : WebhookEvent :=
  { event with
    aiAnalysis := some analysis
    importance := importanceOf analysis
    processingStatus := .completed
    updatedAt := some now }

theorem withAnalysis_id (now : DateTime) (event : WebhookEvent) :
    (withAnalysis analysis now event).id = event.id :=
  rfl

/-- The call of `resolve_forward_decision`. -/
def forwardingRequest (event : WebhookEvent) (context : WebhookEventContext) :
    ForwardingRequest where
  eventType := "webhook_forward"
  importance := EcosystemAdapters.textOr ((importanceOf analysis).getD "") "medium"
  isDuplicate := event.isDuplicate
  source := EcosystemAdapters.textOr event.source "unknown"
  rules := readings.rules
  policy := readings.forwardingPolicy
  parsedData := some (context.parsedData.getD [])
  now := readings.now
  silences := some readings.silences

def forwardDecision (event : WebhookEvent) (context : WebhookEventContext) : ForwardDecision :=
  decideForwarding runtime.toMatchRuntime (forwardingRequest readings analysis event context)

/-- The call of `create_outbox_records`, by way of `resolve_and_forward`. -/
def outboxRequest (event : WebhookEvent) (context : WebhookEventContext) : OutboxRequest where
  webhookId := some event.id
  origId := none
  forwardData := some context.asDict
  analysisResult := some analysis
  formattedPayload := none
  eventType := "webhook_forward"
  isPeriodicReminder :=
    (forwardDecision runtime readings analysis event context).isPeriodicReminder
  idempotencyExtra := ""
  inboundActions :=
    InboundRules.matchingInboundActions runtime.toMatchRuntime
      (readings.inboundRules.map CapRule.toInboundRuleSnapshot)
      { parsedData := some context.asDict
        eventType := "webhook_forward"
        importance := InboundRules.analysedImportance runtime.toMatchRuntime (some analysis) }
      (InboundRules.alertRuleName runtime.toMatchRuntime context.asDict)

def matchedRules (event : WebhookEvent) (context : WebhookEventContext) :
    List ForwardRuleSnapshot :=
  (forwardDecision runtime readings analysis event context).matchedRules.map
    ForwardRoute.toForwardRuleSnapshot

/-- `resolve_and_forward`, where the decision is to forward. -/
def forwarded (event : WebhookEvent) (context : WebhookEventContext) (outbox : OutboxTable) :
    OutboxTable × List Nat :=
  if (forwardDecision runtime readings analysis event context).shouldForward then
    createOutboxRecords runtime.toPythonRuntime readings.now readings.deliveryPolicy
      (outboxRequest runtime readings analysis event context)
      (matchedRules runtime readings analysis event context) outbox
  else (outbox, [])

def storeAnalysis (event : WebhookEvent) (events : EventTable) : EventTable :=
  let stored := events.update (fun row => row.id = event.id) (withAnalysis analysis readings.now)
    (withAnalysis_id analysis readings.now)
  if event.isDuplicate then stored
  else
    stored.update (fun row => row.duplicateOf = some event.id) (withAnalysis analysis readings.now)
      (withAnalysis_id analysis readings.now)

/-- `reanalyze_webhook_event`, for the analysis that `analyze_webhook_with_ai` returns. -/
def reanalyzeWebhookEvent (webhookId : Nat) (tables : ReanalysisTables) :
    Except ReanalysisError (ReanalysisTables × ReanalysisResult) :=
  match tables.events.lookup webhookId with
  | none => .error (.webhookEventNotFound webhookId)
  | some event =>
      match buildWebhookContext runtime event with
      | .error raised => .error (.raised raised)
      | .ok context =>
          -- The context is checked strictly before the analysis is made.
          match webhookDataFromMapping runtime.floatOfInt true context.asDict with
          | .error raised => .error (.raised raised)
          | .ok _ =>
              let filed := forwarded runtime readings analysis event context tables.outbox
              .ok (⟨storeAnalysis readings analysis event tables.events, filed.1⟩,
                { analysis
                  originalImportance := event.importance
                  newImportance := importanceOf analysis
                  updatedDuplicates :=
                    if event.isDuplicate then 0
                    else tables.events.rows.countP fun row => row.duplicateOf = some event.id
                  shouldForward :=
                    (forwardDecision runtime readings analysis event context).shouldForward
                  outboxIds := filed.2 })

/-! ## What the pipeline would have stored -/

def ruledAlert (event : WebhookEvent) : RuledAlert where
  source := event.source
  parsedData := (loadEventPayload runtime event).getD []
  rules := readings.inboundRules

def pipelineAnalysis (override : Option ImportanceOverride) (noise : NoiseFindings)
    (event : WebhookEvent) : JsonObject :=
  buildFinalAnalysis
    { dedup := ⟨.new, none, none, "", false⟩
      analysis := freshAnalysis runtime override (ruledAlert runtime readings event) analysis
      noise }

/-- The event is stored with the importance and the markers that the pipeline gives it. -/
def JudgesLikePipeline (override : Option ImportanceOverride) (event : WebhookEvent)
    (events : EventTable) : Prop :=
  ∃ row, events.lookup event.id = some row ∧ ∀ noise : NoiseFindings,
    row.importance = importanceOf (pipelineAnalysis runtime readings analysis override noise event) ∧
      SameJudgement (row.aiAnalysis.getD [])
        (pipelineAnalysis runtime readings analysis override noise event)

/-- One of the outbox rows that the result names can still be delivered. -/
def NamesOpenRow (outbox : OutboxTable) (outboxIds : List Nat) : Prop :=
  ∃ outboxId ∈ outboxIds, ∃ row ∈ outbox.rows, row.id = outboxId ∧ row.status.isTerminal = false

/-- A reanalysis judges as the pipeline does, and says "queued" of what can be delivered. -/
def AgreesWithPipeline (override : Option ImportanceOverride) (event : WebhookEvent)
    (tables : ReanalysisTables) : Prop :=
  ∀ after result,
    reanalyzeWebhookEvent runtime readings analysis event.id tables = .ok (after, result) →
      JudgesLikePipeline runtime readings analysis override event after.events ∧
      (result.forwardStatus = "queued" → NamesOpenRow after.outbox result.outboxIds)

end Events

/-! ## What the pipeline stores -/

theorem savedEvent_judgement {env : SaveEnvironment} {times : SaveTimes} {request : SaveRequest}
    {events : EventTable} {analysis : JsonObject}
    (present : presentAnalysis request.payload.aiAnalysis = some analysis) :
    (savedEvent env times request events).aiAnalysis = some analysis ∧
      (savedEvent env times request events).importance = importanceOf analysis := by
  have given : request.payload.aiAnalysis = some analysis := (Option.filter_eq_some_iff.1 present).1
  have prepared : (env.prepared request.payload).aiAnalysis = some analysis := given
  have preparedPresent : presentAnalysis (env.prepared request.payload).aiAnalysis =
      some analysis := present
  have filled : (savedInput env request events (savedStatus env times request events)).aiAnalysis =
        some analysis ∧
      (savedInput env request events (savedStatus env times request events)).importance =
        importanceOf analysis := by
    unfold savedInput
    cases repeatedEvent (savedStatus env times request events) events with
    | none => simp [completedInput, prepared]
    | some original => simp [duplicateInput, analysisForDuplicate, preparedPresent]
  unfold savedEvent
  cases existingEvent request events <;> exact filled

theorem lookup_afterSave {settings : FinalizeSettings} {context : ProcessContext}
    {findings : AlertFindings} {readings : FinalizeReadings} {tables : FinalizedTables}
    {saved : SaveWebhookResult} {row : WebhookEvent}
    (looked : tables.events.lookup saved.webhookId = some row) :
    ∃ status, (afterSave settings context findings readings tables saved).1.events.lookup
      saved.webhookId = some (withForwardStatus readings.now status row) := by
  have own : row.id = saved.webhookId := (Table.lookup_eq_some_iff.1 looked).2
  unfold afterSave
  dsimp only
  rw [Table.lookup_update, looked, Option.map_some, if_pos (decide_eq_true own)]
  exact ⟨_, rfl⟩

/-- The transaction of the pipeline stores the analysis that it has built. -/
theorem finalized_judgement {settings : FinalizeSettings} {context : ProcessContext}
    {findings : AlertFindings} {readings : FinalizeReadings} {tables finalized : FinalizedTables}
    {result : FinalizeAnalysisResult}
    (ran : finalizeAnalysisTransaction settings context findings readings tables =
      some (finalized, result))
    (unfinished : alreadyCompleted (saveRequest context findings) tables.events = false) :
    ∃ row, finalized.events.lookup result.saveResult.webhookId = some row ∧
      row.aiAnalysis = some (buildFinalAnalysis findings) ∧
      row.importance = importanceOf (buildFinalAnalysis findings) := by
  obtain ⟨⟨events, saveResult⟩, saved, same⟩ := Option.map_eq_some_iff.1 ran
  obtain ⟨rfl, rfl⟩ := Prod.mk.inj same
  have present : presentAnalysis (saveRequest context findings).payload.aiAnalysis =
      some (buildFinalAnalysis findings) := by
    have nonempty : buildFinalAnalysis findings ≠ [] := PyDict.set_ne_nil _ _ _
    simp [presentAnalysis, saveRequest, nonempty]
  rcases saveWebhookDataInSession_spec saved with ⟨_, row, found, completed, _⟩ | ⟨written, rfl⟩
  · unfold alreadyCompleted at unfinished
    rw [found, Option.any_some, completed] at unfinished
    cases unfinished
  · obtain ⟨stored, importance⟩ := @savedEvent_judgement settings.saveEnvironment readings.times
      (saveRequest context findings) tables.events _ present
    have looked := Table.lookup_eq_some_iff.2 ⟨written.stored, rfl⟩
    obtain ⟨status, finalized⟩ := @lookup_afterSave settings context findings readings
      { tables with events } ⟨(savedEvent settings.saveEnvironment readings.times
        (saveRequest context findings) tables.events).id, _, _⟩ _ looked
    refine ⟨_, finalized, ?_⟩
    unfold withForwardStatus
    split
    · exact ⟨stored, importance⟩
    · exact ⟨stored, importance⟩

/-! ## Adopted rows -/

section Adoption

variable (python : PythonRuntime) (now : DateTime) (policy : ForwardDeliveryPolicy)
  (request : OutboxRequest) (window : Option (DateTime × DateTime)) (excluded : Bool)

def adoptedRow (table : OutboxTable) (rule : ForwardRuleSnapshot) : Option ForwardOutbox :=
  table.rows.find? fun row =>
    row.idempotencyKey =
      idempotencyKey python (request.webhookId.getD 0) rule.id (ruleTargetType rule) rule.targetUrl
        request.isPeriodicReminder request.idempotencyExtra

/-- A rule is filed, and not under the key of a row that was delivered or given up. -/
structure FindsNoClosedRow (table : OutboxTable) (rule : ForwardRuleSnapshot) : Prop where
  filed : skipsRule python window excluded request rule = false
  unclosed : ∀ row ∈ adoptedRow python request table rule, row.status.isTerminal = false

variable {python now policy request window excluded} {table : OutboxTable}
  {rule : ForwardRuleSnapshot}

theorem fileRule_skipped (skipped : skipsRule python window excluded request rule = true) :
    fileRule python now policy request window excluded table rule = (table, none) :=
  if_pos skipped

theorem fileRule_adopts {row : ForwardOutbox}
    (filed : skipsRule python window excluded request rule = false)
    (adopted : adoptedRow python request table rule = some row) :
    fileRule python now policy request window excluded table rule = (table, some row.id) := by
  have found : findOutboxIdByKey table
      (newRecord python now policy request window rule table.nextKey).idempotencyKey =
      some row.id :=
    congrArg (Option.map ForwardOutbox.id) adopted
  simp only [fileRule, filed, insertOutboxOrExisting, found, Bool.false_eq_true, if_false]

theorem fileRule_inserts (filed : skipsRule python window excluded request rule = false)
    (fresh : adoptedRow python request table rule = none) :
    fileRule python now policy request window excluded table rule =
      (table.insert (newRecord python now policy request window rule) fun _ => rfl,
        some table.nextKey) := by
  have found : findOutboxIdByKey table
      (newRecord python now policy request window rule table.nextKey).idempotencyKey = none :=
    congrArg (Option.map ForwardOutbox.id) fresh
  simp only [fileRule, filed, insertOutboxOrExisting, found, Bool.false_eq_true, if_false]

theorem mem_fileRules {row : ForwardOutbox} (member : row ∈ table.rows)
    (rules : List ForwardRuleSnapshot) :
    row ∈ (fileRules python now policy request window excluded table rules).1.rows := by
  induction rules generalizing table with
  | nil => exact member
  | cons rule rules ih =>
      apply ih
      cases skipped : skipsRule python window excluded request rule with
      | true =>
          rw [fileRule_skipped skipped]
          exact member
      | false =>
          cases adopted : adoptedRow python request table rule with
          | some old =>
              rw [fileRule_adopts skipped adopted]
              exact member
          | none =>
              rw [fileRule_inserts skipped adopted]
              exact List.mem_append_left _ member

theorem findsNoClosedRow_insert {other : ForwardRuleSnapshot}
    (finds : FindsNoClosedRow python request window excluded
      table rule) :
    FindsNoClosedRow python request window excluded
      (table.insert (newRecord python now policy request window other) fun _ => rfl) rule := by
  refine ⟨finds.filed, fun row adopted => ?_⟩
  unfold adoptedRow at adopted
  change (table.rows ++ [_]).find? _ = some row at adopted
  rw [List.find?_append, Option.or_eq_some_iff] at adopted
  rcases adopted with old | ⟨_, new⟩
  · exact finds.unclosed row old
  · have isNew := List.mem_singleton.1 (List.mem_of_find?_eq_some new)
    rw [isNew]
    rfl

theorem findsNoClosedRow_of_insert {other : ForwardRuleSnapshot}
    (finds : FindsNoClosedRow python request window excluded
      (table.insert (newRecord python now policy request window other) fun _ => rfl) rule) :
    FindsNoClosedRow python request window excluded table rule := by
  refine ⟨finds.filed, fun row adopted => finds.unclosed row ?_⟩
  unfold adoptedRow at adopted ⊢
  change (table.rows ++ [_]).find? _ = some row
  rw [List.find?_append, adopted]
  rfl

theorem findsNoClosedRow_fileRule {first : ForwardRuleSnapshot} :
    FindsNoClosedRow python request window excluded
        (fileRule python now policy request window excluded table first).1 rule ↔
      FindsNoClosedRow python request window excluded table rule := by
  cases skipped : skipsRule python window excluded request first with
  | true => rw [fileRule_skipped skipped]
  | false =>
      cases adopted : adoptedRow python request table first with
      | some old => rw [fileRule_adopts skipped adopted]
      | none =>
          rw [fileRule_inserts skipped adopted]
          exact ⟨findsNoClosedRow_of_insert, findsNoClosedRow_insert⟩

variable (rules : List ForwardRuleSnapshot)

theorem namesOpenRow_fileRule :
    NamesOpenRow
        (fileRules python now policy request window excluded
          (fileRule python now policy request window excluded table rule).1 rules).1
        (fileRule python now policy request window excluded table rule).2.toList ↔
      FindsNoClosedRow python request window excluded table rule := by
  cases skipped : skipsRule python window excluded request rule with
  | true =>
      rw [fileRule_skipped skipped]
      constructor
      · rintro ⟨outboxId, member, _⟩
        cases member
      · intro finds
        exact absurd (skipped.symm.trans finds.filed) (by decide)
  | false =>
      cases adopted : adoptedRow python request table rule with
      | some old =>
          rw [fileRule_adopts skipped adopted]
          have kept := @mem_fileRules python now policy request window excluded table old
            (List.mem_of_find?_eq_some adopted) rules
          constructor
          · rintro ⟨outboxId, member, row, isRow, rfl, isOpen⟩
            have same : row.id = old.id := by simpa using member
            rw [Table.eq_of_key_eq isRow kept same] at isOpen
            refine ⟨skipped, fun found isFound => ?_⟩
            rw [adopted] at isFound
            cases isFound
            exact isOpen
          · intro finds
            exact ⟨old.id, by simp, old, kept, rfl, finds.unclosed old adopted⟩
      | none =>
          rw [fileRule_inserts skipped adopted]
          refine iff_of_true ⟨table.nextKey, by simp,
            newRecord python now policy request window rule table.nextKey, ?_, rfl, rfl⟩
            ⟨skipped, fun row isRow => ?_⟩
          · apply mem_fileRules
            exact List.mem_append_right _ (List.mem_singleton.2 rfl)
          · rw [adopted] at isRow
            cases isRow

theorem namesOpenRow_fileRules :
    NamesOpenRow (fileRules python now policy request window excluded table rules).1
        (fileRules python now policy request window excluded table rules).2 ↔
      ∃ rule ∈ rules, FindsNoClosedRow python request window excluded table rule := by
  induction rules generalizing table with
  | nil =>
      constructor
      · rintro ⟨outboxId, member, _⟩
        cases member
      · rintro ⟨rule, member, _⟩
        cases member
  | cons rule rules ih =>
      have split : NamesOpenRow
          (fileRules python now policy request window excluded table (rule :: rules)).1
          (fileRules python now policy request window excluded table (rule :: rules)).2 ↔
          NamesOpenRow (fileRules python now policy request window excluded
              (fileRule python now policy request window excluded table rule).1 rules).1
            (fileRule python now policy request window excluded table rule).2.toList ∨
          NamesOpenRow (fileRules python now policy request window excluded
              (fileRule python now policy request window excluded table rule).1 rules).1
            (fileRules python now policy request window excluded
              (fileRule python now policy request window excluded table rule).1 rules).2 := by
        simp only [fileRules, NamesOpenRow, List.mem_append, or_and_right, exists_or]
      rw [split, namesOpenRow_fileRule, ih, List.exists_mem_cons_iff]
      simp only [findsNoClosedRow_fileRule]

theorem fileRules_ids_ne_nil :
    (fileRules python now policy request window excluded table rules).2 ≠ [] ↔
      ∃ rule ∈ rules, skipsRule python window excluded request rule = false := by
  induction rules generalizing table with
  | nil => simp [fileRules]
  | cons rule rules ih =>
      rw [fileRules, List.exists_mem_cons_iff, ← @ih
        (fileRule python now policy request window excluded table rule).1]
      cases skipped : skipsRule python window excluded request rule with
      | true =>
          rw [fileRule_skipped skipped]
          simp
      | false =>
          cases adopted : adoptedRow python request table rule with
          | some old =>
              rw [fileRule_adopts skipped adopted]
              simp
          | none =>
              rw [fileRule_inserts skipped adopted]
              simp

end Adoption

/-! ## Where a reanalysis agrees with the pipeline -/

section Agreement

variable (runtime : JudgeRuntime) (readings : ReanalysisReadings) (analysis : JsonObject)
  (event : WebhookEvent) (context : WebhookEventContext)

/-- A rule that the decision has matched is not skipped when it is filed. -/
def FilesRule (rule : ForwardRuleSnapshot) : Prop :=
  skipsRule runtime.toPythonRuntime
    (digestWindow runtime.toPythonRuntime readings.now
      (outboxRequest runtime readings analysis event context))
    (aiExcluded runtime.toPythonRuntime (outboxRequest runtime readings analysis event context)
      (matchedRules runtime readings analysis event context))
    (outboxRequest runtime readings analysis event context) rule = false

/-- Under the key of a rule stands no row that was delivered or given up. -/
def KeyUnclosed (outbox : OutboxTable) (rule : ForwardRuleSnapshot) : Prop :=
  ∀ row ∈ adoptedRow runtime.toPythonRuntime
      (outboxRequest runtime readings analysis event context) outbox rule,
    row.status.isTerminal = false

/-- Where the decision is to forward, and some rule is not skipped, one of them has no row yet,
or one that is still to be delivered. -/
def HasOpenDelivery (outbox : OutboxTable) : Prop :=
  (forwardDecision runtime readings analysis event context).shouldForward = true →
    (∃ rule ∈ matchedRules runtime readings analysis event context,
      FilesRule runtime readings analysis event context rule) →
    ∃ rule ∈ matchedRules runtime readings analysis event context,
      FilesRule runtime readings analysis event context rule ∧
        KeyUnclosed runtime readings analysis event context outbox rule

variable {runtime readings analysis event context} {outbox : OutboxTable}
  {tables : ReanalysisTables} {override : Option ImportanceOverride}

theorem lookup_storeAnalysis (stored : tables.events.lookup event.id = some event) :
    (storeAnalysis readings analysis event tables.events).lookup event.id =
      some (withAnalysis analysis readings.now event) := by
  have first : (tables.events.update (fun row => row.id = event.id)
      (withAnalysis analysis readings.now) (withAnalysis_id analysis readings.now)).lookup event.id =
      some (withAnalysis analysis readings.now event) := by
    rw [Table.lookup_update, stored]
    simp
  unfold storeAnalysis
  dsimp only
  split
  · exact first
  · rw [Table.lookup_update, first, Option.map_some]
    split
    · rfl
    · rfl

theorem sameJudgement_pipelineAnalysis_iff (noise : NoiseFindings) :
    SameJudgement analysis (pipelineAnalysis runtime readings analysis override noise event) ↔
      SameJudgement analysis
        (freshAnalysis runtime override (ruledAlert runtime readings event) analysis) := by
  unfold SameJudgement
  refine forall₂_congr fun key member => ?_
  have other : key ≠ "noise_reduction" := by
    rintro rfl
    simp [judgementKeys] at member
  rw [pipelineAnalysis, buildFinalAnalysis, PyDict.get?_set, if_neg other]

theorem importanceOf_congr {first second : JsonObject} (same : SameJudgement first second) :
    importanceOf first = importanceOf second := by
  unfold importanceOf
  rw [same "importance" (by simp [judgementKeys])]

private def standalone : NoiseFindings where
  suppressForward := false
  reason := ""
  relation := "standalone"
  rootCauseEventId := none
  confidence := "0.0"
  relatedAlertCount := 0
  relatedAlertIds := []

theorem judgesLikePipeline_iff (stored : tables.events.lookup event.id = some event) :
    JudgesLikePipeline runtime readings analysis override event
        (storeAnalysis readings analysis event tables.events) ↔
      StandsAsJudged runtime override (ruledAlert runtime readings event) analysis := by
  rw [← sameJudgement_freshAnalysis_iff]
  constructor
  · rintro ⟨row, isRow, judged⟩
    rw [lookup_storeAnalysis stored] at isRow
    cases isRow
    exact (sameJudgement_pipelineAnalysis_iff standalone).1 (judged standalone).2
  · intro same
    refine ⟨_, lookup_storeAnalysis stored, fun noise => ?_⟩
    have judged := (@sameJudgement_pipelineAnalysis_iff runtime readings analysis event override
      noise).2 same
    exact ⟨importanceOf_congr judged, judged⟩

theorem forwardStatus_queued_iff (result : ReanalysisResult) :
    result.forwardStatus = "queued" ↔ result.outboxIds ≠ [] := by
  unfold ReanalysisResult.forwardStatus
  by_cases none : result.outboxIds = []
  · rw [if_neg (by simpa using none)]
    cases result.shouldForward <;> simp [none]
  · simp [none]

theorem namesOpenRow_forwarded_iff :
    ((forwarded runtime readings analysis event context outbox).2 ≠ [] →
        NamesOpenRow (forwarded runtime readings analysis event context outbox).1
          (forwarded runtime readings analysis event context outbox).2) ↔
      HasOpenDelivery runtime readings analysis event context outbox := by
  unfold HasOpenDelivery forwarded
  split
  · rename_i forwards
    rw [createOutboxRecords, fileRules_ids_ne_nil, namesOpenRow_fileRules]
    simp only [forwards, true_implies]
    refine imp_congr_right fun _ => exists_congr fun rule => and_congr_right fun _ => ?_
    exact ⟨fun finds => ⟨finds.filed, finds.unclosed⟩, fun both => ⟨both.1, both.2⟩⟩
  · rename_i withheld
    simp [withheld]

/-- The strict check of the context refuses events without a payload, and no others. -/
theorem checkedContext_isOk (context : WebhookEventContext) :
    (webhookDataFromMapping runtime.floatOfInt true context.asDict).isOk =
      context.parsedData.isSome := by
  obtain ⟨source, parsedData, timestamp, clientIp⟩ := context
  cases parsedData <;> cases clientIp <;> rfl

theorem agreesWithPipeline_iff (stored : tables.events.lookup event.id = some event)
    (built : buildWebhookContext runtime event = .ok context) :
    AgreesWithPipeline runtime readings analysis override event tables ↔
      (context.parsedData.isSome = true →
        JudgesLikePipeline runtime readings analysis override event
            (storeAnalysis readings analysis event tables.events) ∧
          ((forwarded runtime readings analysis event context tables.outbox).2 ≠ [] →
            NamesOpenRow (forwarded runtime readings analysis event context tables.outbox).1
              (forwarded runtime readings analysis event context tables.outbox).2)) := by
  rw [← @checkedContext_isOk runtime context]
  unfold AgreesWithPipeline
  simp only [reanalyzeWebhookEvent, stored, built]
  cases webhookDataFromMapping runtime.floatOfInt true context.asDict with
  | error raised => refine ⟨fun _ passed => ?_, fun _ _ _ passed => ?_⟩ <;> cases passed
  | ok fields =>
      simp only [Except.ok.injEq, Prod.mk.injEq, and_imp]
      constructor
      · intro agrees _
        obtain ⟨judges, reports⟩ := agrees _ _ rfl rfl
        exact ⟨judges, fun named => reports ((forwardStatus_queued_iff _).2 named)⟩
      · intro agrees after result isAfter isResult
        obtain ⟨judges, reports⟩ := agrees rfl
        obtain rfl := isAfter
        obtain rfl := isResult
        exact ⟨judges, fun queued => reports ((forwardStatus_queued_iff _).1 queued)⟩

/-- A reanalysis of an event with a payload agrees with the pipeline just when nothing that
operators have ruled changes the new analysis, and a delivery that it finds is still to be made. -/
theorem reanalysis_agrees_iff (runtime : JudgeRuntime) (readings : ReanalysisReadings)
    (override : Option ImportanceOverride) (analysis : JsonObject) (event : WebhookEvent)
    (context : WebhookEventContext) (tables : ReanalysisTables)
    (stored : tables.events.lookup event.id = some event)
    (built : buildWebhookContext runtime event = .ok context) :
    AgreesWithPipeline runtime readings analysis override event tables ↔
      (context.parsedData.isSome = true →
        StandsAsJudged runtime override (ruledAlert runtime readings event) analysis ∧
          HasOpenDelivery runtime readings analysis event context tables.outbox) := by
  rw [agreesWithPipeline_iff stored built, judgesLikePipeline_iff stored,
    namesOpenRow_forwarded_iff]

def diskEvent (id : Nat) : WebhookEvent :=
  filled id 0 none
    { source := "grafana"
      parsedData := some [("alertname", .str "disk full")]
      importance := some "high"
      processingStatus := .completed }

theorem diskEvent_id (id : Nat) : (diskEvent id).id = id :=
  rfl

def highAnalysis : JsonObject :=
  [("importance", .str "high"), ("summary", .str "The disk is full.")]

def diskReadings (inboundRules : List CapRule) : ReanalysisReadings where
  now := 0
  rules := [sampleRoute]
  silences := []
  inboundRules
  forwardingPolicy := ⟨60, true, 6⟩
  deliveryPolicy := ⟨1, one_attempt, fun _ => 0, 0, 0⟩

def diskContext : WebhookEventContext :=
  ⟨"grafana", some [("alertname", .str "disk full")], DateTime.utcIsoformat 0, none⟩

def sentRow (id : Nat) : ForwardOutbox :=
  { newRecord JudgeRuntime.ascii.toPythonRuntime 0 ⟨1, one_attempt, fun _ => 0, 0, 0⟩
      (outboxRequest .ascii (diskReadings []) highAnalysis (diskEvent 1) diskContext) none
      sampleRoute.toForwardRuleSnapshot id with
    status := .sent }

theorem sentRow_id (id : Nat) : (sentRow id).id = id :=
  rfl

def diskTables (outbox : OutboxTable) : ReanalysisTables where
  events := Table.empty.insert diskEvent diskEvent_id
  outbox

theorem matchedRules_disk (inboundRules : List CapRule) :
    matchedRules .ascii (diskReadings inboundRules) highAnalysis (diskEvent 1) diskContext =
      [sampleRoute.toForwardRuleSnapshot] := by
  rfl

/-- Without a ruling, and with no row filed before, the reanalysis agrees. -/
theorem reanalysis_agrees_disk :
    AgreesWithPipeline .ascii (diskReadings []) highAnalysis none (diskEvent 1)
      (diskTables .empty) := by
  refine (reanalysis_agrees_iff .ascii (diskReadings []) none highAnalysis (diskEvent 1) diskContext
    (diskTables .empty) rfl rfl).2 fun _ => ⟨⟨Or.inl ⟨rfl, by decide⟩, rfl⟩, fun _ _ => ?_⟩
  refine ⟨sampleRoute.toForwardRuleSnapshot, ?_, rfl, ?_⟩
  · rw [matchedRules_disk]
    exact List.mem_singleton.2 rfl
  · intro row adopted
    have unfiled : adoptedRow JudgeRuntime.ascii.toPythonRuntime
        (outboxRequest .ascii (diskReadings []) highAnalysis (diskEvent 1) diskContext)
        (diskTables .empty).outbox sampleRoute.toForwardRuleSnapshot = none := rfl
    rw [unfiled] at adopted
    cases adopted

/-- A ceiling is passed over; and a row that was sent is reported as queued. -/
theorem reanalysis_disagrees :
    ¬ AgreesWithPipeline .ascii (diskReadings [capEverything "medium"]) highAnalysis none
        (diskEvent 1) (diskTables .empty) ∧
      ¬ AgreesWithPipeline .ascii (diskReadings []) highAnalysis none (diskEvent 1)
        (diskTables (Table.empty.insert sentRow sentRow_id)) := by
  have built : buildWebhookContext .ascii (diskEvent 1) = .ok diskContext := rfl
  constructor
  · intro agrees
    have judged := ((agreesWithPipeline_iff rfl built).1 agrees rfl).1
    have stands := (judgesLikePipeline_iff rfl).1 judged
    rcases stands.importance with ⟨_, keeps⟩ | ⟨made, isMade, _⟩
    · exact absurd keeps (by decide)
    · cases isMade
  · intro agrees
    have named := ((agreesWithPipeline_iff rfl built).1 agrees rfl).2
    obtain ⟨rule, matched, _, unclosed⟩ := namesOpenRow_forwarded_iff.1 named rfl
      ⟨sampleRoute.toForwardRuleSnapshot, by
        rw [matchedRules_disk]
        exact List.mem_singleton.2 rfl, rfl⟩
    rw [matchedRules_disk] at matched
    rw [List.mem_singleton.1 matched] at unclosed
    exact absurd (unclosed (sentRow 1) rfl) (by decide)

end Agreement

theorem finalized_judgement_first :
    ∃ finalized result,
      finalizeAnalysisTransaction sampleSettings (sampleContext "req-1") sampleFindings
          (sampleReadings [] 0) ⟨Table.empty, Table.empty, Table.empty⟩ =
        some (finalized, result) ∧
      ∃ row, finalized.events.lookup result.saveResult.webhookId = some row ∧
        row.aiAnalysis = some (buildFinalAnalysis sampleFindings) ∧
        row.importance = importanceOf (buildFinalAnalysis sampleFindings) := by
  obtain ⟨⟨finalized, result⟩, ran⟩ := Option.isSome_iff_exists.1 (show
    (finalizeAnalysisTransaction sampleSettings (sampleContext "req-1") sampleFindings
      (sampleReadings [] 0) ⟨Table.empty, Table.empty, Table.empty⟩).isSome = true by
    decide +kernel)
  exact ⟨finalized, result, ran, finalized_judgement ran (by decide +kernel)⟩

end Reanalysis

end WebhookWise

import WebhookWise.ForwardOutboxRecords
import WebhookWise.RuleMatching
import WebhookWise.SensitiveKeys

/-!
# Inbound exclusions at analysis and at delivery

An inbound rule excludes alerts from the model, or from the paid investigation.  The analysis
matches it against the payload of the alert; filing the outbox records matches it against the
envelope, without the source and the rule name.  So an exclusion may hold for the analysis and not
for delivery.
-/

namespace WebhookWise

/-- `InboundRuleSnapshot`.  The matched actions do not depend on its other fields. -/
structure InboundRuleSnapshot extends RuleCriteria where
  action : String
  matchRuleName : String := ""
deriving DecidableEq

/-- The parts of a webhook that reach the analysis and the delivery. -/
structure InboundAlert where
  source : String
  parsedData : JsonObject
  body : JsonObject
  headers : JsonObject
  timestamp : String

namespace InboundRules

open RuleMatching ForwardOutboxRecords SqlTable SensitiveKeys

section Matching

variable (runtime : MatchRuntime)

def alertRuleName (parsed : JsonObject) : String :=
  let named (entries : JsonObject) (key : String) : String :=
    strip (JsonObject.strOr runtime.toPythonRuntime entries key "")
  let values := (["RuleName", "alert_name", "AlertName", "alertname"].map (named parsed)).filter
    (· ≠ "")
  match values, PyDict.get? parsed "commonLabels" with
  | value :: _, _ => value
  | [], some (.dict labels) => named labels "alertname"
  | [], _ => ""

def probe (rule : InboundRuleSnapshot) : RuleCriteria :=
  { rule.toRuleCriteria with
    matchDuplicate := if rule.matchDuplicate = "" then "all" else rule.matchDuplicate }

/-- One turn of the loop of `matching_inbound_actions`. -/
def inboundRuleMatches (alert : AlertFacts) (ruleName : String) (rule : InboundRuleSnapshot) :
    Bool :=
  (rule.matchRuleName = "" || csvValueMatches runtime rule.matchRuleName ruleName) &&
    ruleMatches runtime (probe rule) alert

variable (rules : List InboundRuleSnapshot)

def matchingInboundActions (alert : AlertFacts) (ruleName : String) : List String :=
  let identified :=
    { alert with identity := some (extractForwardMatchFields runtime alert.parsedData) }
  (rules.filter (inboundRuleMatches runtime identified ruleName)).map InboundRuleSnapshot.action

/-! ## The envelope of an alert -/

/-- `webhook_full_data` with its headers redacted: the `forward_data` of an alert. -/
def forwardData (alert : InboundAlert) : JsonObject :=
  [("body", .dict alert.body),
    ("headers", .dict (redactHeaders runtime.toPythonRuntime (.str "[REDACTED]") alert.headers)),
    ("parsed_data", .dict alert.parsedData), ("source", .str alert.source),
    ("timestamp", .str alert.timestamp)]

/-! ## The two places where the rules are asked -/

/-- `actions & {SKIP_AI, SKIP_DEEP_ANALYSIS}` -/
def isExclusion (action : String) : Bool :=
  action = "skip_ai" || action = "skip_deep_analysis"

/-- What `analyze_webhook_with_ai` asks `inbound_actions_for`. -/
def actionsAtAnalysis (alert : InboundAlert) : List String :=
  matchingInboundActions runtime rules
    { parsedData := some alert.parsedData, source := alert.source }
    (alertRuleName runtime alert.parsedData)

/-- `str(analysis_result.get("importance") or "") if analysis_result else ""` -/
def analysedImportance (analysisResult : Option JsonObject) : String :=
  JsonObject.strOr runtime.toPythonRuntime (analysisResult.getD []) "importance" ""

/-- What `create_outbox_records` asks `inbound_actions_for`, for the alerts of the
pipeline. -/
def actionsAtDelivery (alert : InboundAlert) (analysisResult : Option JsonObject) : List String :=
  matchingInboundActions runtime rules
    { parsedData := some (forwardData runtime alert)
      eventType := "webhook_forward"
      importance := analysedImportance runtime analysisResult }
    (alertRuleName runtime (forwardData runtime alert))

/-- The arguments of `create_outbox_records` that say nothing about the alert itself. -/
structure Delivery where
  now : DateTime
  policy : ForwardDeliveryPolicy
  webhookId : Option Nat
  origId : Option Nat
  isPeriodicReminder : Bool
  matchedRules : List ForwardRuleSnapshot

/-- The call of `create_outbox_records` which `resolve_and_forward` makes for an alert. -/
def outboxRequest (alert : InboundAlert) (analysisResult : Option JsonObject)
    (delivery : Delivery) : OutboxRequest where
  webhookId := delivery.webhookId
  origId := delivery.origId
  forwardData := some (forwardData runtime alert)
  analysisResult
  formattedPayload := none
  eventType := "webhook_forward"
  isPeriodicReminder := delivery.isPeriodicReminder
  idempotencyExtra := ""
  inboundActions := actionsAtDelivery runtime rules alert analysisResult

def filed (alert : InboundAlert) (analysisResult : Option JsonObject) (delivery : Delivery)
    (table : OutboxTable) : OutboxTable :=
  (createOutboxRecords runtime.toPythonRuntime delivery.now delivery.policy
    (outboxRequest runtime rules alert analysisResult delivery) delivery.matchedRules table).1

/-- An alert which an inbound rule excludes at its analysis is never filed for an
investigation. -/
def HonoursExclusion (alert : InboundAlert) (analysisResult : Option JsonObject) : Prop :=
  (actionsAtAnalysis runtime rules alert).any isExclusion = true →
    ∀ (delivery : Delivery) (table : OutboxTable),
      ∀ row ∈ (filed runtime rules alert analysisResult delivery table).rows,
        row.targetType = "deep_analysis" → row ∈ table.rows

/-- The criteria of an inbound rule, as they are asked at delivery. -/
structure CoversDelivery (alert : InboundAlert) (analysisResult : Option JsonObject)
    (rule : InboundRuleSnapshot) : Prop where
  source : rule.matchSource = ""
  ruleName : csvValueMatches runtime rule.matchRuleName "" = true
  eventType : listCovers runtime rule.matchEventType "webhook_forward" = true
  importance :
    listCovers runtime rule.matchImportance (analysedImportance runtime analysisResult) = true
  duplicate : rule.matchDuplicate ≠ "duplicate"
  project : csvValueMatches runtime rule.matchProject
    (extractForwardMatchFields runtime (some (forwardData runtime alert))).project = true
  region : csvValueMatches runtime rule.matchRegion
    (extractForwardMatchFields runtime (some (forwardData runtime alert))).region = true
  environment : csvEnvironmentMatches runtime rule.matchEnvironment
    (extractForwardMatchFields runtime (some (forwardData runtime alert))).environment = true
  payload : payloadMatches runtime rule.matchPayload (forwardData runtime alert) = true

end Matching

/-! ## What delivery can match -/

variable {runtime : MatchRuntime} {rules : List InboundRuleSnapshot} {alert : InboundAlert}
  {analysisResult : Option JsonObject}

theorem alertRuleName_forwardData (runtime : MatchRuntime) (alert : InboundAlert) :
    alertRuleName runtime (forwardData runtime alert) = "" := by
  have blank : strip "" = "" := by decide
  simp [alertRuleName, forwardData, JsonObject.strOr, PyDict.get?, blank]

theorem duplicateCovers_probe (rule : InboundRuleSnapshot) :
    duplicateCovers (probe rule).matchDuplicate false = true ↔ rule.matchDuplicate ≠ "duplicate" := by
  unfold probe duplicateCovers
  split
  · rename_i blank
    simp [blank]
  · simp

theorem inboundRuleMatches_iff_coversDelivery (rule : InboundRuleSnapshot) :
    inboundRuleMatches runtime
        { parsedData := some (forwardData runtime alert)
          eventType := "webhook_forward"
          importance := analysedImportance runtime analysisResult
          identity := some (extractForwardMatchFields runtime (some (forwardData runtime alert))) }
        "" rule = true ↔
      CoversDelivery runtime alert analysisResult rule := by
  have nameless : (rule.matchRuleName = "" || csvValueMatches runtime rule.matchRuleName "") =
      csvValueMatches runtime rule.matchRuleName "" := by
    by_cases blank : rule.matchRuleName = ""
    · simp [blank, csvValueMatches]
    · simp [blank]
  simp only [inboundRuleMatches, nameless, ruleMatches, Bool.and_eq_true, duplicateCovers_probe,
    runtime.lower_empty, listCovers_empty, Option.getD_some]
  constructor
  · rintro ⟨ruleName, ⟨⟨⟨⟨⟨⟨⟨eventType, importance⟩, source⟩, project⟩, region⟩, environment⟩,
      duplicate⟩, payload⟩⟩
    exact ⟨source, ruleName, eventType, importance, duplicate, project, region, environment,
      payload⟩
  · intro covers
    exact ⟨covers.ruleName, ⟨⟨⟨⟨⟨⟨⟨covers.eventType, covers.importance⟩, covers.source⟩,
      covers.project⟩, covers.region⟩, covers.environment⟩, covers.duplicate⟩, covers.payload⟩⟩

theorem excluded_at_delivery_iff :
    (actionsAtDelivery runtime rules alert analysisResult).any isExclusion = true ↔
      ∃ rule ∈ rules, isExclusion rule.action = true ∧
        CoversDelivery runtime alert analysisResult rule := by
  unfold actionsAtDelivery matchingInboundActions
  rw [alertRuleName_forwardData]
  simp only [List.any_map, List.any_filter, List.any_eq_true, Bool.and_eq_true,
    Function.comp_apply]
  constructor
  · rintro ⟨rule, member, matches_, excludes⟩
    exact ⟨rule, member, excludes, (inboundRuleMatches_iff_coversDelivery rule).1 matches_⟩
  · rintro ⟨rule, member, excludes, covers⟩
    exact ⟨rule, member, (inboundRuleMatches_iff_coversDelivery rule).2 covers, excludes⟩

/-! ## Filing an alert -/

theorem ruleTargetType_eq_deepAnalysis_iff (rule : ForwardRuleSnapshot) :
    ruleTargetType rule = "deep_analysis" ↔ rule.targetType = "deep_analysis" := by
  unfold ruleTargetType
  split
  · rename_i blank
    simp [blank]
  · rfl

theorem mem_of_deepAnalysis {delivery : Delivery} {table : OutboxTable} {row : ForwardOutbox}
    (excluded :
      analysisRoute runtime.toPythonRuntime analysisResult "rule" = "rule_excluded" ∨
        (actionsAtDelivery runtime rules alert analysisResult).any isExclusion = true)
    (member : row ∈ (filed runtime rules alert analysisResult delivery table).rows)
    (investigates : row.targetType = "deep_analysis") : row ∈ table.rows := by
  rcases origin_of_mem_createOutboxRecords member with old | ⟨rule, ruleMember, kept, id, rfl⟩
  · exact old
  · exfalso
    change ruleTargetType rule = "deep_analysis" at investigates
    have inPlay : delivery.matchedRules.any (fun rule => rule.targetType = "deep_analysis") =
        true := by
      rw [List.any_eq_true]
      exact ⟨rule, ruleMember,
        decide_eq_true ((ruleTargetType_eq_deepAnalysis_iff rule).1 investigates)⟩
    have asked : aiExcluded runtime.toPythonRuntime
        (outboxRequest runtime rules alert analysisResult delivery) delivery.matchedRules = true := by
      unfold aiExcluded
      rcases excluded with route | actions
      · simp [outboxRequest, route]
      · rw [Bool.or_eq_true, Bool.and_eq_true]
        exact Or.inr ⟨inPlay, actions⟩
    simp [skipsRule, asked, investigates] at kept

private def investigationRule : ForwardRuleSnapshot where
  id := some 1
  name := "investigate"
  targetType := "deep_analysis"
  targetUrl := ""
  targetName := ""
  targetGateway := ""

private def investigation : Delivery where
  now := 0
  policy := ⟨1, Nat.le_refl 1, fun _ => 0, 0, 0⟩
  webhookId := some 1
  origId := none
  isPeriodicReminder := false
  matchedRules := [investigationRule]

theorem exists_deepAnalysis
    (route : analysisRoute runtime.toPythonRuntime analysisResult "rule" ≠ "rule_excluded")
    (actions : (actionsAtDelivery runtime rules alert analysisResult).any isExclusion ≠ true) :
    ∃ row ∈ (filed runtime rules alert analysisResult investigation Table.empty).rows,
      row.targetType = "deep_analysis" := by
  have allowed : aiExcluded runtime.toPythonRuntime
      (outboxRequest runtime rules alert analysisResult investigation)
      investigation.matchedRules = false := by
    apply Bool.eq_false_of_not_eq_true
    intro asked
    rw [aiExcluded, Bool.or_eq_true, Bool.and_eq_true, decide_eq_true_eq] at asked
    rcases asked with excludedRoute | ⟨-, excludedActions⟩
    · exact route excludedRoute
    · exact actions excludedActions
  let request := outboxRequest runtime rules alert analysisResult investigation
  let window := digestWindow runtime.toPythonRuntime investigation.now request
  have files : filesRow runtime.toPythonRuntime investigation.now investigation.policy request
      window false Table.empty investigationRule = true := by
    have unreminded : request.isPeriodicReminder = false := rfl
    simp [filesRow, skipsRule, unreminded, ruleTargetType, investigationRule, findOutboxIdByKey,
      Table.empty]
  refine ⟨newRecord runtime.toPythonRuntime investigation.now investigation.policy request window
    investigationRule 1, ?_, rfl⟩
  unfold filed createOutboxRecords
  rw [fileRules_table, allowed]
  change _ ∈ (tableAfterRule _ _ _ request window false Table.empty investigationRule).rows
  rw [tableAfterRule_eq, if_pos files]
  exact Table.mem_insert.2 (Or.inr rfl)

/-- The exclusion of an alert holds in delivery exactly when the analysis itself was
skipped for it, or some excluding rule also covers what delivery asks about. -/
theorem honoursExclusion_iff (runtime : MatchRuntime) (rules : List InboundRuleSnapshot)
    (alert : InboundAlert) (analysisResult : Option JsonObject) :
    HonoursExclusion runtime rules alert analysisResult ↔
      ((actionsAtAnalysis runtime rules alert).any isExclusion = true →
        analysisRoute runtime.toPythonRuntime analysisResult "rule" = "rule_excluded" ∨
          ∃ rule ∈ rules, isExclusion rule.action = true ∧
            CoversDelivery runtime alert analysisResult rule) := by
  constructor
  · intro honours excluded
    by_contra missed
    rw [not_or, ← excluded_at_delivery_iff] at missed
    rcases exists_deepAnalysis missed.1 missed.2 with ⟨row, member, investigates⟩
    have old := honours excluded investigation Table.empty row member investigates
    simp [Table.empty] at old
  · intro covered excluded delivery table row member investigates
    apply mem_of_deepAnalysis ?_ member investigates
    rw [excluded_at_delivery_iff]
    exact covered excluded

private def grafanaAlert : InboundAlert where
  source := "grafana"
  parsedData := [("alertname", .str "HighCPU"), ("status", .str "firing")]
  body := [("alertname", .str "HighCPU"), ("status", .str "firing")]
  headers := []
  timestamp := ""

private def highAnalysis : JsonObject :=
  [("importance", .str "high"), ("_route_type", .str "ai")]

/-- A rule that excludes the alerts of one source, and a fresh analysis: the alert goes to
the investigator. -/
theorem excluded_source_is_investigated :
    ¬ HonoursExclusion (.ascii ⟨[], [], [], []⟩)
      [{ action := "skip_deep_analysis", matchSource := "grafana" }] grafanaAlert
      (some highAnalysis) := by
  intro honours
  obtain ⟨row, member, investigates⟩ : ∃ row ∈ (filed (.ascii ⟨[], [], [], []⟩)
      [{ action := "skip_deep_analysis", matchSource := "grafana" }] grafanaAlert
      (some highAnalysis) investigation Table.empty).rows, row.targetType = "deep_analysis" :=
    exists_deepAnalysis (by decide) (by decide)
  have old := honours (by decide) investigation Table.empty row member investigates
  simp [Table.empty] at old

end InboundRules

end WebhookWise
